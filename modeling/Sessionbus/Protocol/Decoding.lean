import Sessionbus.Json.LastWins
import Sessionbus.Json.Rounding
import Sessionbus.Protocol.Typed

/-!
# When typed decoding agrees with validation
-/

namespace Sessionbus

open Json Schema

/-! ## Texts that are decoded as they are read -/

/-- The text is decoded into the type, and leaves nothing behind when the field is decoded again. -/
def GoType.spent : GoType → Raw → Bool
  | _, .null => true
  | .string, .str _ => true
  | .bool, .bool _ => true
  | .int64, .num l => (parseInt64 l).isSome
  | .integer, .num l => (binary64 l.value).any (·.isInt)
  | .anyMap, .obj [] => true
  | .slice item, .arr items => items.all fun x => item.spent x
  | .pointer target, raw => target.spent raw
  | _, _ => false
termination_by structural x => x

mutual

/-- A number for an `int64` is plain, and of several members for one field all but the last are
spent. -/
def GoType.clean : GoType → Raw → Bool
  | .int64, .num l => l.plain
  | .slice item, .arr items => items.all fun x => item.clean x
  | .pointer target, raw => target.clean raw
  | .struct fields, .obj members => cleanFields fields members
  | _, _ => true
termination_by structural x => x

def cleanFields : List (String × GoType) → List (String × Raw) → Bool
  | (name, type) :: fields, members =>
    let own := members.filter fun m => m.1 == name
    own.dropLast.all (fun m => type.spent m.2) && own.getLast?.all (fun m => type.clean m.2) &&
      cleanFields fields members
  | [], _ => true
termination_by structural x => x

end

mutual

theorem seen_zero : ∀ type : GoType, type.seen type.zero = type.zero
  | .struct fields => by simp only [GoType.zero, GoType.seen, seenFields_zero fields]
  | .string | .bool | .int64 | .integer | .anyMap | .slice _ | .pointer _ => rfl

theorem seenFields_zero : ∀ fields, seenFields fields (zeroFields fields) = zeroFields fields
  | [] => rfl
  | (name, type) :: fields => by
    simp only [zeroFields, seenFields, seen_zero type, seenFields_zero fields]

end

theorem fieldFor_self {names : List String} {name : String} (h : name ∈ names) :
    fieldFor names name = some name := by
  simp [fieldFor, h]

theorem zeroFields_lookup {fields : List (String × GoType)} (nodup : (fields.map Prod.fst).Nodup) :
    ∀ f ∈ fields, ((zeroFields fields).lookup f.1).getD f.2.zero = f.2.zero := by
  induction fields with
  | nil => simp
  | cons g fields ih =>
    obtain ⟨name, type⟩ := g
    simp only [List.map_cons, List.nodup_cons] at nodup
    rintro f (_ | ⟨_, hf⟩)
    · simp [zeroFields]
    · have other : (f.1 == name) = false := by
        rw [beq_eq_false_iff_ne]
        intro same
        exact nodup.1 (same ▸ List.mem_map_of_mem hf)
      simp only [zeroFields, List.lookup_cons, other]
      exact ih nodup.2 f hf

/-! ## Rules and types -/

variable {s : Root}

end Sessionbus
