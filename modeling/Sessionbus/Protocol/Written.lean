import Sessionbus.Json.Spell
import Sessionbus.Protocol.Decoding

/-!
# Structs that were written

`json.Marshal` writes a struct as the members of its fields, under their own names and without
those that `omitempty` leaves out. Decoded again, each field has the value of its member.
-/

namespace Sessionbus

open Json

mutual

/-- `DisallowUnknownFields`: every member of an object for a struct has a field. -/
def GoType.knows : GoType → Raw → Bool
  | .slice item, .arr items => items.all fun x => item.knows x
  | .pointer target, raw => target.knows raw
  | .struct fields, .obj members =>
    members.all (fun m => (fieldFor (fields.map Prod.fst) m.1).isSome) &&
    knowsFields (fields.map Prod.fst) fields members
  | _, _ => true
termination_by structural x => x

def knowsFields (names : List String) : List (String × GoType) → List (String × Raw) → Bool
  | (name, type) :: fields, members =>
    members.all (fun m => fieldFor names m.1 != some name || type.knows m.2) &&
    knowsFields names fields members
  | [], _ => true
termination_by structural x => x

end

theorem knowsFields_written {names : List String} {fields : List (String × GoType)}
    {ms : List (String × Raw)} (known : ∀ m ∈ ms, m.1 ∈ names)
    (each : ∀ f ∈ fields, ∀ m ∈ ms, m.1 = f.1 → f.2.knows m.2 = true) :
    knowsFields names fields ms = true := by
  induction fields with
  | nil => rfl
  | cons f fields ih =>
    obtain ⟨name, type⟩ := f
    rw [knowsFields, ih fun f hf => each f (List.mem_cons_of_mem _ hf), Bool.and_true,
      List.all_eq_true]
    intro m hm
    rw [fieldFor_self (known m hm)]
    by_cases mine : m.1 = name
    · simp [each (name, type) (by simp) m hm mine]
    · simp [mine]

theorem knows_written {fields : List (String × GoType)} {ms : List (String × Raw)}
    (known : ∀ m ∈ ms, m.1 ∈ fields.map Prod.fst)
    (each : ∀ f ∈ fields, ∀ m ∈ ms, m.1 = f.1 → f.2.knows m.2 = true) :
    (GoType.struct fields).knows (.obj ms) = true := by
  rw [GoType.knows, knowsFields_written known each, Bool.and_true, List.all_eq_true]
  intro m hm
  simp [fieldFor_self (known m hm)]

/-- A member that `omitempty` leaves out when it is empty. -/
def omitEmpty (name value : String) : List (String × Raw) :=
  if value = "" then [] else [(name, .str value)]

theorem lookup_omitEmpty (name value key : String) :
    (omitEmpty name value).lookup key =
      if key = name ∧ value ≠ "" then some (.str value) else none := by
  unfold omitEmpty
  by_cases empty : value = ""
  · simp [empty]
  · by_cases same : key = name
    · simp [empty, same]
    · simp [empty, same, List.lookup_cons, beq_eq_false_iff_ne.mpr same]

theorem mem_omitEmpty {name value : String} {m : String × Raw} (h : m ∈ omitEmpty name value) :
    m = (name, .str value) := by
  unfold omitEmpty at h
  split at h
  · exact absurd h (by simp)
  · simpa using h

theorem names_omitEmpty (name value : String) :
    (omitEmpty name value).map Prod.fst = if value = "" then [] else [name] := by
  unfold omitEmpty
  split <;> rfl

theorem filter_name {α : Type} {ms : List (String × α)} (nodup : (ms.map Prod.fst).Nodup)
    (name : String) :
    ms.filter (fun m => m.1 == name) = ((ms.lookup name).map fun x => (name, x)).toList := by
  induction ms with
  | nil => rfl
  | cons m ms ih =>
    obtain ⟨n, x⟩ := m
    simp only [List.map_cons, List.nodup_cons] at nodup
    rw [List.filter_cons, List.lookup_cons]
    by_cases same : n = name
    · subst same
      have rest : ms.filter (fun m => m.1 == n) = [] := by
        rw [List.filter_eq_nil_iff]
        intro m hm
        simp only [beq_iff_eq]
        rintro rfl
        exact nodup.1 (List.mem_map_of_mem hm)
      simp [rest]
    · have other : (name == n) = false := by simpa using Ne.symm same
      simp only [beq_iff_eq, same, if_false, other]
      exact ih nodup.2

theorem decodeFields_exact {names : List String} {ms : List (String × Raw)}
    (known : ∀ m ∈ ms, m.1 ∈ names) (nodup : (ms.map Prod.fst).Nodup)
    {fields : List (String × GoType)} {old : List (String × GoValue)}
    (empty : ∀ f ∈ fields, (old.lookup f.1).getD f.2.zero = f.2.zero) :
    decodeFields names fields old ms = fields.mapM fun f =>
      ((ms.lookup f.1).elim (some f.2.zero) (f.2.decode f.2.zero)).map fun value =>
    (f.1, value) := by
  induction fields with
  | nil => rfl
  | cons f fields ih =>
    obtain ⟨name, type⟩ := f
    have mine : ms.filter (fun m => fieldFor names m.1 == some name) =
        ms.filter (fun m => m.1 == name) :=
      List.filter_congr fun m hm => by simp [fieldFor_self (known m hm)]
    rw [decodeFields, mine, filter_name nodup, ih fun f hf => empty f (List.mem_cons_of_mem _ hf),
      List.mapM_cons, empty (name, type) (by simp)]
    cases ms.lookup name with
    | none => simp
    | some raw => cases h : type.decode type.zero raw <;> simp [h]

theorem sublist_omitEmpty (name value : String) : List.Sublist ((omitEmpty name value).map Prod.fst)
    [name] := by
  rw [names_omitEmpty]
  split
  · exact List.nil_sublist _
  · exact List.Sublist.refl _

theorem decode_written {fields : List (String × GoType)} {ms : List (String × Raw)}
    {values : List (String × GoValue)} (distinct : (fields.map Prod.fst).Nodup)
    (names : List.Sublist (ms.map Prod.fst) (fields.map Prod.fst))
    (each : fields.mapM (fun f => ((ms.lookup f.1).elim (some f.2.zero) (f.2.decode f.2.zero)).map
      fun value => (f.1, value)) = some values) :
    (GoType.struct fields).decode (GoType.struct fields).zero (.obj ms) =
      some (.struct values) := by
  have known : ∀ m ∈ ms, m.1 ∈ fields.map Prod.fst := fun m hm =>
      names.subset (List.mem_map_of_mem hm)
  simp only [GoType.zero, GoType.decode]
  rw [decodeFields_exact known (names.nodup distinct) (zeroFields_lookup distinct), each]
  rfl

theorem decode_omitted (value : String) :
    ((if value = "" then none else some (.str value) : Option Raw).elim (some GoType.string.zero)
      (GoType.string.decode GoType.string.zero)) = some (.string value) := by
  by_cases empty : value = "" <;> simp [empty, GoType.zero, GoType.decode]

theorem decode_pointer {target : GoType} {ms : List (String × Raw)} {value : GoValue}
    (h : target.decode target.zero (.obj ms) = some value) :
    (GoType.pointer target).decode (GoType.pointer target).zero (.obj ms) =
      some (.pointer (some value)) := by
  simp [GoType.zero, GoType.decode, h]

theorem decode_texts (values : List String) :
    GoType.texts.decode GoType.texts.zero (.arr (values.map .str)) =
      some (.slice (some (values.map .string)) []) := by
  have each : reuse (fun value x => GoType.string.decode value x) GoType.string.zero []
      (values.map Node.str) = some (values.map GoValue.string) := by
    induction values with
    | nil => rfl
    | cons v values ih => simp [reuse, ih, GoType.decode]
  cases values with
  | nil => rfl
  | cons v values => simp_all [GoType.texts, GoType.zero, GoType.decode]

theorem parseInt64_ofNat {n : Nat} (h : n ≤ 9223372036854775807) :
    parseInt64 (.ofNat n) = some (n : Int) := by
  have digits : Nat.ofDigitChars 10 (Nat.toDigits 10 n) 0 = n := Nat.ofDigitChars_ten_toDigits
  unfold parseInt64
  simp only [Literal.ofNat, Literal.plain, digits]
  simp
  omega

end Sessionbus
