import Mathlib.Data.List.TakeDrop

/-!
# Names and IDs

`helpers.go`: a name or an ID of this host ends in `@` and the host.
-/

namespace Sessionbus

def qualify (value host : String) : String := if value = "" then "" else value ++ "@" ++ host

/-- `unicode.IsPrint` and `unicode.IsSpace`. -/
structure Unicode where
  print : Char → Bool
  space : Char → Bool

def tokenChar (c : Char) : Bool := ('a' ≤ c && c ≤ 'z') || ('0' ≤ c && c ≤ '9')

/-- The pattern `^[a-z0-9][a-z0-9-]{0,31}$`. -/
def validHost (value : String) : Bool :=
  match value.toList with
  | [] => false
  | c :: rest => tokenChar c && rest.all (fun c => tokenChar c || c == '-') && rest.length ≤ 31

def validIDPart (u : Unicode) (value : String) : Bool :=
  0 < value.length && value.length ≤ 128 && value.toList.all fun c => u.print c && !u.space c

def validNamePart (u : Unicode) (value : String) : Bool :=
  0 < value.length && value.length ≤ 128 && value.toList.all u.print

/-- The texts before and after the last `@`. -/
def splitHost (value : String) : Option (String × String) :=
  match value.toList.reverse.dropWhile (· != '@') with
  | [] => none
  | _ :: before =>
    some (String.ofList before.reverse,
      String.ofList (value.toList.reverse.takeWhile (· != '@')).reverse)

theorem splitHost_eq {value part host : String} (h : splitHost value = some (part, host)) :
    value = part ++ "@" ++ host := by
  have whole : value.toList.reverse.takeWhile (· != '@') ++
      value.toList.reverse.dropWhile (· != '@') = value.toList.reverse :=
    List.takeWhile_append_dropWhile
  unfold splitHost at h
  split at h
  · cases h
  next c before found =>
    have at_ : c = '@' := by
      have stopped := List.head?_dropWhile_not (· != '@') value.toList.reverse
      simpa [found] using stopped
    simp only [Option.some.injEq, Prod.mk.injEq] at h
    obtain ⟨rfl, rfl⟩ := h
    rw [found, at_] at whole
    have turned := congrArg List.reverse whole
    simp only [List.reverse_append, List.reverse_cons, List.reverse_reverse] at turned
    apply String.toList_injective
    simp only [String.toList_append, String.toList_ofList]
    exact turned.symm

/-- The qualified target and its host; `none` is the code `invalid_frame`. -/
def canonicalTarget (value here : String) (valid : String → Bool) : Option (String × String) :=
  match splitHost value with
  | some (part, host) => if valid part && validHost host then some (value, host) else none
  | none => if valid value then some (qualify value here, here) else none

def alphabet : List Char := "abcdefghijklmnopqrstuvwxyz0123456789".toList

/-- `randomID` with the bytes that it reads. -/
def randomID (kind : String) (bytes : Vector UInt8 12) : String :=
  kind ++ "-" ++
    String.ofList (bytes.toList.map fun b => alphabet.getD (b.toNat % alphabet.length) 'a')

theorem randomID_alphabet {kind : String} {bytes : Vector UInt8 12} {c : Char}
    (h : c ∈ (randomID kind bytes).toList) : c ∈ kind.toList ∨ c = '-' ∨ c ∈ alphabet := by
  unfold randomID at h
  simp only [String.toList_append, String.toList_ofList, List.mem_append, List.mem_map] at h
  rcases h with (h | h) | ⟨b, -, rfl⟩
  · exact .inl h
  · exact .inr (.inl (by simpa using h))
  · refine .inr (.inr ?_)
    have hlt : b.toNat % alphabet.length < alphabet.length := Nat.mod_lt _ (by decide)
    rw [List.getD_eq_getElem?_getD, List.getElem?_eq_getElem hlt]
    exact List.getElem_mem hlt

end Sessionbus
