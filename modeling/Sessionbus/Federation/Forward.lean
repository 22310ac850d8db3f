import Sessionbus.Names

/-!
# Hosts of forwarded requests

`forward.go`: the host of a target, as the hub and the daemon's end of the link read it. Here
`local` is no host.
-/

namespace Sessionbus

/-! ## The host of a qualified text -/

theorem splitHost_append {part host : String} (free : '@' ∉ host.toList) :
    splitHost (part ++ "@" ++ host) = some (part, host) := by
  have text : (part ++ "@" ++ host).toList.reverse = host.toList.reverse ++
      '@' :: part.toList.reverse := by simp
  have all : ∀ c ∈ host.toList.reverse, (c != '@') = true := by
    intro c hc
    simp only [bne_iff_ne, ne_eq]
    rintro rfl
    exact free (List.mem_reverse.mp hc)
  unfold splitHost
  rw [text, List.dropWhile_append_of_pos all, List.takeWhile_append_of_pos all]
  simp

theorem validHost_free {host : String} (h : validHost host = true) : '@' ∉ host.toList := by
  unfold validHost at h
  split at h
  · cases h
  next c rest chars =>
    simp only [Bool.and_eq_true, List.all_eq_true] at h
    rw [chars]
    intro mem
    rcases List.mem_cons.mp mem with rfl | mem
    · exact absurd h.1.1 (by decide)
    · exact absurd (h.1.2 '@' mem) (by decide)

/-! ## Hosts -/

/-- `validToken` has the pattern of the daemon's host names. -/
def validToken (value : String) : Bool := validHost value

namespace Federation

def validHost (value : String) : Bool := value != "local" && validToken value

/-- `none` is `errFrame`. -/
def suffix (value : String) : Option String :=
  match splitHost value with
  | some (part, host) => if part ≠ "" ∧ validHost host then some host else none
  | none => none

theorem suffix_eq_some {value host : String} :
    suffix value = some host ↔ ∃ part, splitHost value = some (part, host) ∧ part ≠ "" ∧
    validHost host = true := by
  unfold suffix
  split
  · rename_i part there found
    constructor
    · intro h
      split at h
      · rename_i ok
        cases h
        exact ⟨part, found, ok⟩
      · cases h
    · rintro ⟨part', hsplit, ok⟩
      rw [found] at hsplit
      cases hsplit
      simp [ok]
  · rename_i found
    simp [found]

end Federation

end Sessionbus
