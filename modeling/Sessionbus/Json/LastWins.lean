import Sessionbus.Json.Text

/-!
# The last member wins
-/

namespace Json

variable {α β : Type}

/-- One member of `lastWins`. -/
def put (kept : List (String × α)) (m : String × α) : List (String × α) :=
  kept.filter (·.1 ≠ m.1) ++ [m]

theorem lastWins_eq (members : List (String × α)) : lastWins members = members.foldl put [] := rfl

theorem foldl_put_of_nodup {members kept : List (String × α)}
    (h : ((kept ++ members).map Prod.fst).Nodup) : members.foldl put kept = kept ++ members := by
  induction members generalizing kept with
  | nil => simp
  | cons m members ih =>
    have fresh : kept.filter (·.1 ≠ m.1) = kept := by
      rw [List.filter_eq_self]
      intro x hx
      simp only [List.map_append, List.map_cons, List.nodup_append] at h
      simpa using h.2.2 x.1 (List.mem_map_of_mem hx) m.1 (by simp)
    rw [List.foldl_cons, put, fresh, ih (by simpa using h)]
    simp

theorem lastWins_of_nodup {members : List (String × α)} (h : (members.map Prod.fst).Nodup) :
    lastWins members = members := by
  rw [lastWins_eq, foldl_put_of_nodup (by simpa using h), List.nil_append]

/-- Lists whose members have the same names, and related values. -/
def Matched (r : α → β → Prop) : List (String × α) → List (String × β) → Prop :=
  List.Forall₂ fun m n => m.1 = n.1 ∧ r m.2 n.2

theorem Matched.filter {r : α → β → Prop} {ms : List (String × α)} {ns : List (String × β)}
    (h : Matched r ms ns) (name : String) :
    Matched r (ms.filter (·.1 == name)) (ns.filter (·.1 == name)) := by
  induction h with
  | nil => exact .nil
  | cons hm _ ih =>
    rw [List.filter_cons, List.filter_cons, hm.1]
    split
    · exact .cons hm ih
    · exact ih

end Json
