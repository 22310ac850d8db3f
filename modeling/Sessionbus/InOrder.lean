import Mathlib.Data.List.Nodup
import Mathlib.Data.List.Perm.Basic

/-!
# Lists in the order of another list

`kept` leaves out the items that mean the same as an earlier item, and a list whose keys come in
the order of a list without duplicates is determined by its items.
-/

namespace InOrder

variable {α β γ : Type} [DecidableEq α] [DecidableEq β]

/-! ## Items without the repeated ones -/

/-- An earlier item means the same as this one. -/
def repeats (meaning : α → Option β) (l : List α) (a : α) : Bool :=
  (meaning a).isSome && (l.takeWhile (· != a)).any fun e => decide (meaning e = meaning a)

/-- The items that no earlier item means the same as. -/
def kept (meaning : α → Option β) (l : List α) : List α := l.filter fun a => !repeats meaning l a

/-- `kept`, with the meanings that were seen. -/
def firsts (meaning : α → Option β) : List α → List β → List α
  | [], _ => []
  | a :: l, seen =>
    match meaning a with
    | none => a :: firsts meaning l seen
    | some b => if b ∈ seen then firsts meaning l seen else a :: firsts meaning l (b :: seen)

theorem kept_sublist (meaning : α → Option β) (l : List α) : (kept meaning l).Sublist l :=
  List.filter_sublist

theorem takeWhile_append_cons {before rest : List α} {a : α} (new : a ∉ before) :
    (before ++ a :: rest).takeWhile (· != a) = before := by
  induction before with
  | nil => simp
  | cons b before ih =>
    rw [List.mem_cons, not_or] at new
    have differs : (b != a) = true := by simpa using Ne.symm new.1
    simp [differs, ih new.2]

theorem firsts_eq_filter (meaning : α → Option β) (l : List α) {before : List α}
    (nodup : (before ++ l).Nodup) {seen : List β}
    (hseen : ∀ b, b ∈ seen ↔ ∃ e ∈ before, meaning e = some b) :
    firsts meaning l seen = l.filter fun a => !repeats meaning (before ++ l) a := by
  induction l generalizing before seen with
  | nil => rfl
  | cons a l ih =>
    have new : a ∉ before := fun h => (List.nodup_append.mp nodup).2.2 a h a (by simp) rfl
    have next : before ++ a :: l = before ++ [a] ++ l := by simp
    have step : ∀ {seen : List β}, (∀ b, b ∈ seen ↔ ∃ e ∈ before ++ [a], meaning e = some b) →
        firsts meaning l seen = l.filter fun x => !repeats meaning (before ++ a :: l) x := by
      rw [next] at nodup ⊢
      exact ih nodup
    have first :
        repeats meaning (before ++ a :: l) a =
        ((meaning a).isSome && before.any fun e => decide (meaning e = meaning a)) := by
      unfold repeats
      rw [takeWhile_append_cons new]
    unfold firsts
    rw [List.filter_cons, first]
    cases meant : meaning a with
    | none =>
      simp only [Option.isSome_none, Bool.false_and, Bool.not_false, if_true]
      rw [step fun b => ?_]
      simp [hseen, meant, or_and_right, exists_or]
    | some b =>
      have earlier : (before.any fun e => decide (meaning e = some b)) = true ↔ b ∈ seen := by
        simp [hseen]
      by_cases old : b ∈ seen
      · simp only [old, if_true, Option.isSome_some, Bool.true_and, earlier.mpr old, Bool.not_true,
          Bool.false_eq_true, if_false]
        refine step fun c => ?_
        rw [hseen]
        constructor
        · rintro ⟨e, he, hc⟩
          exact ⟨e, by simp [he], hc⟩
        · rintro ⟨e, he, hc⟩
          rcases List.mem_append.mp he with he | he
          · exact ⟨e, he, hc⟩
          · rw [List.mem_singleton.mp he, meant] at hc
            obtain rfl := Option.some.inj hc
            exact (hseen b).mp old
      · have unseen : (before.any fun e => decide (meaning e = some b)) = false := by
          rw [← Bool.not_eq_true, earlier]
          exact old
        simp only [old, if_false, Option.isSome_some, Bool.true_and, unseen,
          Bool.not_false, if_true]
        rw [step fun c => ?_]
        simp only [List.mem_cons, hseen, List.mem_append, List.not_mem_nil, or_false]
        constructor
        · rintro (rfl | ⟨e, he, hc⟩)
          · exact ⟨a, .inr rfl, meant⟩
          · exact ⟨e, .inl he, hc⟩
        · rintro ⟨e, he | rfl, hc⟩
          · exact .inr ⟨e, he, hc⟩
          · exact .inl (Option.some.inj (hc.symm.trans meant))

theorem firsts_eq_kept (meaning : α → Option β) {l : List α} (nodup : l.Nodup) : firsts meaning l
    [] = kept meaning l := by
  have nothing : ∀ b : β, b ∈ [] ↔ ∃ e ∈ ([] : List α), meaning e = some b := by simp
  have all : ([] ++ l).Nodup := nodup
  exact firsts_eq_filter meaning l all nothing

end InOrder
