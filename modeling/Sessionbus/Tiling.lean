import Mathlib.Data.List.Basic

/-! # Tilings: ranges of numbers that follow one another without a hole -/

namespace Tiling

/-- The ranges take up the numbers after `low` and up to `high`, in order. -/
def Tiles (low high : Nat) : List (Nat × Nat) → Prop
  | [] => low = high
  | r :: rest => r.1 = low + 1 ∧ r.1 ≤ r.2 ∧ Tiles r.2 high rest

def inside (k : Nat) (r : Nat × Nat) : Bool := r.1 ≤ k && k ≤ r.2

variable {a b c : Nat} {l l' : List (Nat × Nat)}

theorem inside_iff {k : Nat} {r : Nat × Nat} : inside k r = true ↔ r.1 ≤ k ∧ k ≤ r.2 := by
  unfold inside
  rw [Bool.and_eq_true, decide_eq_true_eq, decide_eq_true_eq]

theorem Tiles.le (h : Tiles a b l) : a ≤ b := by
  induction l generalizing a with
  | nil => exact Nat.le_of_eq h
  | cons r rest ih =>
    obtain ⟨first, ordered, tiles⟩ := h
    have := ih tiles
    omega

theorem tiles_append : Tiles a c (l ++ l') ↔ ∃ b, Tiles a b l ∧ Tiles b c l' := by
  induction l generalizing a with
  | nil =>
    constructor
    · intro h
      exact ⟨a, rfl, h⟩
    · rintro ⟨b, rfl, h⟩
      exact h
  | cons r rest ih =>
    constructor
    · rintro ⟨first, ordered, h⟩
      obtain ⟨b, left, right⟩ := ih.mp h
      exact ⟨b, ⟨first, ordered, left⟩, right⟩
    · rintro ⟨b, ⟨first, ordered, left⟩, right⟩
      exact ⟨first, ordered, ih.mpr ⟨b, left, right⟩⟩

theorem Tiles.snoc (h : Tiles a b l) (ordered : b + 1 ≤ c) : Tiles a c (l ++ [(b + 1, c)]) :=
  tiles_append.mpr ⟨b, h, rfl, ordered, rfl⟩

theorem Tiles.within (h : Tiles a b l) {r : Nat × Nat} (hr : r ∈ l) :
    a < r.1 ∧ r.1 ≤ r.2 ∧ r.2 ≤ b := by
  induction l generalizing a with
  | nil => simp at hr
  | cons q rest ih =>
    obtain ⟨first, ordered, tiles⟩ := h
    have bound := tiles.le
    rcases List.mem_cons.mp hr with rfl | hr
    · omega
    · have := ih tiles hr
      omega

theorem Tiles.pairwise (h : Tiles a b l) : l.Pairwise fun r s => r.2 < s.1 := by
  induction l generalizing a with
  | nil => exact List.Pairwise.nil
  | cons r rest ih =>
    obtain ⟨-, -, tiles⟩ := h
    exact List.Pairwise.cons (fun s hs => (tiles.within hs).1) (ih tiles)

theorem Tiles.increasing (h : Tiles a b l) : (l.map Prod.snd).Pairwise (· < ·) := by
  rw [List.pairwise_map]
  refine h.pairwise.imp_of_mem fun {r s} _ hs apart => ?_
  have := (h.within hs).2.1
  omega

theorem Tiles.countP_outside (h : Tiles a b l) {k : Nat} (out : k ≤ a) :
    l.countP (inside k) = 0 := by
  rw [List.countP_eq_zero]
  intro r hr inr
  have := h.within hr
  rw [inside_iff] at inr
  omega

/-- Every number is in exactly one range. -/
theorem Tiles.countP_inside (h : Tiles a b l) {k : Nat} (low : a < k) (high : k ≤ b) :
    l.countP (inside k) = 1 := by
  induction l generalizing a with
  | nil =>
    have : a = b := h
    omega
  | cons r rest ih =>
    obtain ⟨first, ordered, tiles⟩ := h
    by_cases here : k ≤ r.2
    · rw [List.countP_cons_of_pos (inside_iff.mpr ⟨by omega, here⟩), tiles.countP_outside here]
    · rw [List.countP_cons_of_neg (by rw [inside_iff]; omega)]
      exact ih tiles (by omega)

end Tiling
