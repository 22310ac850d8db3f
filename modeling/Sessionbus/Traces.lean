import Mathlib.Data.List.Basic

/-! # Traces: lists that only grow, what holds at their points, and how they are numbered -/

namespace Trace

variable {α : Type}

/-- `P` holds at every element of the trace, of what is before it and what is after it. -/
def Everywhere (P : List α → α → List α → Prop) (h : List α) : Prop :=
  ∀ a x b, h = a ++ x :: b → P a x b

theorem Everywhere.nil (P : List α → α → List α → Prop) : Everywhere P [] := by
  intro a x b h
  simp at h

/-- A trace grows: the old points bear what comes after them, and the new points hold after it. -/
theorem Everywhere.append {P : List α → α → List α → Prop} {h l : List α} (hh : Everywhere P h)
    (hkeep : ∀ a x b, P a x b → P a x (b ++ l)) (hl : Everywhere (fun a x b => P (h ++ a) x b) l) :
    Everywhere P (h ++ l) := by
  intro a x b hsplit
  rcases List.append_eq_append_iff.mp hsplit with ⟨c, hc, hl'⟩ | ⟨c, hc, hxb⟩
  · subst hc
    exact hl c x b hl'
  · rcases c with _ | ⟨y, c⟩
    · simp only [List.nil_append] at hxb
      simp only [List.append_nil] at hc
      subst hc
      have := hl [] x b hxb.symm
      simpa using this
    · simp only [List.cons_append, List.cons.injEq] at hxb
      obtain ⟨rfl, rfl⟩ := hxb
      exact hkeep _ _ _ (hh _ _ _ hc)

theorem Everywhere.cons {P : List α → α → List α → Prop} {x : α} {l : List α} (hx : P [] x l)
    (hl : Everywhere (fun a y b => P (x :: a) y b) l) : Everywhere P (x :: l) := by
  intro a y b h
  rcases a with _ | ⟨z, a⟩
  · simp only [List.nil_append, List.cons.injEq] at h
    obtain ⟨rfl, rfl⟩ := h
    exact hx
  · simp only [List.cons_append, List.cons.injEq] at h
    obtain ⟨rfl, h⟩ := h
    exact hl a y b h

theorem Everywhere.of_forall {P : List α → α → List α → Prop} {l : List α}
    (h : ∀ x ∈ l, ∀ a b, P a x b) : Everywhere P l := by
  intro a x b heq
  exact h x (by simp [heq]) a b

theorem Everywhere.of_append {P : List α → α → Prop} {h l : List α}
    (hh : Everywhere (fun a x _ => P a x) (h ++ l)) : Everywhere (fun a x _ => P a x) h := by
  intro a x b heq
  exact hh a x (b ++ l) (by simp [heq])

/-! ## Numbers handed out upwards -/

/-- The numbers are handed out upwards, after `low` and up to `high`. -/
structure Ascending (low high : Nat) (l : List Nat) : Prop where
  le : low ≤ high
  increasing : l.Pairwise (· < ·)
  within : ∀ k ∈ l, low < k ∧ k ≤ high

namespace Ascending

variable {a b c : Nat} {l l' : List Nat}

theorem nil (h : a ≤ b) : Ascending a b [] := ⟨h, List.Pairwise.nil, by simp⟩

theorem append (h : Ascending a b l) (h' : Ascending b c l') : Ascending a c (l ++ l') := by
  refine ⟨Nat.le_trans h.le h'.le, ?_, ?_⟩
  · rw [List.pairwise_append]
    refine ⟨h.increasing, h'.increasing, fun x hx y hy => ?_⟩
    have := h.within x hx
    have := h'.within y hy
    omega
  · intro k hk
    rw [List.mem_append] at hk
    have hle := h.le
    have hle' := h'.le
    rcases hk with hk | hk
    · have := h.within k hk
      omega
    · have := h'.within k hk
      omega

theorem succ (n : Nat) : Ascending n (n + 1) [n + 1] :=
  ⟨Nat.le_succ n, List.pairwise_singleton _ _, by simp⟩

theorem tail {k : Nat} (h : Ascending a b (k :: l)) : a < k ∧ Ascending k b l := by
  have hk := h.within k (by simp)
  refine ⟨hk.1, hk.2, (List.pairwise_cons.mp h.increasing).2, fun m hm => ?_⟩
  have := h.within m (by simp [hm])
  exact ⟨(List.pairwise_cons.mp h.increasing).1 m hm, this.2⟩

theorem sublist (h : Ascending a b l) (hs : l'.Sublist l) : Ascending a b l' :=
  ⟨h.le, h.increasing.sublist hs, fun k hk => h.within k (hs.subset hk)⟩

end Ascending

end Trace
