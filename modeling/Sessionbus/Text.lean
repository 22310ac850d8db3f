import Mathlib.Data.String.Basic

/-! # Text: cutting at a separator, and decimal numbers -/

namespace Text

/-- `strings.Cut` at a one-character separator. -/
def cut (s : String) (sep : Char) : Option (String × String) :=
  match s.toList.dropWhile (· != sep) with
  | [] => none
  | _ :: after => some (String.ofList (s.toList.takeWhile (· != sep)), String.ofList after)

/-- `strconv.ParseUint`, except that a number of more than 64 bits is read too. -/
def parseUint (s : String) : Option Nat :=
  if s.toList ≠ [] ∧ s.toList.all Char.isDigit then some (Nat.ofDigitChars 10 s.toList 0) else none

/-- `strconv.FormatUint(n, 10)`. -/
def formatUint (n : Nat) : String := n.repr

theorem cut_append (a b : String) (sep : Char) (h : sep ∉ a.toList) :
    cut (a ++ String.singleton sep ++ b) sep = some (a, b) := by
  have hall : ∀ c ∈ a.toList, (c != sep) = true := by
    intro c hc
    simp only [bne_iff_ne, ne_eq]
    rintro rfl
    exact h hc
  have htext : (a ++ String.singleton sep ++ b).toList = a.toList ++ sep :: b.toList := by simp
  unfold cut
  rw [htext, List.dropWhile_append_of_pos hall, List.takeWhile_append_of_pos hall]
  simp

theorem parseUint_formatUint (n : Nat) : parseUint (formatUint n) = some n := by
  have hne : Nat.toDigits 10 n ≠ [] := Nat.toDigits_ne_nil
  have hall : (Nat.toDigits 10 n).all Char.isDigit = true := by
    rw [List.all_eq_true]
    intro c hc
    exact Nat.isDigit_of_mem_toDigits (by omega) (by omega) hc
  unfold parseUint formatUint
  rw [Nat.toList_repr, if_pos ⟨hne, hall⟩, Nat.ofDigitChars_ten_toDigits]

theorem formatUint_injective {m n : Nat} (h : formatUint m = formatUint n) : m = n := by
  have := congrArg parseUint h
  rw [parseUint_formatUint, parseUint_formatUint] at this
  exact Option.some.inj this

/-! ## Decimal numbers without leading zeros -/

theorem head_toDigits_ne {n : Nat} (h : 0 < n) : (Nat.toDigits 10 n).head? ≠ some '0' := by
  induction n using Nat.strongRecOn with
  | ind n ih =>
    rcases Nat.lt_or_ge n 10 with hlt | hge
    · rw [Nat.toDigits_of_lt_base hlt]
      simpa using Nat.pos_iff_ne_zero.mp h
    · have hq : 0 < n / 10 := Nat.div_pos hge (by omega)
      have hsplit := Nat.toDigits_append_toDigits (b := 10) (by omega) hq (Nat.mod_lt n (by omega))
      rw [Nat.div_add_mod] at hsplit
      rw [← hsplit, List.head?_append_of_ne_nil _ Nat.toDigits_ne_nil]
      exact ih _ (Nat.div_lt_self h (by omega)) hq

theorem toDigits_digit {c : Char} (h : c.isDigit = true) :
    c.toNat - '0'.toNat < 10 ∧ Nat.toDigits 10 (c.toNat - '0'.toNat) = [c] := by
  have hall : ∀ n < 58, 48 ≤ n → (n - '0'.toNat).digitChar = Char.ofNat n := by decide
  have hrange : 48 ≤ c.toNat ∧ c.toNat ≤ 57 := by
    simp only [Char.isDigit, Bool.and_eq_true, decide_eq_true_eq] at h
    exact ⟨h.1, h.2⟩
  have hlt : c.toNat - '0'.toNat < 10 := by
    have : '0'.toNat = 48 := rfl
    omega
  refine ⟨hlt, ?_⟩
  rw [Nat.toDigits_of_lt_base hlt, hall c.toNat (by omega) hrange.1, Char.ofNat_toNat]

theorem toDigits_ofDigitChars {k : Nat} (hk : 0 < k) {l : List Char}
    (hl : l.all Char.isDigit = true) :
    Nat.toDigits 10 (Nat.ofDigitChars 10 l k) = Nat.toDigits 10 k ++ l := by
  induction l generalizing k with
  | nil => simp
  | cons c l ih =>
    simp only [List.all_cons, Bool.and_eq_true] at hl
    obtain ⟨hlt, hdigit⟩ := toDigits_digit hl.1
    rw [Nat.ofDigitChars_cons, ih (by omega) hl.2,
      ← Nat.toDigits_append_toDigits (by omega) hk hlt, hdigit]
    simp

theorem formatUint_eq_iff {c : Char} {l : List Char} (h : (c :: l).all Char.isDigit = true) :
    0 < Nat.ofDigitChars 10 (c :: l) 0 ∧
      formatUint (Nat.ofDigitChars 10 (c :: l) 0) = String.ofList (c :: l) ↔ c ≠ '0' := by
  have hl := h
  simp only [List.all_cons, Bool.and_eq_true] at hl
  obtain ⟨hlt, hdigit⟩ := toDigits_digit hl.1
  constructor
  · rintro ⟨hpos, htext⟩ rfl
    have hhead := head_toDigits_ne hpos
    have htext := congrArg String.toList htext
    rw [formatUint, Nat.toList_repr, String.toList_ofList] at htext
    rw [htext] at hhead
    exact hhead rfl
  · intro hne
    have hpos : 0 < c.toNat - '0'.toNat := by
      refine Nat.pos_of_ne_zero fun hzero => hne ?_
      rw [hzero] at hdigit
      simpa using hdigit.symm
    have hformat : Nat.toDigits 10 (Nat.ofDigitChars 10 (c :: l) 0) = c :: l := by
      rw [Nat.ofDigitChars_cons, Nat.mul_zero, Nat.zero_add,
        toDigits_ofDigitChars hpos hl.2, hdigit]
      rfl
    refine ⟨Nat.pos_of_ne_zero fun hzero => ?_, ?_⟩
    · rw [hzero] at hformat
      exact hne (List.cons.inj hformat).1.symm
    · apply String.toList_injective
      rw [formatUint, Nat.toList_repr, hformat, String.toList_ofList]

end Text
