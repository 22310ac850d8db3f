import Sessionbus.Json
import Sessionbus.Json.Text
import Sessionbus.Text

/-!
# Texts that spell a value

`Spells` says that the parser reads one value at the start of a text, whatever follows it. What
`encoding/json` writes spells what was written, and a text that is one value spells it.
-/

namespace Json

/-- No number goes on here. -/
def Delimited (tail : List Char) : Prop :=
  ∀ c ∈ tail.head?, c.isDigit = false ∧ c ≠ '.' ∧ c ≠ 'e' ∧ c ≠ 'E'

/-- The text is read as the value, up to blanks after it. -/
def Spells (text : List Char) (value : Raw) : Prop :=
  ∃ blanks : List Char, (∀ c ∈ blanks, blank c = true) ∧ ∀ tail, Delimited tail →
    ∀ fuel, 2 * text.length + 2 ≤ fuel → valueOf fuel (text ++ tail) = some (value, blanks ++ tail)

theorem skip_blanks {blanks : List Char} (h : ∀ c ∈ blanks, blank c = true) (tail : List Char) :
    skip (blanks ++ tail) = skip tail := by
  unfold skip
  rw [List.dropWhile_append_of_pos h]

theorem skip_cons {c : Char} (h : blank c = false) (tail : List Char) :
    skip (c :: tail) = c :: tail := by
  simp [skip, h]

theorem Spells.exact {text : List Char} {value : Raw}
    (h : ∀ tail, Delimited tail → ∀ fuel, 2 * text.length + 2 ≤ fuel →
      valueOf fuel (text ++ tail) = some (value, tail)) : Spells text value :=
  ⟨[], by simp, h⟩

theorem Spells.parse {text : List Char} {value : Raw} (h : Spells text value)
    (nesting : shallow maxNestingDepth value = true) : parse text = some value := by
  obtain ⟨blanks, hblanks, read⟩ := h
  have whole := read [] (by simp [Delimited]) _ (Nat.le_refl _)
  have rest := skip_blanks hblanks []
  rw [List.append_nil] at whole rest
  rw [List.append_nil] at whole
  rw [Json.parse, whole]
  simp only [rest, nesting]
  rfl

/-! ## Words and strings -/

theorem spells_null : Spells "null".toList .null := by
  apply Spells.exact
  intro tail _ fuel enough
  obtain ⟨fuel, rfl⟩ := Nat.exists_eq_add_of_le' (Nat.le_of_add_left_le enough)
  rfl

theorem spells_bool (b : Bool) :
    Spells (if b then "true".toList else "false".toList) (.bool b) := by
  apply Spells.exact
  intro tail _ fuel enough
  obtain ⟨fuel, rfl⟩ := Nat.exists_eq_add_of_le' (Nat.le_of_add_left_le enough)
  cases b <;> rfl

theorem hexValue_hexDigit : ∀ n < 16, hexValue (hexDigit n) = some n := by
  decide

theorem hex4_hexDigit {n : Nat} (h : n < 256) (a b : Char) {high low : Nat}
    (ha : hexValue a = some high) (hb : hexValue b = some low) :
    hex4 a b (hexDigit (n / 16)) (hexDigit (n % 16)) = some ((high * 16 + low) * 256 + n) := by
  unfold hex4
  rw [ha, hb, hexValue_hexDigit _ (by omega), hexValue_hexDigit _ (by omega)]
  simp only [Option.pure_def, Option.bind_eq_bind, Option.bind_some, Option.some.injEq]
  omega

theorem joinUnits_code {n : Nat} (h : n < 0xd800) (units : List Unit16) :
    joinUnits (.code n :: units) = Char.ofNat n :: joinUnits units := by
  have low : ¬ 0xd800 ≤ n := by omega
  cases units with
  | nil => simp [joinUnits, low]
  | cons unit units => cases unit <;> simp [joinUnits, low]

/-- The unit that a written character is read as. -/
structure Unit16.Reads (u : Unit16) (c : Char) : Prop where
  units : ∀ rest, stringUnits (escapeChar c ++ rest) = (stringUnits rest).map fun r =>
    (u :: r.1, r.2)
  join : ∀ units, joinUnits (u :: units) = c :: joinUnits units

theorem reads_escape {c d : Char} (escape : escapeChar c = ['\\', d]) (hd : d ≠ 'u')
    (read : escaped d = some c) : (Unit16.char c).Reads c := by
  constructor
  · intro rest
    rw [escape, List.cons_append, List.singleton_append, stringUnits.eq_3]
    · rw [read]
      cases stringUnits rest <;> rfl
    · rintro _ _ _ _ _ rfl
      exact absurd rfl hd
  · exact fun _ => rfl

theorem reads_code {c a b : Char} {high low : Nat} (ha : hexValue a = some high)
    (hb : hexValue b = some low) {n : Nat} (hn : n < 256)
    (escape : escapeChar c = ['\\', 'u', a, b, hexDigit (n / 16), hexDigit (n % 16)])
    (value : c.toNat = (high * 16 + low) * 256 + n) (small : c.toNat < 0xd800) :
    (Unit16.code c.toNat).Reads c := by
  constructor
  · intro rest
    simp only [escape, List.cons_append, List.nil_append, stringUnits,
      hex4_hexDigit hn a b ha hb, ← value]
    cases stringUnits rest <;> rfl
  · intro units
    rw [joinUnits_code small, Char.ofNat_toNat]

theorem exists_reads (c : Char) : ∃ u : Unit16, u.Reads c := by
  by_cases quoted : c = '"' ∨ c = '\\'
  · refine ⟨_, reads_escape (d := c) (by simp [escapeChar, quoted]) ?_ ?_⟩
    · rcases quoted with rfl | rfl <;> decide
    · rcases quoted with rfl | rfl <;> rfl
  by_cases short : c = '\x08' ∨ c = '\x0c' ∨ c = '\n' ∨ c = '\r' ∨ c = '\t'
  · rcases short with rfl | rfl | rfl | rfl | rfl
    · exact ⟨_, reads_escape (d := 'b') rfl (by decide) rfl⟩
    · exact ⟨_, reads_escape (d := 'f') rfl (by decide) rfl⟩
    · exact ⟨_, reads_escape (d := 'n') rfl (by decide) rfl⟩
    · exact ⟨_, reads_escape (d := 'r') rfl (by decide) rfl⟩
    · exact ⟨_, reads_escape (d := 't') rfl (by decide) rfl⟩
  simp only [not_or] at short
  by_cases control : c.toNat < 0x20 ∨ c = '<' ∨ c = '>' ∨ c = '&'
  · have small : c.toNat < 256 := by
      rcases control with h | rfl | rfl | rfl
      · omega
      all_goals decide
    refine ⟨_, reads_code (a := '0') (b := '0') (n := c.toNat) rfl rfl small ?_
      (by omega) (by omega)⟩
    simp [escapeChar, quoted, short, control]
  by_cases line : c = '\u2028' ∨ c = '\u2029'
  · rcases line with rfl | rfl
    · exact ⟨_, reads_code (a := '2') (b := '0') (n := 0x28) rfl rfl (by decide) rfl rfl
        (by decide)⟩
    · exact ⟨_, reads_code (a := '2') (b := '0') (n := 0x29) rfl rfl (by decide) rfl rfl
        (by decide)⟩
  refine ⟨.char c, ⟨fun rest => ?_, fun _ => rfl⟩⟩
  have itself : escapeChar c = [c] := by simp [escapeChar, quoted, short, control, line]
  simp only [not_or] at quoted control
  rw [itself, List.singleton_append, stringUnits.eq_4]
  · rw [if_neg control.1]
    cases stringUnits rest <;> rfl
  · exact fun h => quoted.1 h
  · rintro _ _ _ _ _ h
    exact absurd h quoted.2
  · rintro _ _ h
    exact absurd h quoted.2

theorem stringRest_quote (s : String) (tail : List Char) :
    stringRest (escape s ++ '"' :: tail) = some (s, tail) := by
  have units : ∀ l : List Char, ∃ us,
      stringUnits (l.flatMap escapeChar ++ '"' :: tail) = some (us, tail) ∧ joinUnits us = l := by
    intro l
    induction l with
    | nil => exact ⟨[], rfl, rfl⟩
    | cons c l ih =>
      obtain ⟨us, read, joined⟩ := ih
      obtain ⟨u, reads⟩ := exists_reads c
      refine ⟨u :: us, ?_, by rw [reads.join, joined]⟩
      rw [List.flatMap_cons, List.append_assoc, reads.units, read]
      rfl
  obtain ⟨us, read, joined⟩ := units s.toList
  rw [stringRest, escape, read]
  simp [joined]

theorem spells_quote (s : String) : Spells (quote s) (.str s) := by
  apply Spells.exact
  intro tail _ fuel enough
  obtain ⟨fuel, rfl⟩ := Nat.exists_eq_add_of_le' (Nat.le_of_add_left_le enough)
  have read := stringRest_quote s tail
  simp [quote, valueOf, skip_cons, blank, read]

/-! ## Numbers -/

/-- How a whole number that is not negative is written. -/
def Literal.ofNat (n : Nat) : Literal := { whole := Nat.toDigits 10 n }

theorem digitsOf_append {digits tail : List Char} (h : ∀ c ∈ digits, c.isDigit = true)
    (free : Delimited tail) : digitsOf (digits ++ tail) = (digits, tail) := by
  unfold digitsOf
  rw [List.takeWhile_append_of_pos h, List.dropWhile_append_of_pos h]
  cases tail with
  | nil => simp
  | cons c tail => simp [(free c (by simp)).1]

theorem numberOf_digits {digits tail : List Char} (h : ∀ c ∈ digits, c.isDigit = true)
    (ne : digits ≠ []) (zero : digits.head? = some '0' → digits = ['0']) (free : Delimited tail) :
    numberOf (digits ++ tail) = some ({ whole := digits }, tail) := by
  have fraction : fractionOf tail = some ([], tail) := by
    unfold fractionOf
    split
    next => exact absurd rfl (free '.' (by simp)).2.1
    next => rfl
  have exponent : exponentOf tail = some (none, tail) := by
    cases tail with
    | nil => rfl
    | cons d tail =>
      obtain ⟨-, -, lower, upper⟩ := free d (by simp)
      simp [exponentOf, lower, upper]
  have first : ¬ (digits = [] ∨ (digits.head? = some '0' ∧ digits ≠ ['0'])) := by
    rintro (none | ⟨head, more⟩)
    · exact ne none
    · exact more (zero head)
  have whole := digitsOf_append h free
  unfold numberOf
  split
  next minus rest split_sign =>
    have signed : (minus, rest) = (false, digits ++ tail) := by
      obtain ⟨c, digits, rfl⟩ := List.exists_cons_of_ne_nil ne
      split at split_sign
      next heq =>
        have minus := h c (by simp)
        rw [(List.cons.inj heq).1] at minus
        exact absurd minus (by decide)
      next => exact split_sign.symm
    cases signed
    simp only [whole, if_neg first, fraction, exponent, Option.bind_eq_bind, Option.bind_some]
    rfl

theorem spells_nat (n : Nat) : Spells (Nat.toDigits 10 n) (.num (.ofNat n)) := by
  have digits : ∀ c ∈ Nat.toDigits 10 n, c.isDigit = true :=
    fun c hc => Nat.isDigit_of_mem_toDigits (by omega) (by omega) hc
  have zero : (Nat.toDigits 10 n).head? = some '0' → Nat.toDigits 10 n = ['0'] := by
    intro head
    rcases Nat.eq_zero_or_pos n with rfl | pos
    · rfl
    · exact absurd head (Text.head_toDigits_ne pos)
  apply Spells.exact
  intro tail free fuel enough
  obtain ⟨fuel, rfl⟩ := Nat.exists_eq_add_of_le' (Nat.le_of_add_left_le enough)
  have read := numberOf_digits digits Nat.toDigits_ne_nil zero free
  obtain ⟨c, rest, split⟩ := List.exists_cons_of_ne_nil (Nat.toDigits_ne_nil (b := 10) (n := n))
  have word : ∀ d : Char, d.isDigit = false → c ≠ d := by
    rintro d no rfl
    simp [digits c (by simp [split])] at no
  have space : blank c = false := by
    simp [blank, word ' ' rfl, word '\t' rfl, word '\n' rfl, word '\r' rfl]
  unfold Literal.ofNat
  rw [split, List.cons_append] at read ⊢
  rw [valueOf, skip_cons space]
  split
  case h_7 => rw [read]; rfl
  all_goals
    next heq => exact absurd (List.cons.inj heq).1 (word _ rfl)

/-! ## Arrays and objects -/

theorem delimited_cons {c : Char} (h : c.isDigit = false ∧ c ≠ '.' ∧ c ≠ 'e' ∧ c ≠ 'E')
    (tail : List Char) : Delimited (c :: tail) := by
  simpa [Delimited] using h

theorem itemsOf_spells {texts : List (List Char)} {values : List Raw}
    (h : List.Forall₂ Spells texts values) (ne : texts ≠ []) (tail : List Char) :
    ∀ fuel, 2 * (List.intercalate [','] texts).length + 3 ≤ fuel →
      itemsOf fuel (List.intercalate [','] texts ++ ']' :: tail) = some (values, tail) := by
  induction h with
  | nil => exact absurd rfl ne
  | @cons text value texts values first rest ih =>
    obtain ⟨blanks, hblanks, read⟩ := first
    intro fuel enough
    obtain ⟨fuel, rfl⟩ := Nat.exists_eq_add_of_le' (show 1 ≤ fuel by omega)
    cases rest with
    | nil =>
      simp only [List.intercalate_singleton] at enough ⊢
      rw [itemsOf, read _ (delimited_cons (by decide) _) _ (by omega)]
      simp [skip_blanks hblanks, skip_cons, blank]
    | @cons next _ texts _ _ _ =>
      rw [List.intercalate_cons_cons] at enough ⊢
      simp only [List.length_append, List.length_singleton] at enough
      rw [List.append_assoc, List.append_assoc, List.singleton_append, itemsOf,
        read _ (delimited_cons (by decide) _) _ (by omega)]
      simp [skip_blanks hblanks, skip_cons, blank, ih (by simp) fuel (by omega)]

theorem valueOf_bracket {text rest : List Char} (h : skip text = ']' :: rest) (fuel : Nat) :
    valueOf fuel text = none := by
  cases fuel with
  | zero => rfl
  | succ fuel =>
    rw [valueOf, h]
    rfl

theorem spells_array {texts : List (List Char)} {values : List Raw}
    (h : List.Forall₂ Spells texts values) : Spells (array texts) (.arr values) := by
  apply Spells.exact
  intro tail _ fuel enough
  obtain ⟨fuel, rfl⟩ := Nat.exists_eq_add_of_le' (show 1 ≤ fuel by omega)
  unfold array enclose at enough ⊢
  simp only [List.cons_append, List.append_assoc, List.nil_append, List.length_cons,
    List.length_append] at enough ⊢
  cases h with
  | nil => rfl
  | @cons text value texts values first rest =>
    have items := itemsOf_spells (.cons first rest) (by simp) tail fuel (by omega)
    rw [valueOf, skip_cons rfl]
    simp only
    split
    next closed =>
      -- The first item would start with the bracket.
      obtain ⟨fuel, rfl⟩ := Nat.exists_eq_add_of_le' (show 1 ≤ fuel by omega)
      rw [itemsOf, valueOf_bracket closed] at items
      cases items
    next =>
      rw [items]
      rfl

section
variable {text : List Char} {value : Raw} (h : Spells text value) (name : String) (tail : List Char)
  {fuel : Nat} (enough : 2 * text.length + 2 ≤ fuel)
include h enough

theorem member_comma : membersOf (fuel + 1) (member name text ++ ',' :: tail) =
    (membersOf fuel tail).map fun r => ((name, value) :: r.1, r.2) := by
  obtain ⟨blanks, hblanks, read⟩ := h
  have string := stringRest_quote name (':' :: (text ++ ',' :: tail))
  have value := read (',' :: tail) (delimited_cons (by decide) _) fuel enough
  rw [member, quote, List.cons_append, List.append_assoc, List.cons_append, List.append_assoc,
    List.singleton_append, List.cons_append, membersOf, skip_cons rfl]
  simp only [string, Option.bind_eq_bind, Option.bind_some, skip_cons (c := ':') rfl, value,
    skip_blanks hblanks, skip_cons (c := ',') rfl]
  cases membersOf fuel tail <;> rfl

theorem member_brace :
    membersOf (fuel + 1) (member name text ++ '\x7d' :: tail) = some ([(name, value)], tail) := by
  obtain ⟨blanks, hblanks, read⟩ := h
  have string := stringRest_quote name (':' :: (text ++ '\x7d' :: tail))
  have value := read ('\x7d' :: tail) (delimited_cons (by decide) _) fuel enough
  rw [member, quote, List.cons_append, List.append_assoc, List.cons_append, List.append_assoc,
    List.singleton_append, List.cons_append, membersOf, skip_cons rfl]
  simp only [string, Option.bind_eq_bind, Option.bind_some, skip_cons (c := ':') rfl, value,
    skip_blanks hblanks, skip_cons (c := '\x7d') rfl]
  rfl

end

theorem membersOf_spells {members : List (String × List Char)} {values : List (String × Raw)}
    (h : List.Forall₂ (fun m v => m.1 = v.1 ∧ Spells m.2 v.2) members values) (ne : members ≠ [])
    (tail : List Char) :
    ∀ fuel, 2 * (List.intercalate [','] (members.map fun m => member m.1 m.2)).length + 3 ≤ fuel →
      membersOf fuel (List.intercalate [','] (members.map fun m => member m.1 m.2) ++
          '\x7d' :: tail) =
        some (values, tail) := by
  induction h with
  | nil => exact absurd rfl ne
  | @cons m v members values first rest ih =>
    obtain ⟨name, first⟩ := first
    have named : (m.1, v.2) = v := Prod.ext name rfl
    have short : m.2.length < (member m.1 m.2).length := by
      simp only [member, quote, List.length_append, List.length_cons]
      omega
    intro fuel enough
    obtain ⟨fuel, rfl⟩ := Nat.exists_eq_add_of_le' (show 1 ≤ fuel by omega)
    cases rest with
    | nil =>
      simp only [List.map_cons, List.map_nil, List.intercalate_singleton] at enough ⊢
      rw [member_brace first m.1 tail (by omega), named]
    | @cons next _ members _ _ _ =>
      simp only [List.map_cons] at ih enough ⊢
      rw [List.intercalate_cons_cons] at enough ⊢
      simp only [List.length_append, List.length_singleton] at enough
      rw [List.append_assoc, List.append_assoc, List.singleton_append,
        member_comma first m.1 _ (by omega), named, ih (by simp) fuel (by omega)]
      rfl

theorem spells_object {members : List (String × List Char)} {values : List (String × Raw)}
    (h : List.Forall₂ (fun m v => m.1 = v.1 ∧ Spells m.2 v.2) members values) :
    Spells (object (members.map fun m => member m.1 m.2)) (.obj values) := by
  apply Spells.exact
  intro tail _ fuel enough
  obtain ⟨fuel, rfl⟩ := Nat.exists_eq_add_of_le' (show 1 ≤ fuel by omega)
  unfold object enclose at enough ⊢
  simp only [List.cons_append, List.append_assoc, List.nil_append, List.length_cons,
    List.length_append] at enough ⊢
  cases h with
  | nil => rfl
  | @cons m v members values first rest =>
    have read := membersOf_spells (.cons first rest) (by simp) tail fuel (by omega)
    rw [valueOf, skip_cons rfl]
    simp only
    split
    next closed =>
      -- A member starts with a quote.
      exfalso
      cases members <;>
        simp [List.intercalate_cons_cons, List.intercalate_singleton, member, quote, skip_cons,
          blank] at closed
    next =>
      rw [read]
      rfl

/-! ## Whole values -/

def Literal.text (l : Literal) : List Char :=
  (if l.negative then ['-'] else []) ++ l.whole ++
    (if l.fraction = [] then [] else '.' :: l.fraction) ++
    match l.exponent with
    | some (negative, digits) => 'e' :: (if negative then '-' :: digits else digits)
    | none => []

mutual

/-- The text of `json.Marshal`. -/
def write : Raw → List Char
  | .null => "null".toList
  | .bool b => if b then "true".toList else "false".toList
  | .num l => l.text
  | .str s => quote s
  | .arr items => array (writeItems items)
  | .obj members => object ((writeMembers members).map fun m => member m.1 m.2)
termination_by structural x => x

def writeItems : List Raw → List (List Char)
  | [] => []
  | x :: xs => write x :: writeItems xs
termination_by structural x => x

def writeMembers : List (String × Raw) → List (String × List Char)
  | [] => []
  | (name, x) :: xs => (name, write x) :: writeMembers xs
termination_by structural x => x

end

/-- The numbers are whole and not negative. -/
abbrev Natural : Raw → Prop := Node.Numbers fun l => ∃ n, l = .ofNat n

theorem natural_arr {items : List Raw} (h : ∀ x ∈ items, Natural x) : Natural (.arr items) := by
  simp only [Natural, Node.Numbers]
  induction items with
  | nil => trivial
  | cons x items ih => exact ⟨h x (by simp), ih fun y hy => h y (List.mem_cons_of_mem _ hy)⟩

theorem natural_obj {members : List (String × Raw)} (h : ∀ m ∈ members, Natural m.2) :
    Natural (.obj members) := by
  simp only [Natural, Node.Numbers]
  induction members with
  | nil => trivial
  | cons m members ih => exact ⟨h m (by simp), ih fun y hy => h y (List.mem_cons_of_mem _ hy)⟩

mutual

theorem spells_write : ∀ {raw : Raw}, Natural raw → Spells (write raw) raw
  | .null, _ => spells_null
  | .bool b, _ => spells_bool b
  | .num _, h => by
    obtain ⟨n, rfl⟩ := Node.numbers_num h
    simpa [write, Literal.text, Literal.ofNat] using spells_nat n
  | .str s, _ => spells_quote s
  | .arr items, h => spells_array (spells_writeItems h)
  | .obj members, h => spells_object (spells_writeMembers h)
termination_by structural x => x

theorem spells_writeItems :
    ∀ {items : List Raw}, Node.NumbersItems (fun l => ∃ n, l = .ofNat n) items →
      List.Forall₂ Spells (writeItems items) items
  | [], _ => .nil
  | _ :: _, h => .cons (spells_write h.1) (spells_writeItems h.2)
termination_by structural x => x

theorem spells_writeMembers : ∀ {members : List (String × Raw)},
    Node.NumbersMembers (fun l => ∃ n, l = .ofNat n) members →
      List.Forall₂ (fun m v => m.1 = v.1 ∧ Spells m.2 v.2) (writeMembers members) members
  | [], _ => .nil
  | (_, _) :: _, h => .cons ⟨rfl, spells_write h.1⟩ (spells_writeMembers h.2)
termination_by structural x => x

end

end Json
