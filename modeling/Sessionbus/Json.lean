import Mathlib.Tactic.Common

/-!
# JSON text

The text that Go's `encoding/json` writes, with its HTML escapes, and the number of bytes it
takes. A text is a list of characters.
-/

namespace Json

def hexDigit (n : Nat) : Char := "0123456789abcdef".toList.getD n '0'

/-- How a character stands in a string. -/
def escapeChar (c : Char) : List Char :=
  if c = '"' ∨ c = '\\' then ['\\', c]
  else if c = '\x08' then ['\\', 'b']
  else if c = '\x0c' then ['\\', 'f']
  else if c = '\n' then ['\\', 'n']
  else if c = '\r' then ['\\', 'r']
  else if c = '\t' then ['\\', 't']
  else if c.toNat < 0x20 ∨ c = '<' ∨ c = '>' ∨ c = '&' then
    ['\\', 'u', '0', '0', hexDigit (c.toNat / 16), hexDigit (c.toNat % 16)]
  else if c = '\u2028' ∨ c = '\u2029' then ['\\', 'u', '2', '0', '2', hexDigit (c.toNat % 16)]
  else [c]

def escape (s : String) : List Char := s.toList.flatMap escapeChar

def quote (s : String) : List Char := '"' :: escape s ++ ['"']

def member (name : String) (value : List Char) : List Char := quote name ++ ':' :: value

/-- Items between brackets, separated by commas. -/
def enclose (left right : Char) (items : List (List Char)) : List Char :=
  left :: List.intercalate [','] items ++ [right]

def object (members : List (List Char)) : List Char := enclose '\x7b' '\x7d' members

def array (items : List (List Char)) : List Char := enclose '[' ']' items

/-! ## Sizes -/

/-- The bytes of the text in UTF-8. -/
def size : List Char → Nat
  | [] => 0
  | c :: l => c.utf8Size + size l

@[simp] theorem size_nil : size [] = 0 := rfl

@[simp] theorem size_cons (c : Char) (l : List Char) : size (c :: l) = c.utf8Size + size l := rfl

@[simp] theorem size_append (l l' : List Char) : size (l ++ l') = size l + size l' := by
  induction l with
  | nil => rw [List.nil_append, size_nil, Nat.zero_add]
  | cons c l ih => rw [List.cons_append, size_cons, size_cons, ih, Nat.add_assoc]

theorem size_eq_length {l : List Char} (h : ∀ c ∈ l, c.utf8Size = 1) : size l = l.length := by
  induction l with
  | nil => rfl
  | cons c l ih =>
    rw [size_cons, h c (by simp), ih fun d hd => h d (List.mem_cons_of_mem _ hd), List.length_cons]
    omega

theorem size_enclose_cons (left right : Char) (item : List Char) {items : List (List Char)}
    (h : items ≠ []) :
    size (enclose left right (item :: items)) =
      size item + 1 + size (enclose left right items) := by
  obtain ⟨next, items, rfl⟩ := List.exists_cons_of_ne_nil h
  have hcomma : Char.utf8Size ',' = 1 := by decide
  simp only [enclose, List.intercalate, List.intersperse_cons_cons, List.flatten_cons, size_cons,
    size_append, size_nil, hcomma]
  omega

theorem size_enclose_singleton (left right : Char) (item : List Char) :
    size (enclose left right [item]) = left.utf8Size + size item + right.utf8Size := by
  simp only [enclose, List.intercalate, List.intersperse_singleton, List.flatten_cons,
    List.flatten_nil, List.append_nil, List.cons_append, size_cons, size_append, size_nil,
    Nat.add_zero, Nat.add_assoc]

/-- A character that stands for itself and takes one byte. -/
def Plain (c : Char) : Prop := escapeChar c = [c] ∧ c.utf8Size = 1

instance (c : Char) : Decidable (Plain c) := inferInstanceAs (Decidable (_ ∧ _))

theorem escape_plain {s : String} (h : ∀ c ∈ s.toList, Plain c) : escape s = s.toList := by
  have hlist : ∀ l : List Char, (∀ c ∈ l, Plain c) → l.flatMap escapeChar = l := by
    intro l
    induction l with
    | nil => exact fun _ => rfl
    | cons c l ih =>
      intro h
      rw [List.flatMap_cons, (h c (by simp)).1, ih fun d hd => h d (List.mem_cons_of_mem _ hd),
        List.singleton_append]
  exact hlist _ h

theorem size_quote_plain {s : String} (h : ∀ c ∈ s.toList, Plain c) :
    size (quote s) = s.length + 2 := by
  have hquote : Char.utf8Size '"' = 1 := by decide
  rw [quote, escape_plain h, List.cons_append, size_cons, size_append, size_eq_length
    fun c hc => (h c hc).2, size_cons, size_nil, hquote, String.length_toList]
  omega

theorem size_escape_replicate (n : Nat) (c : Char) :
    size (escape (String.ofList (List.replicate n c))) = n * size (escapeChar c) := by
  unfold escape
  rw [String.toList_ofList]
  induction n with
  | zero => simp
  | succ n ih =>
    rw [List.replicate_succ, List.flatMap_cons, size_append, ih, Nat.succ_mul, Nat.add_comm]

end Json
