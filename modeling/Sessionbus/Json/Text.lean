import Mathlib.Data.Rat.Floor
import Sessionbus.Json.Node

/-!
# JSON text

The grammar of RFC 8259 as a parser, and the generic decoding of a text: numbers are rounded to
binary64 and the last of several members with one name wins.
-/

namespace Json

/-! ## Numbers -/

/-- The spelling of a number. -/
structure Literal where
  negative : Bool := false
  whole : List Char
  fraction : List Char := []
  /-- Whether the exponent is negative, and its digits. -/
  exponent : Option (Bool × List Char) := none
deriving DecidableEq, Repr

namespace Literal

/-- No fraction and no exponent. -/
def plain (l : Literal) : Bool := l.fraction == [] && l.exponent == none

def scale (n : ℚ) (negative : Bool) (exponent : Nat) : ℚ :=
  if negative then n / ((10 ^ exponent : Nat) : ℚ) else n * ((10 ^ exponent : Nat) : ℚ)

/-- The number that the spelling denotes. -/
def value (l : Literal) : ℚ :=
  let digits : ℚ := (Nat.ofDigitChars 10 (l.whole ++ l.fraction) 0 : Nat)
  let magnitude := scale digits true l.fraction.length
  let magnitude :=
    match l.exponent with
    | some (negative, exponent) => scale magnitude negative (Nat.ofDigitChars 10 exponent 0)
    | none => magnitude
  if l.negative then -magnitude else magnitude

end Literal

/-- The whole number next to `q`, the even one of two. -/
def roundEven (q : ℚ) : Int :=
  let low := ⌊q⌋
  if q - low < 1 / 2 then low
  else if 1 / 2 < q - low then low + 1
  else if low % 2 = 0 then low
  else low + 1

def twoPow (e : Int) : ℚ :=
  if e < 0 then 1 / ((2 ^ e.natAbs : Nat) : ℚ) else ((2 ^ e.natAbs : Nat) : ℚ)

/-- The exponent of the greatest power of two that is not above a positive number. -/
def binaryExponent (q : ℚ) : Int :=
  let e : Int := q.num.natAbs.log2 - q.den.log2
  if twoPow e ≤ q then e else e - 1

/-- The nearest binary64 number; `none` is an overflow. -/
def binary64 (q : ℚ) : Option ℚ :=
  if q = 0 then some 0
  else
    let magnitude := if q < 0 then -q else q
    let unit := twoPow (max (binaryExponent magnitude) (-1022) - 52)
    let rounded := roundEven (magnitude / unit) * unit
    if twoPow 1024 ≤ rounded then none else some (if q < 0 then -rounded else rounded)

/-! ## The parser -/

/-- A text, up to the spelling of its strings and its blanks. -/
abbrev Raw := Node Literal

def blank (c : Char) : Bool := c == ' ' || c == '\t' || c == '\n' || c == '\r'

def skip (text : List Char) : List Char := text.dropWhile blank

def hexValue (c : Char) : Option Nat :=
  if '0' ≤ c ∧ c ≤ '9' then some (c.toNat - '0'.toNat)
  else if 'a' ≤ c ∧ c ≤ 'f' then some (c.toNat - 'a'.toNat + 10)
  else if 'A' ≤ c ∧ c ≤ 'F' then some (c.toNat - 'A'.toNat + 10)
  else none

def hex4 (a b c d : Char) : Option Nat := do
  return (((← hexValue a) * 16 + (← hexValue b)) * 16 + (← hexValue c)) * 16 + (← hexValue d)

/-- A character of a string, or the code unit of an escape. -/
inductive Unit16
  | char (c : Char)
  | code (n : Nat)

def escaped (c : Char) : Option Char :=
  if c = '"' ∨ c = '\\' ∨ c = '/' then some c
  else if c = 'b' then some '\x08'
  else if c = 'f' then some '\x0c'
  else if c = 'n' then some '\n'
  else if c = 'r' then some '\r'
  else if c = 't' then some '\t'
  else none

/-- The rest of a string, after its first quote. -/
def stringUnits : List Char → Option (List Unit16 × List Char)
  | '"' :: rest => some ([], rest)
  | '\\' :: 'u' :: a :: b :: c :: d :: rest => do
    let n ← hex4 a b c d
    let (units, rest) ← stringUnits rest
    return (.code n :: units, rest)
  | '\\' :: c :: rest => do
    let e ← escaped c
    let (units, rest) ← stringUnits rest
    return (.char e :: units, rest)
  | c :: rest => do
    if c.toNat < 0x20 then none
    let (units, rest) ← stringUnits rest
    return (.char c :: units, rest)
  | [] => none

/-- A surrogate pair of escapes is one character, and half a pair is U+FFFD. -/
def joinUnits : List Unit16 → List Char
  | .code high :: .code low :: rest =>
    if 0xd800 ≤ high ∧ high < 0xdc00 ∧ 0xdc00 ≤ low ∧ low < 0xe000 then
      Char.ofNat (0x10000 + (high - 0xd800) * 0x400 + (low - 0xdc00)) :: joinUnits rest
    else
      (if 0xd800 ≤ high ∧ high < 0xe000 then '�' else Char.ofNat high) :: joinUnits
        (.code low :: rest)
  | .code n :: rest => (if 0xd800 ≤ n ∧ n < 0xe000 then '�' else Char.ofNat n) :: joinUnits rest
  | .char c :: rest => c :: joinUnits rest
  | [] => []

def stringRest (text : List Char) : Option (String × List Char) :=
  (stringUnits text).map fun r => (String.ofList (joinUnits r.1), r.2)

def digitsOf (text : List Char) : List Char × List Char :=
  (text.takeWhile Char.isDigit, text.dropWhile Char.isDigit)

def fractionOf (text : List Char) : Option (List Char × List Char) :=
  match text with
  | '.' :: rest => if (digitsOf rest).1 = [] then none else some (digitsOf rest)
  | _ => some ([], text)

def exponentOf (text : List Char) : Option (Option (Bool × List Char) × List Char) :=
  match text with
  | c :: rest =>
    if c = 'e' ∨ c = 'E' then
      let (negative, rest) :=
        match rest with
        | '-' :: rest => (true, rest)
        | '+' :: rest => (false, rest)
        | _ => (false, rest)
      if (digitsOf rest).1 = [] then none
      else some (some (negative, (digitsOf rest).1), (digitsOf rest).2)
    else some (none, text)
  | [] => some (none, [])

def numberOf (text : List Char) : Option (Literal × List Char) := do
  let (negative, text) :=
    match text with
    | '-' :: rest => (true, rest)
    | _ => (false, text)
  let (whole, rest) := digitsOf text
  -- A number has digits, and no zero before another digit.
  if whole = [] ∨ (whole.head? = some '0' ∧ whole ≠ ['0']) then none
  let (fraction, rest) ← fractionOf rest
  let (exponent, rest) ← exponentOf rest
  return ({ negative, whole, fraction, exponent }, rest)

mutual

/-- A value at the start of the text, and the rest. -/
def valueOf : Nat → List Char → Option (Raw × List Char)
  | 0, _ => none
  | fuel + 1, text =>
    match skip text with
    | 'n' :: 'u' :: 'l' :: 'l' :: rest => some (.null, rest)
    | 't' :: 'r' :: 'u' :: 'e' :: rest => some (.bool true, rest)
    | 'f' :: 'a' :: 'l' :: 's' :: 'e' :: rest => some (.bool false, rest)
    | '"' :: rest => (stringRest rest).map fun r => (.str r.1, r.2)
    | '[' :: rest =>
      match skip rest with
      | ']' :: rest => some (.arr [], rest)
      | _ => (itemsOf fuel rest).map fun r => (.arr r.1, r.2)
    | '\x7b' :: rest =>
      match skip rest with
      | '\x7d' :: rest => some (.obj [], rest)
      | _ => (membersOf fuel rest).map fun r => (.obj r.1, r.2)
    | text => (numberOf text).map fun r => (.num r.1, r.2)

/-- The items of an array that has some, up to its bracket. -/
def itemsOf : Nat → List Char → Option (List Raw × List Char)
  | 0, _ => none
  | fuel + 1, text => do
    let (item, rest) ← valueOf fuel text
    match skip rest with
    | ',' :: rest =>
      let (items, rest) ← itemsOf fuel rest
      return (item :: items, rest)
    | ']' :: rest => return ([item], rest)
    | _ => none

/-- The members of an object that has some, up to its brace. -/
def membersOf : Nat → List Char → Option (List (String × Raw) × List Char)
  | 0, _ => none
  | fuel + 1, text => do
    match skip text with
    | '"' :: rest =>
      let (name, rest) ← stringRest rest
      match skip rest with
      | ':' :: rest =>
        let (value, rest) ← valueOf fuel rest
        match skip rest with
        | ',' :: rest =>
          let (members, rest) ← membersOf fuel rest
          return ((name, value) :: members, rest)
        | '\x7d' :: rest => return ([(name, value)], rest)
        | _ => none
      | _ => none
    | _ => none

end

/-- Arrays and objects are nested so deep at most. -/
def shallow : Nat → Raw → Bool
  | depth + 1, .arr items => items.all (shallow depth)
  | depth + 1, .obj members => members.all fun m => shallow depth m.2
  | 0, .arr _ => false
  | 0, .obj _ => false
  | _, _ => true

/-- `maxNestingDepth` of `encoding/json`. -/
def maxNestingDepth : Nat := 10000

/-- The whole text is one value. Every call but the first two reads a character. -/
def parse (text : List Char) : Option Raw :=
  match valueOf (2 * text.length + 2) text with
  | some (value, rest) =>
    if skip rest = [] && shallow maxNestingDepth value then some value else none
  | none => none

/-- A text in UTF-8. -/
def parseBytes (body : ByteArray) : Option Raw :=
  (String.fromUTF8? body).bind fun text => parse text.toList

/-! ## Generic decoding -/

/-- The last of several members with one name wins. -/
def lastWins {α : Type} (members : List (String × α)) : List (String × α) :=
  members.foldl (fun kept m => kept.filter (·.1 ≠ m.1) ++ [m]) []

mutual

/-- The value of a text; `none` says that a number overflows. -/
def generic : Raw → Option (Node ℚ)
  | .null => some .null
  | .bool b => some (.bool b)
  | .num l => (binary64 l.value).map .num
  | .str s => some (.str s)
  | .arr items => (genericItems items).map .arr
  | .obj members => (genericMembers members).map fun l => .obj (lastWins l)
termination_by structural x => x

def genericItems : List Raw → Option (List (Node ℚ))
  | [] => some []
  | x :: xs => do
    let y ← generic x
    let ys ← genericItems xs
    return y :: ys
termination_by structural x => x

def genericMembers : List (String × Raw) → Option (List (String × Node ℚ))
  | [] => some []
  | (name, x) :: xs => do
    let y ← generic x
    let ys ← genericMembers xs
    return (name, y) :: ys
termination_by structural x => x

end

end Json
