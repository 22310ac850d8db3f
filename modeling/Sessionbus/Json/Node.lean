import Mathlib.Data.List.Basic

/-!
# JSON values

A tree over a type of numbers: the value that a decoder gives has rational numbers, and the text
of a value has the spelling of each number. An object is the list of its members.
-/

namespace Json

inductive Node (ν : Type)
  | null
  | bool (value : Bool)
  | num (value : ν)
  | str (value : String)
  | arr (items : List (Node ν))
  | obj (members : List (String × Node ν))

namespace Node

variable {ν : Type}

section Equal

variable [DecidableEq ν]

mutual

/-- Equality of values: the order of an object's members does not count. -/
def equal : Node ν → Node ν → Bool
  | .null, .null => true
  | .bool a, .bool b => a == b
  | .num a, .num b => a == b
  | .str a, .str b => a == b
  | .arr xs, .arr ys => equalItems xs ys
  | .obj xs, .obj ys => xs.length == ys.length && within xs ys
  | _, _ => false
termination_by structural x => x

def equalItems : List (Node ν) → List (Node ν) → Bool
  | [], [] => true
  | x :: xs, y :: ys => equal x y && equalItems xs ys
  | _, _ => false
termination_by structural x => x

/-- Every member of the first object is one of the second. -/
def within : List (String × Node ν) → List (String × Node ν) → Bool
  | [], _ => true
  | (name, x) :: xs, ys => ys.any (fun m => m.1 == name && equal x m.2) && within xs ys
termination_by structural x => x

end

end Equal

mutual

/-- Every number in the tree has the property. -/
def Numbers (p : ν → Prop) : Node ν → Prop
  | .num n => p n
  | .arr items => NumbersItems p items
  | .obj members => NumbersMembers p members
  | _ => True
termination_by structural x => x

def NumbersItems (p : ν → Prop) : List (Node ν) → Prop
  | [] => True
  | x :: xs => Numbers p x ∧ NumbersItems p xs
termination_by structural x => x

def NumbersMembers (p : ν → Prop) : List (String × Node ν) → Prop
  | [] => True
  | (_, x) :: xs => Numbers p x ∧ NumbersMembers p xs
termination_by structural x => x

end

theorem numbers_num {p : ν → Prop} {n : ν} (h : Numbers p (.num n)) : p n := by
  simpa only [Numbers] using h

end Node

end Json
