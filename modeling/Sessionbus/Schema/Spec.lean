import Mathlib.Data.Rat.Defs
import Sessionbus.Json.Node

/-!
# The schema interpreter of the Go kit

`schemaIssue` of `protocol/validate.go`. A rule is a node of the schema; a keyword that is not
there is `none`, and a list that is not there is empty.
-/

namespace Sessionbus.Schema

open Json

/-- A decoded value. The generic decoder gives every number as a `float64`. -/
abbrev Value := Node ℚ

inductive Kind
  | object | array | string | boolean | integer
deriving DecidableEq, Repr

/-- `condition`, `consequent`, `alternative` and `excluded` are the keywords `if`, `then`, `else`
and `not`. -/
structure Rule where
  ref : Option String := none
  kind : Option Kind := none
  const : Option Value := none
  enum : Option (List Value) := none
  required : List String := []
  closed : Bool := false
  minProperties : Option Nat := none
  properties : Option (List (String × Rule)) := none
  items : Option Rule := none
  uniqueItems : Bool := false
  minLength : Option Nat := none
  maxLength : Option Nat := none
  pattern : Option String := none
  minimum : Option Int := none
  maximum : Option Int := none
  exclusiveMinimum : Option Int := none
  allOf : List Rule := []
  condition : Option Rule := none
  consequent : Option Rule := none
  alternative : Option Rule := none
  excluded : Option Rule := none

/-- `matched` is the verdict of the regular-expression engine on a pattern and a text. -/
structure Root where
  definitions : List (String × Rule)
  matched : String → String → Bool

def Root.definition (s : Root) (name : String) : Option Rule := s.definitions.lookup name

/-- What is wrong, with the path of the value. `unresolved` stands for a rule that was not followed
to its end. -/
inductive Issue
  | type (path : String) (kind : Kind)
  | const (path : String) (expected : Value)
  | enum (path : String)
  | minLength (path : String) (bound : Nat)
  | maxLength (path : String) (bound : Nat)
  | pattern (path pattern : String)
  | minimum (path : String) (bound : Int)
  | maximum (path : String) (bound : Int)
  | exclusiveMinimum (path : String) (bound : Int)
  | required (path : String)
  | minProperties (path : String) (bound : Nat)
  | notAllowed (path relation : String)
  | duplicate (path : String)
  | excluded (path : String)
  | unresolved

def childPath (path name : String) : String := if path = "" then name else path ++ "." ++ name

def indexPath (path : String) (index : Nat) : String := path ++ "[" ++ index.repr ++ "]"

def validType : Kind → Value → Bool
  | .object, .obj _ => true
  | .array, .arr _ => true
  | .string, .str _ => true
  | .boolean, .bool _ => true
  | .integer, .num n => n.isInt
  | _, _ => false

def contains (values : List Value) (target : Value) : Bool := values.any (·.equal target)

/-! ## One keyword at a time -/

def typeIssue (rule : Rule) (value : Value) (path : String) : Option Issue :=
  match rule.kind with
  | some kind => if validType kind value then none else some (.type path kind)
  | none => none

def constIssue (rule : Rule) (value : Value) (path : String) : Option Issue :=
  match rule.const with
  | some expected => if value.equal expected then none else some (.const path expected)
  | none => none

def enumIssue (rule : Rule) (value : Value) (path : String) : Option Issue :=
  match rule.enum with
  | some values => if contains values value then none else some (.enum path)
  | none => none

/-- The number of runes of a Go string is the length of a Lean one. -/
def textIssue (s : Root) (rule : Rule) (value : Value) (path : String) : Option Issue :=
  match value with
  | .str text =>
    if text.length < rule.minLength.getD 0 then some (.minLength path (rule.minLength.getD 0))
    else if rule.maxLength.any (· < text.length) then some (.maxLength path (rule.maxLength.getD 0))
    else
      match rule.pattern with
      | some pattern => if s.matched pattern text then none else some (.pattern path pattern)
      | none => none
  | _ => none

def numberIssue (rule : Rule) (value : Value) (path : String) : Option Issue :=
  match value with
  | .num n =>
    if rule.minimum.any (n < ·) then some (.minimum path (rule.minimum.getD 0))
    else if rule.maximum.any (· < n) then some (.maximum path (rule.maximum.getD 0))
    else if rule.exclusiveMinimum.any (n ≤ ·) then some
      (.exclusiveMinimum path (rule.exclusiveMinimum.getD 0))
    else none
  | _ => none

/-- The recursive call, with the rule, the value, its path and the member that it stands with. -/
abbrev Interpreter := Rule → Value → String → String → Option Issue

/-- How the rule for a member is found. -/
abbrev Lookup := Rule → String → Option Rule

/-- `schema, known := properties[name]`. -/
def Rule.property : Lookup := fun rule name => (rule.properties.getD []).lookup name

def memberIssue (lookup : Lookup) (issue : Interpreter) (rule : Rule) (path relation : String)
    (m : String × Value) : Option Issue :=
  match lookup rule m.1 with
  | some child => issue child m.2 (childPath path m.1) relation
  | none => if rule.closed then some (.notAllowed (childPath path m.1) "") else none

def objectIssue (lookup : Lookup) (issue : Interpreter) (rule : Rule) (value : Value)
    (path relation : String) : Option Issue :=
  match value with
  | .obj members =>
    (rule.required.findSome? fun name =>
      if (members.lookup name).isSome then none else some (.required (childPath path name))) <|>
    (if members.length < rule.minProperties.getD 0
      then some (.minProperties path (rule.minProperties.getD 0))
    else none) <|>
    members.findSome? (memberIssue lookup issue rule path relation)
  | _ => none

def listIssue (issue : Interpreter) (rule : Rule) (value : Value) (path relation : String) :
    Option Issue :=
  match value with
  | .arr items =>
    (match rule.items with
    | some item =>
      items.zipIdx.findSome? fun child => issue item child.1 (indexPath path child.2) relation
    | none => none) <|>
    (if rule.uniqueItems then
      items.zipIdx.findSome? fun child =>
        if contains (items.take child.2) child.1 then some (.duplicate (indexPath path child.2))
        else none
    else none)
  | _ => none

def allOfIssue (issue : Interpreter) (rule : Rule) (value : Value) (path relation : String) :
    Option Issue :=
  rule.allOf.findSome? fun child => issue child value path relation

def notIssue (issue : Interpreter) (rule : Rule) (value : Value) (path relation : String) :
    Option Issue :=
  match rule.excluded with
  | some child =>
    if (issue child value path "").isNone then
      match child.required with
      | [name] => some (.notAllowed (childPath path name) relation)
      | _ => some (.excluded path)
    else none
  | none => none

def branchIssue (issue : Interpreter) (rule : Rule) (value : Value) (path relation : String) :
    Option Issue :=
  match rule.condition with
  | some condition =>
    if (issue condition value path "").isNone then
      let relation :=
        match condition.required with
        | [name] => name
        | _ => relation
      match rule.consequent with
      | some child => issue child value path relation
      | none => none
    else
      match rule.alternative with
      | some child => issue child value path relation
      | none => none
  | none => none

/-- `schemaIssue`, following references and subrules to the given depth. -/
def schemaIssue (s : Root) : Nat → Interpreter
  | 0 => fun _ _ _ _ => some .unresolved
  | depth + 1 => fun rule value path relation =>
    match rule.ref with
    | some name => schemaIssue s depth ((s.definition name).getD {}) value path relation
    | none =>
      typeIssue rule value path <|> constIssue rule value path <|> enumIssue rule value path <|>
      textIssue s rule value path <|> numberIssue rule value path <|>
      objectIssue Rule.property (schemaIssue s depth) rule value path relation <|>
      listIssue (schemaIssue s depth) rule value path relation <|>
      allOfIssue (schemaIssue s depth) rule value path relation <|>
      notIssue (schemaIssue s depth) rule value path relation <|>
      branchIssue (schemaIssue s depth) rule value path relation

end Sessionbus.Schema
