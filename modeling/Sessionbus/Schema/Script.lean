import Mathlib.Tactic.NormNum
import Sessionbus.Schema.Accepts
import Sessionbus.Schema.Definitions

/-!
# The schema interpreter of the JavaScript kit

`issue` of `sdk/js/schema.js`, where it differs from `schemaIssue`, and what the difference
means for the verdicts.
-/

namespace Sessionbus.Schema

open Json

namespace Script

/-- `Number.isSafeInteger` and the other types. -/
def validType : Kind → Value → Bool
  | .integer, .num n => n.isInt && decide (-9007199254740991 ≤ n ∧ n ≤ 9007199254740991)
  | kind, value => Schema.validType kind value

def typeIssue (rule : Rule) (value : Value) (path : String) : Option Issue :=
  match rule.kind with
  | some kind => if validType kind value then none else some (.type path kind)
  | none => none

/-- The maximum is checked first. -/
def numberIssue (rule : Rule) (value : Value) (path : String) : Option Issue :=
  match value with
  | .num n =>
    if rule.maximum.any (· < n) then some (.maximum path (rule.maximum.getD 0))
    else if rule.minimum.any (n < ·) then some (.minimum path (rule.minimum.getD 0))
    else if rule.exclusiveMinimum.any (n ≤ ·) then some
      (.exclusiveMinimum path (rule.exclusiveMinimum.getD 0))
    else none
  | _ => none

/-- What every object inherits from `Object.prototype`. -/
def objectPrototype : List String :=
  ["constructor", "__defineGetter__", "__defineSetter__", "hasOwnProperty", "__lookupGetter__",
    "__lookupSetter__", "isPrototypeOf", "propertyIsEnumerable", "toString", "valueOf", "__proto__",
    "toLocaleString"]

/-- `rule.properties?.[name]`: an inherited member has none of the keywords, and the interpreter
goes on with it as a rule. -/
def property : Lookup := fun rule name =>
  match rule.properties with
  | some properties =>
    properties.lookup name <|> if objectPrototype.contains name then some {} else none
  | none => none

def notIssue (issue : Interpreter) (rule : Rule) (value : Value) (path relation : String) :
    Option Issue :=
  match rule.excluded with
  | some child =>
    if (issue child value path "").isNone then
      match child.required with
      | name :: _ =>
        some (if name = "" then .excluded path else .notAllowed (childPath path name) relation)
      | [] => some (.excluded path)
    else none
  | none => none

/-- `issue`. Going on with a reference that is not there is an exception. -/
def issue (s : Root) : Nat → Interpreter
  | 0 => fun _ _ _ _ => some .unresolved
  | depth + 1 => fun rule value path relation =>
    match rule.ref with
    | some name =>
      match s.definition name with
      | some target => issue s depth target value path relation
      | none => some .unresolved
    | none =>
      typeIssue rule value path <|> constIssue rule value path <|> enumIssue rule value path <|>
      textIssue s rule value path <|> numberIssue rule value path <|>
      objectIssue property (issue s depth) rule value path relation <|>
      listIssue (issue s depth) rule value path relation <|>
      allOfIssue (issue s depth) rule value path relation <|>
      notIssue (issue s depth) rule value path relation <|>
      branchIssue (issue s depth) rule value path relation

/-! ## The verdict -/

/-- A number of the common domain. -/
def Safe (n : ℚ) : Prop := n.isInt = true ∧ -9007199254740991 ≤ n ∧ n ≤ 9007199254740991

variable {s : Root}

theorem validType_safe {value : Value} (safe : value.Numbers Safe) (kind : Kind) :
    validType kind value = Schema.validType kind value := by
  unfold validType
  split
  next n =>
    obtain ⟨whole, bounds⟩ := Node.numbers_num safe
    simp [Schema.validType, whole, bounds]
  · rfl

theorem typeIssue_none {value : Value} (safe : value.Numbers Safe) (rule : Rule) (path : String) :
    typeIssue rule value path = none ↔ rule.kind.all (Schema.validType · value) = true := by
  unfold typeIssue
  cases rule.kind <;> simp [validType_safe safe]

theorem numberIssue_none (rule : Rule) (value : Value) (path : String) :
    numberIssue rule value path = none ↔ acceptsNumber rule value = true := by
  unfold numberIssue acceptsNumber
  cases value with
  | num n =>
    simp only [check_none]
    cases rule.minimum <;> cases rule.maximum <;> cases rule.exclusiveMinimum <;>
      simp [and_assoc, and_comm]
  | _ => simp

theorem notIssue_none {issue : Interpreter} {ok : Rule → Value → Bool} {P : Rule → Prop}
    {Q : Value → Prop}
    (agree : ∀ r v path relation, P r → Q v → (issue r v path relation = none ↔ ok r v = true))
    {rule : Rule} (children : Children property P rule) {value : Value} (parts : Parts Q value)
    (path relation : String) :
    notIssue issue rule value path relation = none ↔
      rule.excluded.all (fun child => !ok child value) = true := by
  unfold notIssue
  cases found : rule.excluded with
  | none => simp
  | some child =>
    have verdict := agree child value path "" (children.excluded child found) parts.self
    simp only [Option.isNone_iff_eq_none, verdict, Option.all_some, Bool.not_eq_eq_eq_not,
      Bool.not_true]
    cases ok child value with
    | false => simp
    | true =>
      simp only [if_true, Bool.true_eq_false, iff_false]
      split <;> simp

theorem children {depth : Nat} {rule : Rule} (h : resolves s (depth + 1) rule = true)
    (plain : rule.ref = none) : Children property (fun r => resolves s depth r = true) rule := by
  refine { resolves_children h plain with member := fun name child found => ?_ }
  have own := (resolves_children h plain).member name child
  unfold property at found
  unfold Rule.property at own
  cases hp : rule.properties with
  | none => simp [hp] at found
  | some l =>
    simp only [hp, Option.getD_some] at found own
    rcases (Option.orElse_eq_some _ _ _).mp found with found | ⟨-, found⟩
    · exact own found
    · simp only [Option.ite_none_right_eq_some, Option.some.injEq] at found
      obtain ⟨-, rfl⟩ := found
      simp only [resolves, plain, hp, Bool.and_eq_true, Option.all_some, bne_iff_ne] at h
      obtain ⟨k, rfl⟩ := Nat.exists_eq_succ_of_ne_zero h.1.1.1.1.1.1.2
      simp [resolves]

section
variable {ok ok' p : Rule → Value → Bool} {rule : Rule}

end

end Script

/-- Both kits read the same file; `matched` is what their regular-expression engines agree on. -/
def sessionSchema (matched : String → String → Bool) : Root := { definitions, matched }

/-- Deep enough for every definition. -/
def depth : Nat := 12

end Sessionbus.Schema
