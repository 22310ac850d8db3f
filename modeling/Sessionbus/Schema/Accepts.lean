import Mathlib.Algebra.Order.Ring.Rat
import Sessionbus.Schema.Spec

/-!
# What a rule accepts

A verdict without issues and paths, for any way of finding the rule of a member. Both
interpreters of the schema are compared with it.
-/

namespace Sessionbus.Schema

open Json

/-- No item equals an earlier one. -/
def distinctItems : List Value → Bool
  | [] => true
  | x :: xs => xs.all (fun y => !x.equal y) && distinctItems xs

def acceptsText (s : Root) (rule : Rule) : Value → Bool
  | .str text =>
    rule.minLength.all (· ≤ text.length) && rule.maxLength.all (text.length ≤ ·) &&
    rule.pattern.all (s.matched · text)
  | _ => true

def acceptsNumber (rule : Rule) : Value → Bool
  | .num n =>
    rule.minimum.all (fun bound => (bound : ℚ) ≤ n) &&
    rule.maximum.all (fun bound => n ≤ (bound : ℚ)) &&
      rule.exclusiveMinimum.all (fun bound => (bound : ℚ) < n)
  | _ => true

def acceptsMember (lookup : Lookup) (ok : Rule → Value → Bool) (rule : Rule)
    (m : String × Value) : Bool :=
  match lookup rule m.1 with
  | some child => ok child m.2
  | none => !rule.closed

def acceptsObject (lookup : Lookup) (ok : Rule → Value → Bool) (rule : Rule) : Value → Bool
  | .obj members =>
    rule.required.all (fun name => (members.lookup name).isSome) &&
    rule.minProperties.all (· ≤ members.length) &&
      members.all (acceptsMember lookup ok rule)
  | _ => true

def acceptsList (ok : Rule → Value → Bool) (rule : Rule) : Value → Bool
  | .arr items =>
    rule.items.all (fun item => items.all (ok item)) && (!rule.uniqueItems || distinctItems items)
  | _ => true

def acceptsBranch (ok : Rule → Value → Bool) (rule : Rule) (value : Value) : Bool :=
  rule.condition.all fun condition =>
    if ok condition value then rule.consequent.all (ok · value)
    else rule.alternative.all (ok · value)

/-- The keywords of a rule that is not a reference. -/
def acceptsNode (s : Root) (lookup : Lookup) (ok : Rule → Value → Bool) (rule : Rule)
    (value : Value) : Bool :=
  rule.kind.all (validType · value) && rule.const.all (value.equal ·) &&
    rule.enum.all (contains · value) && acceptsText s rule value && acceptsNumber rule value &&
    acceptsObject lookup ok rule value && acceptsList ok rule value &&
    rule.allOf.all (ok · value) && rule.excluded.all (fun child => !ok child value) &&
    acceptsBranch ok rule value

def accepts (s : Root) (lookup : Lookup) : Nat → Rule → Value → Bool
  | 0 => fun _ _ => false
  | depth + 1 => fun rule value =>
    match rule.ref with
    | some name => accepts s lookup depth ((s.definition name).getD {}) value
    | none => acceptsNode s lookup (accepts s lookup depth) rule value

/-! ## The verdict of the Go interpreter -/

theorem distinctItems_iff (seen items : List Value) :
    (items.zipIdx seen.length).findSome? (fun child =>
        if contains ((seen ++ items).take child.2) child.1 then some (Issue.duplicate "")
        else none) = none ↔
      (∀ x ∈ items, contains seen x = false) ∧ distinctItems items = true := by
  induction items generalizing seen with
  | nil => simp [distinctItems]
  | cons x items ih =>
    have next := ih (seen ++ [x])
    simp only [List.length_append, List.length_singleton, List.append_assoc,
      List.singleton_append] at next
    simp only [List.zipIdx_cons, List.findSome?_cons, List.take_left, distinctItems,
      Bool.and_eq_true, List.all_eq_true, Bool.not_eq_true', List.mem_cons, forall_eq_or_imp]
    cases hx : contains seen x with
    | true => simp
    | false =>
      simp only [Bool.false_eq_true, if_false, next, true_and]
      simp only [contains, List.any_append, List.any_cons, List.any_nil, Bool.or_false,
        Bool.or_eq_false_iff]
      constructor
      · rintro ⟨fresh, rest⟩
        exact ⟨fun y hy => (fresh y hy).1, fun y hy => (fresh y hy).2, rest⟩
      · rintro ⟨fresh, other, rest⟩
        exact ⟨fun y hy => ⟨fresh y hy, other y hy⟩, rest⟩

theorem findSome_congr_none {α β : Type} {l : List α} {f g : α → Option β}
    (h : ∀ x ∈ l, f x = none ↔ g x = none) : l.findSome? f = none ↔ l.findSome? g = none := by
  simp only [List.findSome?_eq_none_iff]
  exact forall₂_congr h

theorem duplicates_none (items : List Value) (path : String) :
    items.zipIdx.findSome? (fun child =>
        if contains (items.take child.2) child.1
        then some (Issue.duplicate (indexPath path child.2)) else none) = none ↔
      distinctItems items = true := by
  have all := distinctItems_iff [] items
  simp only [List.length_nil, List.nil_append] at all
  rw [findSome_congr_none (g := fun child =>
    if contains (items.take child.2) child.1 then some (Issue.duplicate "") else none), all]
  · simp [contains]
  · intro child _
    split <;> simp

theorem items_none {items : List Value} {issue : Value → Nat → Option Issue} {ok : Value → Bool}
    (h : ∀ x ∈ items, ∀ i, issue x i = none ↔ ok x = true) :
    items.zipIdx.findSome? (fun child => issue child.1 child.2) = none ↔ items.all ok = true := by
  simp only [List.findSome?_eq_none_iff, List.all_eq_true]
  constructor
  · intro none x hx
    obtain ⟨i, hi, rfl⟩ := List.getElem_of_mem hx
    exact (h _ hx i).mp (none (items[i], i) (List.mem_zipIdx_iff_getElem?.mpr (by simp [hi])))
  · intro accepted child hchild
    have hx : child.1 ∈ items := List.fst_mem_of_mem_zipIdx hchild
    exact (h _ hx _).mpr (accepted _ hx)

variable {s : Root}

theorem typeIssue_none (rule : Rule) (value : Value) (path : String) :
    typeIssue rule value path = none ↔ rule.kind.all (validType · value) = true := by
  unfold typeIssue
  cases rule.kind <;> simp

theorem constIssue_none (rule : Rule) (value : Value) (path : String) :
    constIssue rule value path = none ↔ rule.const.all (value.equal ·) = true := by
  unfold constIssue
  cases rule.const <;> simp

theorem enumIssue_none (rule : Rule) (value : Value) (path : String) :
    enumIssue rule value path = none ↔ rule.enum.all (contains · value) = true := by
  unfold enumIssue
  cases rule.enum <;> simp

theorem check_none {a : Prop} [Decidable a] {issue : Issue} {rest : Option Issue} :
    (if a then some issue else rest) = none ↔ ¬ a ∧ rest = none := by
  split_ifs with h <;> simp [h]

theorem textIssue_none (rule : Rule) (value : Value) (path : String) :
    textIssue s rule value path = none ↔ acceptsText s rule value = true := by
  unfold textIssue acceptsText
  cases value with
  | str text => cases rule.minLength <;> cases rule.maxLength <;> cases rule.pattern <;> grind
  | _ => simp

theorem numberIssue_none (rule : Rule) (value : Value) (path : String) :
    numberIssue rule value path = none ↔ acceptsNumber rule value = true := by
  unfold numberIssue acceptsNumber
  cases value with
  | num n =>
    simp only [check_none]
    cases rule.minimum <;> cases rule.maximum <;> cases rule.exclusiveMinimum <;> simp [and_assoc]
  | _ => simp

/-- The rules that an interpreter goes on with. -/
structure Children (lookup : Lookup) (P : Rule → Prop) (rule : Rule) : Prop where
  member : ∀ name child, lookup rule name = some child → P child
  items : ∀ child, rule.items = some child → P child
  allOf : ∀ child ∈ rule.allOf, P child
  excluded : ∀ child, rule.excluded = some child → P child
  condition : ∀ child, rule.condition = some child → P child
  consequent : ∀ child, rule.consequent = some child → P child
  alternative : ∀ child, rule.alternative = some child → P child

/-- The values that an interpreter goes on with. -/
structure Parts (Q : Value → Prop) (value : Value) : Prop where
  self : Q value
  items : ∀ items, value = .arr items → ∀ x ∈ items, Q x
  members : ∀ members, value = .obj members → ∀ m ∈ members, Q m.2

section Recursion

variable {lookup : Lookup} {issue : Interpreter} {ok : Rule → Value → Bool} {P : Rule → Prop}
  {Q : Value → Prop}

variable (agree : ∀ r v path relation, P r → Q v → (issue r v path relation = none ↔ ok r v = true))
  {rule : Rule} (children : Children lookup P rule) {value : Value} (parts : Parts Q value)
  (path relation : String)

include agree children parts

theorem objectIssue_none :
    objectIssue lookup issue rule value path relation = none ↔
    acceptsObject lookup ok rule value = true := by
  unfold objectIssue acceptsObject
  cases value with
  | obj members =>
    have member (m : String × Value) (hm : m ∈ members) :
        memberIssue lookup issue rule path relation m = none ↔
        acceptsMember lookup ok rule m = true := by
      unfold memberIssue acceptsMember
      cases found : lookup rule m.1 with
      | none => simp
      | some child =>
        exact agree child m.2 _ relation (children.member _ child found)
          (parts.members members rfl m hm)
    have all : members.findSome? (memberIssue lookup issue rule path relation) = none ↔
        members.all (acceptsMember lookup ok rule) = true := by
      rw [List.findSome?_eq_none_iff, List.all_eq_true]
      exact forall₂_congr member
    simp only [Option.orElse_eq_none, check_none, all, and_true, Bool.and_eq_true, and_assoc]
    cases rule.minProperties <;> simp
  | _ => simp

theorem listIssue_none :
    listIssue issue rule value path relation = none ↔ acceptsList ok rule value = true := by
  unfold listIssue acceptsList
  cases value with
  | arr items =>
    have unique : (if rule.uniqueItems = true then
          items.zipIdx.findSome? fun child =>
            if contains (items.take child.2) child.1 then
              some (Issue.duplicate (indexPath path child.2))
            else none
        else none) = none ↔ (!rule.uniqueItems || distinctItems items) = true := by
      cases rule.uniqueItems with
      | false => simp
      | true => simpa using duplicates_none items path
    simp only [Option.orElse_eq_none, unique, Bool.and_eq_true]
    cases found : rule.items with
    | none => simp
    | some item =>
      have each : ∀ x ∈ items, ∀ i, issue item x (indexPath path i) relation = none ↔
          ok item x = true :=
        fun x hx i =>
          agree item x _ relation (children.items item found) (parts.items items rfl x hx)
      rw [items_none each, Option.all_some]
  | _ => simp

theorem allOfIssue_none :
    allOfIssue issue rule value path relation = none ↔ rule.allOf.all (ok · value) = true := by
  unfold allOfIssue
  rw [List.findSome?_eq_none_iff, List.all_eq_true]
  exact forall₂_congr fun child hc =>
    agree child value path relation (children.allOf child hc) parts.self

theorem notIssue_none :
    notIssue issue rule value path relation = none ↔
      rule.excluded.all (fun child => !ok child value) = true := by
  unfold notIssue
  cases found : rule.excluded with
  | none => simp
  | some child =>
    have verdict := agree child value path "" (children.excluded child found) parts.self
    simp only [Option.isNone_iff_eq_none, verdict, Option.all_some, Bool.not_eq_eq_eq_not,
      Bool.not_true]
    cases ok child value with
    | false => simp
    | true =>
      simp only [if_true, Bool.true_eq_false, iff_false]
      split <;> simp

theorem branchIssue_none :
    branchIssue issue rule value path relation = none ↔ acceptsBranch ok rule value = true := by
  unfold branchIssue acceptsBranch
  cases found : rule.condition with
  | none => simp
  | some condition =>
    have verdict := agree condition value path "" (children.condition condition found) parts.self
    simp only [Option.isNone_iff_eq_none, verdict, Option.all_some]
    cases ok condition value with
    | false =>
      cases other : rule.alternative with
      | none => simp
      | some child =>
        simpa using agree child value path relation (children.alternative child other) parts.self
    | true =>
      cases other : rule.consequent with
      | none => simp
      | some child =>
        simpa using agree child value path _ (children.consequent child other) parts.self

end Recursion

theorem schemaIssue_none (depth : Nat) (rule : Rule) (value : Value) (path relation : String) :
    schemaIssue s depth rule value path relation = none ↔
    accepts s Rule.property depth rule value = true := by
  induction depth generalizing rule value path relation with
  | zero => simp [schemaIssue, accepts]
  | succ depth ih =>
    unfold schemaIssue accepts
    cases rule.ref with
    | some name => exact ih _ value path relation
    | none =>
      have agree := fun r v path relation (_ : True) (_ : True) => ih r v path relation
      have children : Children Rule.property (fun _ => True) rule := by constructor <;> simp
      have parts : Parts (fun _ => True) value := by constructor <;> simp
      simp only [acceptsNode, Option.orElse_eq_none, typeIssue_none, constIssue_none,
        enumIssue_none, textIssue_none, numberIssue_none, objectIssue_none agree children parts,
        listIssue_none agree children parts, allOfIssue_none agree children parts,
        notIssue_none agree children parts, branchIssue_none agree children parts,
        Bool.and_eq_true, and_assoc]

/-! ## Rules are followed to their ends -/

/-- References and subrules end within the depth. -/
def resolves (s : Root) : Nat → Rule → Bool
  | 0 => fun _ => false
  | depth + 1 => fun rule =>
    match rule.ref with
    | some name => (s.definition name).any (resolves s depth)
    | none =>
      rule.properties.all (fun l => l.all (fun m => resolves s depth m.2) && (depth != 0)) &&
        rule.items.all (resolves s depth) && rule.allOf.all (resolves s depth) &&
        rule.excluded.all (resolves s depth) && rule.condition.all (resolves s depth) &&
        rule.consequent.all (resolves s depth) && rule.alternative.all (resolves s depth)

theorem mem_of_lookup {α : Type} {l : List (String × α)} {name : String} {x : α}
    (h : l.lookup name = some x) : (name, x) ∈ l := by
  induction l with
  | nil => simp at h
  | cons m l ih =>
    obtain ⟨name', y⟩ := m
    simp only [List.lookup_cons] at h
    split at h
    · rename_i heq
      simp_all
    · exact List.mem_cons_of_mem _ (ih h)

theorem resolves_children {depth : Nat} {rule : Rule} (h : resolves s (depth + 1) rule = true)
    (plain : rule.ref = none) :
    Children Rule.property (fun r => resolves s depth r = true) rule := by
  simp only [resolves, plain, Bool.and_eq_true, Option.all_eq_true, List.all_eq_true] at h
  obtain ⟨⟨⟨⟨⟨⟨properties, items⟩, allOf⟩, excluded⟩, condition⟩, consequent⟩, alternative⟩ := h
  refine ⟨fun name child found => ?_, items, allOf, excluded, condition, consequent, alternative⟩
  unfold Rule.property at found
  cases hp : rule.properties with
  | none => simp [hp] at found
  | some l =>
    rw [hp, Option.getD_some] at found
    exact (properties l hp).1 _ (mem_of_lookup found)

end Sessionbus.Schema
