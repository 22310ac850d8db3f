import Sessionbus.Schema.Accepts
import Sessionbus.Schema.Definitions

/-!
# What the shapes of the schema accept

One lemma for each shape that the definitions are built from.
-/

namespace Sessionbus.Schema

open Json

variable {s : Root} {n : Nat}

theorem accepts_succ {rule : Rule} (plain : rule.ref = none) (value : Value) :
    accepts s Rule.property (n + 1) rule value =
      acceptsNode s Rule.property (accepts s Rule.property n) rule value := by
  simp only [accepts, plain]

theorem accepts_refer {name : String} {rule : Rule} (found : s.definition name = some rule)
    (value : Value) :
    accepts s Rule.property (n + 1) (refer name) value = accepts s Rule.property n rule value := by
  simp only [accepts, refer, found, Option.getD_some]

/-! ## Texts -/

theorem accepts_nonempty (text : String) :
    accepts s Rule.property (n + 1) nonempty (.str text) = decide (text ≠ "") := by
  rw [accepts_succ rfl]
  have empty : (1 ≤ text.length) ↔ text ≠ "" := by
    rw [Nat.one_le_iff_ne_zero, Ne, String.length_eq_zero_iff]
  simp [acceptsNode, nonempty, validType, acceptsText, acceptsNumber, acceptsObject, acceptsList,
    acceptsBranch, empty]

theorem accepts_oneOf (texts : List String) (text : String) :
    accepts s Rule.property (n + 1) (oneOf texts) (.str text) = texts.contains text := by
  rw [accepts_succ rfl, Bool.eq_iff_iff]
  simp [acceptsNode, oneOf, contains, acceptsText, acceptsNumber, acceptsObject, acceptsList,
    acceptsBranch, Node.equal, Function.comp_def]

theorem accepts_boundedText (k : Nat) (text : String) :
    accepts s Rule.property (n + 1) (bounded k) (.str text) =
      (decide (text ≠ "") && decide (text.length ≤ k)) := by
  rw [accepts_succ rfl]
  have empty : (1 ≤ text.length) ↔ text ≠ "" := by
    rw [Nat.one_le_iff_ne_zero, Ne, String.length_eq_zero_iff]
  simp [acceptsNode, bounded, validType, acceptsText, acceptsNumber, acceptsObject, acceptsList,
    acceptsBranch, empty]

theorem accepts_label (k : Nat) (text : String) :
    accepts s Rule.property (n + 1) (label k) (.str text) =
      (decide (text ≠ "") && decide (text.length ≤ k) && s.matched namePattern text) := by
  rw [accepts_succ rfl]
  have empty : (1 ≤ text.length) ↔ text ≠ "" := by
    rw [Nat.one_le_iff_ne_zero, Ne, String.length_eq_zero_iff]
  simp [acceptsNode, label, bounded, validType, acceptsText, acceptsNumber, acceptsObject,
    acceptsList, acceptsBranch, empty]

theorem accepts_flag (b : Bool) : accepts s Rule.property (n + 1) flag (.bool b) = true := by
  rw [accepts_succ rfl]
  simp [acceptsNode, flag, validType, acceptsText, acceptsNumber, acceptsObject, acceptsList,
    acceptsBranch]

theorem accepts_milliseconds (t : Nat) :
    accepts s Rule.property (n + 1) milliseconds (.num t) = decide (t ≤ 9223372036854) := by
  rw [accepts_succ rfl]
  have whole : (t : ℚ).isInt = true := rfl
  have low : (0 : ℚ) ≤ t := by exact_mod_cast Nat.zero_le t
  have high : (t : ℚ) ≤ 9223372036854 ↔ t ≤ 9223372036854 := by exact_mod_cast Iff.rfl
  simp [acceptsNode, milliseconds, validType, acceptsText, acceptsNumber, acceptsObject,
    acceptsList, acceptsBranch, whole, low, high]

theorem distinctItems_texts (texts : List String) :
    distinctItems (texts.map Node.str) = true ↔ texts.Nodup := by
  induction texts with
  | nil => simp [distinctItems]
  | cons text texts ih =>
    simp only [List.map_cons, distinctItems, Bool.and_eq_true, ih, List.nodup_cons, List.all_map]
    have fresh : (texts.all fun y => !(Node.str text : Value).equal (.str y)) = true ↔
        text ∉ texts := by
      simp only [Node.equal, List.all_eq_true, Bool.not_eq_true', beq_eq_false_iff_ne]
      exact ⟨fun other inside => other text inside rfl,
        fun outside y hy same => outside (same ▸ hy)⟩
    exact and_congr_left fun _ => fresh

theorem accepts_distinct (texts : List String) :
    accepts s Rule.property (n + 2) (distinct nonempty) (.arr (texts.map .str)) = true ↔
    texts.Nodup ∧ "" ∉ texts := by
  rw [accepts_succ rfl]
  simp [acceptsNode, distinct, listOf, validType, acceptsText, acceptsNumber, acceptsObject,
    acceptsList, acceptsBranch, accepts_nonempty, distinctItems_texts]
  constructor
  · rintro ⟨filled, distinct⟩
    exact ⟨distinct, fun inside => filled "" inside rfl⟩
  · rintro ⟨distinct, filled⟩
    exact ⟨fun x hx empty => filled (empty ▸ hx), distinct⟩

theorem accepts_listOf (item : Rule) (items : List Value) :
    accepts s Rule.property (n + 1) (listOf item) (.arr items) =
      items.all (accepts s Rule.property n item) := by
  rw [accepts_succ rfl]
  simp [acceptsNode, listOf, validType, acceptsText, acceptsNumber, acceptsObject, acceptsList,
    acceptsBranch]

/-! ## Conditions -/

theorem accepts_implies (condition consequent : Rule) (value : Value) :
    accepts s Rule.property (n + 1) (implies condition consequent) value =
      (!accepts s Rule.property n condition value ||
        accepts s Rule.property n consequent value) := by
  rw [accepts_succ rfl]
  cases met : accepts s Rule.property n condition value <;> cases value <;>
    simp [acceptsNode, implies, acceptsText, acceptsNumber, acceptsObject, acceptsMember,
      Rule.property, acceptsList, acceptsBranch, met]

theorem accepts_choose (condition consequent alternative : Rule) (value : Value) :
    accepts s Rule.property (n + 1) (choose condition consequent alternative) value =
      if accepts s Rule.property n condition value then accepts s Rule.property n consequent value
      else accepts s Rule.property n alternative value := by
  rw [accepts_succ rfl]
  cases value <;>
    simp [acceptsNode, choose, implies, acceptsText, acceptsNumber, acceptsObject, acceptsMember,
      Rule.property, acceptsList, acceptsBranch]

theorem accepts_allOf (rules : List Rule) (value : Value) :
    accepts s Rule.property (n + 1) { allOf := rules } value =
      rules.all fun rule => accepts s Rule.property n rule value := by
  rw [accepts_succ rfl]
  cases value <;>
    simp [acceptsNode, acceptsText, acceptsNumber, acceptsObject, acceptsMember, Rule.property,
      acceptsList, acceptsBranch]

/-! ## Objects -/

section

variable (members : List (String × Value))

theorem accepts_needs (names : List String) :
    accepts s Rule.property (n + 1) (needs names) (.obj members) = names.all fun name =>
    (members.lookup name).isSome := by
  rw [accepts_succ rfl]
  simp [acceptsNode, needs, acceptsText, acceptsNumber, acceptsObject, acceptsMember, Rule.property,
    acceptsList, acceptsBranch]

theorem accepts_without (name : String) :
    accepts s Rule.property (n + 2) (without name) (.obj members) =
      !(members.lookup name).isSome := by
  rw [accepts_succ rfl]
  simp [acceptsNode, without, accepts_needs, acceptsText, acceptsNumber, acceptsObject,
    acceptsMember, Rule.property, acceptsList, acceptsBranch]

theorem accepts_withoutAll (names : List String) :
    accepts s Rule.property (n + 3) (withoutAll names) (.obj members) =
      names.all fun name => !(members.lookup name).isSome := by
  unfold withoutAll
  rw [accepts_allOf, List.all_map]
  simp only [Function.comp_def, accepts_without]

theorem accepts_const (value : Value) (other : Value) :
    accepts s Rule.property (n + 1) { const := some value } other = other.equal value := by
  rw [accepts_succ rfl]
  cases other <;>
    simp [acceptsNode, acceptsText, acceptsNumber, acceptsObject, acceptsMember, Rule.property,
      acceptsList, acceptsBranch]

theorem accepts_equals (name : String) (value : Value) :
    accepts s Rule.property (n + 2) (equals name value) (.obj members) =
      members.all fun m => m.1 != name || m.2.equal value := by
  have member : ∀ m : String × Value, acceptsMember Rule.property (accepts s Rule.property (n + 1))
      (equals name value) m = (m.1 != name || m.2.equal value) := by
    intro m
    unfold acceptsMember
    by_cases same : m.1 = name
    · simp [Rule.property, equals, same, accepts_const]
    · have other : (m.1 == name) = false := by simpa using same
      simp [Rule.property, equals, same, other, List.lookup_cons]
  have members := funext member
  simp only [equals] at members
  rw [accepts_succ rfl]
  simp [acceptsNode, equals, acceptsText, acceptsNumber, acceptsObject, acceptsList,
    acceptsBranch, members]

theorem accepts_object :
    accepts s Rule.property (n + 1) { kind := some .object } (.obj members) = true := by
  rw [accepts_succ rfl]
  simp [acceptsNode, validType, acceptsText, acceptsNumber, acceptsObject, acceptsMember,
    Rule.property, acceptsList, acceptsBranch]

theorem accepts_isSet (name : String) (value : Value) :
    accepts s Rule.property (n + 2) (isSet name value) (.obj members) =
      ((members.lookup name).isSome && members.all fun m => m.1 != name || m.2.equal value) := by
  have member : ∀ m : String × Value, acceptsMember Rule.property (accepts s Rule.property (n + 1))
      (isSet name value) m = (m.1 != name || m.2.equal value) := by
    intro m
    unfold acceptsMember
    by_cases same : m.1 = name
    · simp [Rule.property, isSet, equals, same, accepts_const]
    · have other : (m.1 == name) = false := by simpa using same
      simp [Rule.property, isSet, equals, same, other, List.lookup_cons]
  have members := funext member
  simp only [isSet, equals] at members
  rw [accepts_succ rfl]
  simp [acceptsNode, isSet, equals, acceptsText, acceptsNumber, acceptsObject, acceptsList,
    acceptsBranch, members]

theorem accepts_record (required : List String) (properties : List (String × Rule))
    (conditions : List Rule) :
    accepts s Rule.property (n + 1) { record required properties with allOf := conditions }
        (.obj members) =
      (required.all (fun name => (members.lookup name).isSome) &&
        members.all (fun m =>
          (properties.lookup m.1).any fun child => accepts s Rule.property n child m.2) &&
        conditions.all fun rule => accepts s Rule.property n rule (.obj members)) := by
  have member : ∀ m : String × Value, acceptsMember Rule.property (accepts s Rule.property n)
      { record required properties with allOf := conditions } m =
        (properties.lookup m.1).any fun child => accepts s Rule.property n child m.2 := by
    intro m
    unfold acceptsMember
    simp only [Rule.property, record, Option.getD_some]
    cases properties.lookup m.1 <;> rfl
  have members := funext member
  simp only [record] at members
  rw [accepts_succ rfl]
  simp [acceptsNode, record, validType, acceptsText, acceptsNumber, acceptsObject, acceptsList,
    acceptsBranch, members]

end

end Sessionbus.Schema
