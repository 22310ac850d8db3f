import Sessionbus.Json.Text
import Sessionbus.Schema.Script

/-!
# The grammar of frames

`DecodeFrame` of `protocol/frame.go`. The standard library matches the members of an object with
the fields of a struct by name, and where no name is equal, by name up to case.
-/

namespace Json

/-- `foldRune`, on the letters that fold to an ASCII one. -/
def foldChar (c : Char) : Char :=
  if c = '\u017f' then 's' else if c = '\u212a' then 'k' else c.toLower

def foldName (name : String) : String := String.ofList (name.toList.map foldChar)

/-- The field that a member is decoded into. -/
def fieldFor (fields : List String) (name : String) : Option String :=
  if fields.contains name then some name
  else fields.find? fun field => foldName field == foldName name

def isNull : Raw → Bool
  | .null => true
  | _ => false

/-- The member that is decoded last. -/
def lastOf {α : Type} (p : String → Bool) (members : List (String × α)) : Option α :=
  ((members.filter fun m => p m.1).getLast?).map Prod.snd

end Json

namespace Sessionbus

open Json

/-- A decoded frame. `error` is the raw error, which `DecodeError` has accepted. -/
structure Frame where
  id : Int
  method : String := ""
  params : Option Raw := none
  result : Option Raw := none
  error : Option Raw := none
  request : Bool

def maxRequestID : Int := 9007199254740991

def numericID : Option Raw → Option Int
  | some (.num l) =>
    match binary64 l.value with
    | some q => if q.isInt ∧ 1 ≤ q ∧ q ≤ maxRequestID then some q.num else none
    | none => none
  | _ => none

/-- `DecodeError`, as far as it can fail. -/
def decodesError (matched : String → String → Bool) (raw : Raw) : Bool :=
  match generic raw with
  | some value =>
    (Schema.schemaIssue (Schema.sessionSchema matched) Schema.depth (Schema.refer "RPCError") value
      "" "").isNone
  | none => false

/-- The fields of `wireFrame`. -/
def wireNames : List String := ["jsonrpc", "id", "method", "params", "result", "error"]

/-- A field of the decoded `wireFrame`; `none` is a field of length 0. -/
def wire (members : List (String × Raw)) (field : String) : Option Raw :=
  lastOf (fun name => fieldFor wireNames name == some field) members

/-- From the check of the method on. -/
def frameBody (matched : String → String → Bool) (members : List (String × Raw)) (id : Int) :
    Option Frame :=
  -- `fields["method"] != nil || fields["params"] != nil`, which knows exact names only
  let request := (members.lookup "method").isSome || (members.lookup "params").isSome
  let params := wire members "params"
  let result := wire members "result"
  let error := wire members "error"
  match wire members "method" with
  | some (.str method) =>
    if params.any isNull || result.isSome || error.isSome || method = "" then none
    else some { id, method, params, request }
  | some _ => none
  | none =>
    if params.isSome then none
    else
      match result, error with
      | some result, none => if isNull result then none else some { id, result, request }
      | none, some error =>
        if isNull error || !decodesError matched error then none else some { id, error, request }
      | _, _ => none

/-- `DecodeFrame`. A body that is no object leaves `wireFrame` empty, and fails with it. -/
def decodeFrame (matched : String → String → Bool) (body : ByteArray) : Option Frame :=
  match parseBytes body with
  | some (.obj members) =>
    if members.all fun m => (fieldFor wireNames m.1).isSome then
      match wire members "jsonrpc" with
      | some (.str "2.0") => (numericID (wire members "id")).bind (frameBody matched members)
      | _ => none
    else none
  | _ => none

/-! ## The three shapes -/

inductive FrameKind
  | request | result | error
deriving DecidableEq, Repr

def FrameKind.names : FrameKind → List String
  | .request => ["jsonrpc", "id", "method", "params"]
  | .result => ["jsonrpc", "id", "result"]
  | .error => ["jsonrpc", "id", "error"]

theorem FrameKind.names_known (kind : FrameKind) : ∀ name ∈ kind.names, name ∈ wireNames := by
  cases kind <;> decide

/-- The last member with the name. -/
def exactly (members : List (String × Raw)) (name : String) : Option Raw :=
  lastOf (· == name) members

/-- What a frame of the shape has in it. -/
def Frame.Fits (f : Frame) : FrameKind → Prop
  | .request => f.request = true ∧ f.method ≠ "" ∧ f.params.isSome = true ∧ f.result = none ∧
    f.error = none
  | .result =>
    f.request = false ∧ f.method = "" ∧ f.params = none ∧ f.result.isSome = true ∧ f.error = none
  | .error =>
    f.request = false ∧ f.method = "" ∧ f.params = none ∧ f.result = none ∧ f.error.isSome = true

/-- The frame has one of the three shapes, and its version and ID are what they must be. -/
structure Conforms (members : List (String × Raw)) (f : Frame) : Prop where
  shape : ∃ shape : FrameKind, (∀ name, name ∈ members.map Prod.fst ↔ name ∈ shape.names) ∧
    f.Fits shape
  version : ∃ text, exactly members "jsonrpc" = some (.str text) ∧ text = "2.0"
  id : ∃ l, exactly members "id" = some (.num l) ∧ l.value = f.id ∧ 1 ≤ f.id ∧ f.id ≤ maxRequestID

/-- The text names its members exactly, has parameters beside a method, and spells its ID as a
number. -/
structure Spelled (members : List (String × Raw)) : Prop where
  names : ∀ m ∈ members, m.1 ∈ wireNames
  params : "method" ∈ members.map Prod.fst → "params" ∈ members.map Prod.fst
  id : ∀ l, exactly members "id" = some (.num l) → binary64 l.value = some l.value

theorem lastOf_isSome {α : Type} (p : String → Bool) (members : List (String × α)) :
    (lastOf p members).isSome = true ↔ ∃ m ∈ members, p m.1 = true := by
  simp [lastOf]

theorem exactly_isSome (members : List (String × Raw)) (name : String) :
    (exactly members name).isSome = true ↔ name ∈ members.map Prod.fst := by
  rw [exactly, lastOf_isSome]
  simp

theorem lookup_isSome (members : List (String × Raw)) (name : String) :
    (members.lookup name).isSome = true ↔ name ∈ members.map Prod.fst := by
  simp

theorem wire_exact {members : List (String × Raw)} (names : ∀ m ∈ members, m.1 ∈ wireNames)
    {field : String} : wire members field = exactly members field := by
  unfold wire exactly lastOf
  congr 2
  refine List.filter_congr fun m hm => ?_
  have known : wireNames.contains m.1 = true := by simpa using names m hm
  simp only [fieldFor, known, if_true]
  simp

theorem numericID_some {raw : Option Raw} {id : Int} (h : numericID raw = some id) :
    ∃ l, raw = some (.num l) ∧ binary64 l.value = some (id : ℚ) ∧ 1 ≤ id ∧ id ≤ maxRequestID := by
  unfold numericID at h
  split at h
  next l =>
    split at h
    next q hq =>
      simp only [Option.ite_none_right_eq_some, Option.some.injEq] at h
      obtain ⟨⟨whole, low, high⟩, rfl⟩ := h
      have exact_q : (q.num : ℚ) = q :=
        Rat.coe_int_num_of_den_eq_one (by simpa [Rat.isInt] using whole)
      refine ⟨l, rfl, by rw [exact_q]; exact hq, ?_, ?_⟩
      · rw [← exact_q] at low
        exact_mod_cast low
      · rw [← exact_q] at high
        exact_mod_cast high
    · simp at h
  · simp at h

theorem decodeFrame_cases {matched : String → String → Bool} {body : ByteArray} {f : Frame}
    (h : decodeFrame matched body = some f) : ∃ members, parseBytes body = some (.obj members) ∧
      wire members "jsonrpc" = some (.str "2.0") ∧ numericID (wire members "id") = some f.id ∧
      frameBody matched members f.id = some f := by
  unfold decodeFrame at h
  split at h
  next members parsed =>
    split at h
    · split at h
      next version =>
        obtain ⟨id, numeric, rest⟩ := Option.bind_eq_some_iff.mp h
        have same : f.id = id := by
          unfold frameBody at rest
          grind
        exact ⟨members, parsed, version, by rw [same]; exact numeric, by rw [same]; exact rest⟩
      · simp at h
    · simp at h
  · simp at h

theorem frameBody_cases {matched : String → String → Bool} {members : List (String × Raw)}
    {id : Int} {f : Frame} (h : frameBody matched members id = some f) :
    f.request = ((members.lookup "method").isSome || (members.lookup "params").isSome) ∧
    ((∃ method, wire members "method" = some (.str method) ∧ method ≠ "" ∧
      wire members "result" = none ∧
        wire members "error" = none ∧ f.method = method ∧ f.params = wire members "params" ∧
        f.result = none ∧ f.error = none) ∨
      (∃ result, wire members "method" = none ∧ wire members "params" = none ∧
      wire members "result" = some result ∧
        wire members "error" = none ∧ f.method = "" ∧ f.params = none ∧ f.result = some result ∧
        f.error = none) ∨
      ∃ error, wire members "method" = none ∧ wire members "params" = none ∧
      wire members "result" = none ∧
        wire members "error" = some error ∧ f.method = "" ∧ f.params = none ∧ f.result = none ∧
        f.error = some error) := by
  unfold frameBody at h
  simp only at h
  split at h
  next method hm =>
    simp only [Option.ite_none_left_eq_some, Option.some.injEq, Bool.or_eq_true,
      decide_eq_true_eq, not_or, Bool.not_eq_true, Option.isSome_eq_false_iff,
      Option.isNone_iff_eq_none] at h
    obtain ⟨⟨⟨⟨-, result⟩, error⟩, named⟩, rfl⟩ := h
    exact ⟨rfl, .inl ⟨method, hm, named, result, error, rfl, rfl, rfl, rfl⟩⟩
  · simp at h
  next hm =>
    simp only [Option.ite_none_left_eq_some, Bool.not_eq_true, Option.isSome_eq_false_iff,
      Option.isNone_iff_eq_none] at h
    obtain ⟨params, h⟩ := h
    split at h
    next result hr he =>
      simp only [Option.ite_none_left_eq_some, Option.some.injEq] at h
      obtain ⟨-, rfl⟩ := h
      exact ⟨rfl, .inr (.inl ⟨result, hm, params, hr, he, rfl, rfl, rfl, rfl⟩)⟩
    next error hr he =>
      simp only [Option.ite_none_left_eq_some, Option.some.injEq] at h
      obtain ⟨-, rfl⟩ := h
      exact ⟨rfl, .inr (.inr ⟨error, hm, params, hr, he, rfl, rfl, rfl, rfl⟩)⟩
    · simp at h

/-- A frame has one of the three shapes exactly when its text is spelled as it must be. -/
theorem frame_grammar (matched : String → String → Bool) (body : ByteArray) :
    (∀ f, decodeFrame matched body = some f →
        ∃ members, parseBytes body = some (.obj members) ∧ Conforms members f) ↔
      ∀ f, decodeFrame matched body = some f →
        ∃ members, parseBytes body = some (.obj members) ∧ Spelled members := by
  refine forall₂_congr fun f decoded => ?_
  obtain ⟨members, parsed, version, numeric, rest⟩ := decodeFrame_cases decoded
  obtain ⟨l, hl, rounded, low, high⟩ := numericID_some numeric
  simp only [parsed, Option.some.injEq, Node.obj.injEq, exists_eq_left']
  constructor
  · rintro ⟨⟨shape, names, fits⟩, -, ⟨l', hl', value, -, -⟩⟩
    have known : ∀ m ∈ members, m.1 ∈ wireNames := by
      intro m hm
      exact shape.names_known _ ((names m.1).mp (List.mem_map_of_mem hm))
    refine ⟨known, fun method => ?_, fun l'' hl'' => ?_⟩
    · rw [names] at method ⊢
      cases shape <;> simp [FrameKind.names] at method ⊢
    · rw [wire_exact known, hl'] at hl
      rw [hl'] at hl''
      obtain rfl : l' = l := by simpa using hl
      obtain rfl : l' = l'' := by simpa using hl''
      rw [rounded, value]
  · intro spelled
    have exactNames := spelled.names
    simp only [wire_exact exactNames] at version hl
    refine ⟨?_, ⟨"2.0", version, rfl⟩, ⟨l, hl, ?_, low, high⟩⟩
    · obtain ⟨request, fields⟩ := frameBody_cases rest
      simp only [wire_exact exactNames] at fields
      have present := exactly_isSome members
      have hjsonrpc := (present "jsonrpc").mp (by simp [version])
      have hid := (present "id").mp (by simp [hl])
      have only : ∀ name, name ∈ members.map Prod.fst → name ∈ wireNames := by
        rintro name hn
        obtain ⟨m, hm, rfl⟩ := List.mem_map.mp hn
        exact exactNames m hm
      have absent : ∀ name, exactly members name = none → name ∉ members.map Prod.fst := by
        intro name hn
        rw [← present, hn]
        simp
      rw [Bool.eq_iff_iff, Bool.or_eq_true, lookup_isSome, lookup_isSome] at request
      obtain ⟨method, hm, named, hr, he, fm, fp, fr, fe⟩ |
        ⟨result, hm, hp, hr, he, fm, fp, fr, fe⟩ |
        ⟨error, hm, hp, hr, he, fm, fp, fr, fe⟩ := fields
      · have hmethod := (present "method").mp (by simp [hm])
        have hparams := spelled.params hmethod
        have noResult := absent _ hr
        have noError := absent _ he
        refine ⟨.request, fun name => ?_, ?_⟩
        · have := only name
          simp only [FrameKind.names, wireNames, List.mem_cons, List.not_mem_nil,
            or_false] at this ⊢
          grind
        · exact ⟨request.mpr (.inl hmethod), by rw [fm]; exact named,
            by rw [fp]; exact (present "params").mpr hparams, fr, fe⟩
      · have hresult := (present "result").mp (by simp [hr])
        have noMethod := absent _ hm
        have noParams := absent _ hp
        have noError := absent _ he
        refine ⟨.result, fun name => ?_, ?_, fm, fp, by rw [fr]; rfl, fe⟩
        · have := only name
          simp only [FrameKind.names, wireNames, List.mem_cons, List.not_mem_nil,
            or_false] at this ⊢
          grind
        · simpa [noMethod, noParams] using request
      · have herror := (present "error").mp (by simp [he])
        have noMethod := absent _ hm
        have noParams := absent _ hp
        have noResult := absent _ hr
        refine ⟨.error, fun name => ?_, ?_, fm, fp, fr, by rw [fe]; rfl⟩
        · have := only name
          simp only [FrameKind.names, wireNames, List.mem_cons, List.not_mem_nil,
            or_false] at this ⊢
          grind
        · simpa [noMethod, noParams] using request
    · have := spelled.id l hl
      rw [rounded] at this
      exact (Option.some.inj this).symm

def memberNames : Raw → List String
  | .obj members => members.map Prod.fst
  | _ => []

/-- The ID of an object is the number that it spells. -/
def idUnrounded : Raw → Bool
  | .obj members =>
    match exactly members "id" with
    | some (.num l) => binary64 l.value = some l.value
    | _ => false
  | _ => false

def plainRequest : ByteArray :=
  "\x7b\"jsonrpc\":\"2.0\",\"id\":7,\"method\":\"session.list\",\"params\":\x7b\x7d\x7d".toUTF8

/-- A request that is spelled as it must be. -/
theorem frame_grammar_request : ∃ f, decodeFrame (fun _ _ => true) plainRequest = some f ∧
    ∃ members, parseBytes plainRequest = some (.obj members) ∧ Conforms members f := by
  have decoded : (decodeFrame (fun _ _ => true) plainRequest).isSome = true := by decide +kernel
  obtain ⟨f, hf⟩ := Option.isSome_iff_exists.mp decoded
  have spelled : ∀ f, decodeFrame (fun _ _ => true) plainRequest = some f →
      ∃ members, parseBytes plainRequest = some (.obj members) ∧ Spelled members := by
    intro f' hf'
    obtain ⟨members, parsed, -⟩ := decodeFrame_cases hf'
    have names : (parseBytes plainRequest).map memberNames =
        some ["jsonrpc", "id", "method", "params"] := by
      decide +kernel
    have number : (parseBytes plainRequest).all idUnrounded = true := by decide +kernel
    rw [parsed] at names number
    have names :
        members.map Prod.fst = ["jsonrpc", "id", "method", "params"] := Option.some.inj names
    refine ⟨members, parsed, fun m hm => ?_, fun _ => by simp [names], fun l hl => ?_⟩
    · have : m.1 ∈ members.map Prod.fst := List.mem_map_of_mem hm
      rw [names] at this
      exact FrameKind.request.names_known _ this
    · simpa only [Option.all_some, idUnrounded, hl, decide_eq_true_eq] using number
  exact ⟨f, hf, (frame_grammar (fun _ _ => true) plainRequest).mpr spelled f hf⟩

/-- A member that is named like the result up to case. -/
def misspeltResult : ByteArray := "\x7b\"jsonrpc\":\"2.0\",\"id\":1,\"Result\":\x7b\x7d\x7d".toUTF8

theorem frame_grammar_misspelt : ∃ f, decodeFrame (fun _ _ => true) misspeltResult = some f ∧
    ¬ ∃ members, parseBytes misspeltResult = some (.obj members) ∧ Conforms members f := by
  have decoded : (decodeFrame (fun _ _ => true) misspeltResult).isSome = true := by decide +kernel
  obtain ⟨f, hf⟩ := Option.isSome_iff_exists.mp decoded
  refine ⟨f, hf, ?_⟩
  rintro ⟨members, parsed, ⟨shape, names, -⟩, -, -⟩
  have spelled : (parseBytes misspeltResult).map memberNames =
      some ["jsonrpc", "id", "Result"] := by decide +kernel
  have spelled : members.map Prod.fst = ["jsonrpc", "id", "Result"] := by
    simpa [parsed, memberNames] using spelled
  have other := (names "Result").mp (by simp [spelled])
  cases shape <;> simp [FrameKind.names] at other

end Sessionbus
