import Sessionbus.Directory.Listed
import Sessionbus.Federation.Forward
import Sessionbus.Json

/-!
# Trace recipients

`trace.go` of the federation: what a reply to a forwarded `message.send` may carry beside its
result, and how it is encoded.
-/

namespace Sessionbus

open Json

/-- `len` of a string. -/
def byteLength (s : String) : Nat := size s.toList

structure TraceRecipient where
  child : String
  target : String := ""
  mode : String
  version : String
  owner : Caller
deriving DecidableEq, Repr

/-! ## Texts -/

/-- A member that is left out when it is empty. -/
def optional (name value : String) : List (List Char) :=
  if value = "" then [] else [member name (quote value)]

def Caller.json (caller : Caller) : List Char :=
  object (optional "owner_lifetime" caller.ownerLifetime ++
    optional "source_attachment" caller.sourceAttachment ++
    [member "session_id" (quote caller.sessionID)] ++ optional "name" caller.name ++
    [member "product" (quote caller.product), member "private_group" (quote caller.privateGroup),
      member "groups" (array (caller.groups.map quote))])

def TraceRecipient.json (value : TraceRecipient) : List Char :=
  object ([member "child" (quote value.child)] ++ optional "target" value.target ++
    [member "mode" (quote value.mode), member "version" (quote value.version),
      member "owner" value.owner.json])

namespace Federation

/-- The raw result, which may be empty, and the raw error, which is what `json.Marshal` makes of
`Error` when it is empty. -/
structure Reply where
  result : List Char := []
  error : Option (List Char) := none
  trace : Option (List TraceRecipient) := none

def maxTraceRecipients : Nat := 256

def validTraceRecipient (u : Unicode) (value : TraceRecipient) (target : String) : Bool :=
  match suffix value.child, suffix value.owner.sessionID with
  | some childHost, some ownerHost =>
    ownedPart u value.child childHost false && (target == "" || childHost == target) &&
      byteLength value.target ≤ 1024 && (value.mode == "events" || value.mode == "content") &&
      value.version != "" && byteLength value.version ≤ 1024 &&
      validCaller u value.owner ownerHost && value.owner.ownerLifetime != "" &&
      byteLength value.owner.ownerLifetime ≤ 1024 &&
      byteLength value.owner.sourceAttachment ≤ 1024 &&
      (if ownerHost = childHost then value.owner.sourceAttachment == ""
        else value.owner.sourceAttachment != "")
  | _, _ => false

def traceRecipientKey (r : TraceRecipient) : String :=
  r.child ++ "\x00" ++ (r.target ++ "\x00" ++ r.mode ++ "\x00" ++ r.version ++ "\x00" ++
    r.owner.sessionID ++ "\x00" ++ r.owner.ownerLifetime ++ "\x00" ++ r.owner.sourceAttachment)

/-- `compact` is what `json.Marshal` makes of a raw text; `none` is `errFrame`. -/
def encodeTraceReply (u : Unicode) (compact : List Char → Option (List Char)) (reply : Reply) :
    Option (List Char) :=
  match reply.trace with
  | none => none
  | some trace =>
    if reply.result.isEmpty == reply.error.isNone || trace.length > maxTraceRecipients then none
    else if trace.all (validTraceRecipient u · "") &&
      decide (trace.map traceRecipientKey).Nodup then
      let first :=
        match reply.error with
        | some error => (compact error).map (member "error")
        | none => (compact reply.result).map (member "result")
      first.map fun first => object [first, member "trace" (array (trace.map TraceRecipient.json))]
    else none

/-! ## Parts of hosts -/

variable {u : Unicode} {host : String}

theorem validHost_host {host : String} (h : validHost host = true) :
    Sessionbus.validHost host = true := by
  simp only [validHost, validToken, Bool.and_eq_true] at h
  exact h.2

theorem suffix_append {part : String} (filled : part ≠ "") (h : validHost host = true) :
    suffix (part ++ "@" ++ host) = some host :=
  suffix_eq_some.mpr ⟨part, splitHost_append (validHost_free (validHost_host h)), filled, h⟩

theorem qualify_suffix {part : String} {spaces : Bool} (long : 0 < part.length)
    (short : part.length ≤ 128)
    (chars : ∀ c ∈ part.toList, (u.print c && (spaces || !u.space c)) = true)
    (h : validHost host = true) :
    suffix (qualify part host) = some host ∧
      ownedPart u (qualify part host) host spaces = true := by
  have filled : part ≠ "" := by
    rintro rfl
    exact absurd long (by decide)
  have text : qualify part host = part ++ "@" ++ host := by simp [qualify, filled]
  rw [text]
  refine ⟨suffix_append filled h, ?_⟩
  unfold ownedPart
  rw [splitHost_append (validHost_free (validHost_host h))]
  simp only [BEq.rfl, Bool.true_and, Bool.and_eq_true, decide_eq_true_eq, List.all_eq_true]
  exact ⟨⟨long, short⟩, fun c hc => Bool.and_eq_true_iff.mp (chars c hc)⟩

theorem legalName_suffix {name : String} (legal : LegalName u host name)
    (h : validHost host = true) : suffix name = some host ∧ ownedPart u name host true = true := by
  obtain ⟨part, valid, rfl⟩ := legal
  simp only [validNamePart, Bool.and_eq_true, decide_eq_true_eq, List.all_eq_true] at valid
  exact qualify_suffix valid.1.1 valid.1.2 (fun c hc => by simp [valid.2 c hc]) h

theorem legalID_suffix {id : String} (legal : LegalID u host id) (h : validHost host = true) :
    suffix id = some host ∧ ownedPart u id host false = true := by
  obtain ⟨part, valid, rfl⟩ := legal
  simp only [validIDPart, Bool.and_eq_true, decide_eq_true_eq, List.all_eq_true] at valid
  exact qualify_suffix valid.1.1 valid.1.2 (fun c hc => by simpa using valid.2 c hc) h

theorem ownedPart_suffix {value : String} {spaces : Bool}
    (owned : ownedPart u value host spaces = true) (h : validHost host = true) :
    suffix value = some host := by
  unfold ownedPart at owned
  split at owned
  next part there split =>
    simp only [Bool.and_eq_true, beq_iff_eq, decide_eq_true_eq] at owned
    obtain ⟨⟨⟨rfl, long⟩, -⟩, -⟩ := owned
    refine suffix_eq_some.mpr ⟨part, split, ?_, h⟩
    rintro rfl
    exact absurd long (by decide)
  · cases owned

/-! ## Keys -/

theorem traceRecipientKey_child {r r' : TraceRecipient} (h : '\x00' ∉ r.child.toList)
    (h' : '\x00' ∉ r'.child.toList) (same : traceRecipientKey r = traceRecipientKey r') :
    r.child = r'.child := by
  have nul : "\x00" = String.singleton '\x00' := rfl
  unfold traceRecipientKey at same
  have cut := congrArg (Text.cut · '\x00') same
  rw [nul] at cut
  simp only [Text.cut_append _ _ _ h, Text.cut_append _ _ _ h', Option.some.injEq,
    Prod.mk.injEq] at cut
  exact cut.1

theorem nodup_keys {trace : List TraceRecipient} (free : ∀ r ∈ trace, '\x00' ∉ r.child.toList)
    (distinct : (trace.map TraceRecipient.child).Nodup) : (trace.map traceRecipientKey).Nodup := by
  have injective := List.inj_on_of_nodup_map distinct
  refine (List.nodup_map_iff_inj_on (List.Nodup.of_map _ distinct)).mpr ?_
  intro r hr r' hr' same
  exact injective hr hr' (traceRecipientKey_child (free r hr) (free r' hr') same)

theorem encodeTraceReply_isSome {compact : List Char → Option (List Char)} {reply : Reply}
    {trace : List TraceRecipient} (attached : reply.trace = some trace)
    (few : trace.length ≤ maxTraceRecipients)
    (valid : ∀ r ∈ trace, validTraceRecipient u r "" = true)
    (keys : (trace.map traceRecipientKey).Nodup) (one : reply.result.isEmpty = !reply.error.isNone)
    (raw : (compact (reply.error.getD reply.result)).isSome = true) :
    (encodeTraceReply u compact reply).isSome = true := by
  unfold encodeTraceReply
  rw [attached]
  simp only
  rw [if_neg, if_pos]
  · cases he : reply.error with
    | none =>
      rw [he] at raw
      simpa using raw
    | some error =>
      rw [he] at raw
      simpa using raw
  · simp only [Bool.and_eq_true, List.all_eq_true, decide_eq_true_eq]
    exact ⟨valid, keys⟩
  · simp only [one, Bool.or_eq_true, decide_eq_true_eq, not_or, not_lt]
    refine ⟨?_, few⟩
    cases reply.error <;> simp

theorem encodeTraceReply_none (compact : List Char → Option (List Char)) {reply : Reply}
    {trace : List TraceRecipient} (attached : reply.trace = some trace) {r : TraceRecipient}
    (mem : r ∈ trace) (invalid : validTraceRecipient u r "" = false) :
    encodeTraceReply u compact reply = none := by
  have some_invalid : trace.all (validTraceRecipient u · "") = false := by
    rw [List.all_eq_false]
    exact ⟨r, mem, by simp [invalid]⟩
  unfold encodeTraceReply
  rw [attached]
  simp [some_invalid]

end Federation

end Sessionbus
