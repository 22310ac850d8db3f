import Sessionbus.Directory.Private
import Sessionbus.Directory.Visible
import Sessionbus.Message.Legal

/-!
# What `session.list` shows

A summary of an entry and the caller's own identity are encoded when their JSON values validate
against the definitions `SessionSummary` and `DeliverySource`.
-/

namespace Sessionbus

open Json Schema

/-! ## Values -/

def LanePolicy.value (p : LanePolicy) : Schema.Value :=
  .obj ([("persistent", .bool p.persistent), ("auto_close_ms", .num p.autoCloseMS),
    ("idle_message", .str p.idleMessage), ("notify", .bool p.notify)] ++
    textMember "notify_target" p.notifyTarget ++ textMember "owner_session_id" p.ownerSessionID ++
    textMember "trace" p.trace)

def policyRule : Rule :=
  record ["persistent", "auto_close_ms", "idle_message", "notify"] [
    ("persistent", flag),
    ("auto_close_ms", milliseconds),
    ("idle_message", oneOf ["stage", "run"]),
    ("notify", flag),
    ("notify_target", nonempty),
    ("owner_session_id", nonempty),
    ("trace", traceMode)]

theorem accepts_policy (s : Root) (n : Nat) (p : LanePolicy) :
    accepts s Rule.property (n + 2) policyRule p.value = true ↔ p.legal = true := by
  have record : policyRule = { policyRule with allOf := [] } := by rfl
  rw [record]
  unfold policyRule LanePolicy.value LanePolicy.legal
  rw [accepts_record]
  by_cases hn : p.notifyTarget = "" <;> by_cases ho : p.ownerSessionID = "" <;>
    by_cases ht : p.trace = "" <;>
    simp [textMember, hn, ho, ht, traceMode, accepts_flag, accepts_milliseconds, accepts_oneOf,
      accepts_nonempty, List.lookup_cons, and_assoc]

def SessionKind.text : SessionKind → String
  | .lane => "lane"
  | .peer => "peer"

namespace SessionSummary

def value (s : SessionSummary) : Schema.Value :=
  .obj ((match s.policy with
      | some policy => [("policy", policy.value)]
      | none => []) ++
    [("session_id", .str s.sessionID), ("kind", .str s.kind.text), ("product", .str s.product)] ++
    textMember "name" s.name ++
    [("groups", .arr (s.groups.map .str)), ("connected", .bool s.connected),
      ("running", .bool s.running)] ++
    (if s.info.isEmpty then [] else [("info", .obj s.info)]))

/-- What the schema asks of a summary. -/
@[mk_iff]
structure Legal (matched : String → String → Bool) (s : SessionSummary) : Prop where
  id : s.sessionID ≠ "" ∧ s.sessionID.length ≤ 161
  product : s.product ≠ ""
  name : s.name = "" ∨ s.name.length ≤ 161 ∧ matched namePattern s.name = true
  groups : s.groups.Nodup ∧ "" ∉ s.groups
  named : s.kind = .lane → s.name ≠ ""
  idle : s.connected = false → s.running = false
  policy : ∀ policy, s.policy = some policy → policy.legal = true

end SessionSummary

def summaryRule : Rule :=
  { record ["session_id", "kind", "product", "groups", "connected", "running"] [
      ("session_id", bounded 161),
      ("kind", oneOf ["peer", "lane"]),
      ("product", nonempty),
      ("name", label 161),
      ("groups", distinct nonempty),
      ("connected", flag),
      ("running", flag),
      ("info", { kind := some .object }),
      ("policy", refer "LanePolicy")] with
    allOf := [
      implies (equals "kind" (.str "lane")) (needs ["name"]),
      implies (isSet "connected" (.bool false)) (equals "running" (.bool false))] }

theorem accepts_summary (matched : String → String → Bool) (n : Nat) (s : SessionSummary) :
    accepts (sessionSchema matched) Rule.property (n + 5) summaryRule s.value = true ↔
    s.Legal matched := by
  have policy : (sessionSchema matched).definition "LanePolicy" = some policyRule := by rfl
  have pattern : (sessionSchema matched).matched = matched := rfl
  unfold summaryRule SessionSummary.value
  rw [accepts_record, SessionSummary.legal_iff]
  cases hp : s.policy <;> cases hk : s.kind <;> by_cases hn : s.name = "" <;> by_cases hi :
    s.info.isEmpty = true <;>
    simp [textMember, hn, hi, SessionKind.text, accepts_implies, accepts_equals, accepts_isSet,
      accepts_needs, accepts_flag, accepts_boundedText, accepts_label, accepts_oneOf,
      accepts_nonempty, accepts_distinct, accepts_object, accepts_refer policy, accepts_policy,
      List.lookup_cons, Node.equal, pattern]
  all_goals grind

theorem validate_summary (matched : String → String → Bool) (s : SessionSummary) :
    validateDefinition matched "SessionSummary" s.value = true ↔ s.Legal matched := by
  have summary : (sessionSchema matched).definition "SessionSummary" = some summaryRule := by rfl
  unfold validateDefinition
  rw [Option.isNone_iff_eq_none, schemaIssue_none, depth, accepts_refer summary, accepts_summary]

namespace DeliverySource

def value (s : DeliverySource) : Schema.Value :=
  .obj ([("session_id", .str s.sessionID)] ++ textMember "name" s.name ++
    [("product", .str s.product), ("groups", .arr (s.groups.map .str))])

/-- What the schema asks of a source. -/
@[mk_iff]
structure Legal (matched : String → String → Bool) (s : DeliverySource) : Prop where
  id : s.sessionID ≠ ""
  name : s.name = "" ∨ s.name.length ≤ 161 ∧ matched namePattern s.name = true
  product : s.product ≠ ""
  groups : s.groups.Nodup ∧ "" ∉ s.groups

end DeliverySource

def sourceRule : Rule :=
  record ["session_id", "product", "groups"] [
    ("session_id", nonempty),
    ("name", label 161),
    ("product", nonempty),
    ("groups", distinct nonempty)]

theorem validate_source (matched : String → String → Bool) (s : DeliverySource) :
    validateDefinition matched "DeliverySource" s.value = true ↔ s.Legal matched := by
  have source : (sessionSchema matched).definition "DeliverySource" = some sourceRule := by rfl
  have pattern : (sessionSchema matched).matched = matched := rfl
  have record : sourceRule = { sourceRule with allOf := [] } := by rfl
  unfold validateDefinition
  rw [Option.isNone_iff_eq_none, schemaIssue_none, depth, accepts_refer source, record]
  unfold sourceRule DeliverySource.value
  rw [accepts_record, DeliverySource.legal_iff]
  by_cases hn : s.name = "" <;>
    simp [textMember, hn, accepts_label, accepts_nonempty, accepts_distinct,
      List.lookup_cons, pattern]

/-! ## Texts that were checked -/

/-- What is printable, and what the pattern for names has in its class. -/
structure Letters (u : Unicode) (matched : String → String → Bool) : Prop where
  ascii : ∀ c, '!' ≤ c → c ≤ '~' → u.print c = true
  pattern : ∀ text, text ≠ "" → (∀ c ∈ text.toList, u.print c = true) →
    matched namePattern text = true

def LegalID (u : Unicode) (host id : String) : Prop :=
  ∃ part, validIDPart u part = true ∧ id = qualify part host

def LegalName (u : Unicode) (host name : String) : Prop :=
  ∃ part, validNamePart u part = true ∧ name = qualify part host

theorem validNamePart_of_id {u : Unicode} {part : String} (h : validIDPart u part = true) :
    validNamePart u part = true := by
  unfold validIDPart at h
  unfold validNamePart
  simp only [Bool.and_eq_true, List.all_eq_true] at h ⊢
  exact ⟨h.1, fun c hc => (h.2 c hc).1⟩

theorem LegalID.name {u : Unicode} {host id : String} (h : LegalID u host id) :
    LegalName u host id := by
  obtain ⟨part, valid, rfl⟩ := h
  exact ⟨part, validNamePart_of_id valid, rfl⟩

theorem validHost_length {host : String} (h : validHost host = true) : host.length ≤ 32 := by
  unfold validHost at h
  rw [← String.length_toList]
  split at h
  · cases h
  next c rest chars =>
    simp only [Bool.and_eq_true, decide_eq_true_eq] at h
    rw [chars, List.length_cons]
    omega

theorem validHost_ne {host : String} (h : validHost host = true) : host ≠ "" := by
  rintro rfl
  cases h

theorem validHost_ascii {host : String} (h : validHost host = true) : ∀ c ∈ host.toList, '!' ≤ c ∧
    c ≤ '~' := by
  intro c hc
  have token : ∀ c, tokenChar c = true → '!' ≤ c ∧ c ≤ '~' := by
    intro c hc
    simp only [tokenChar, Bool.or_eq_true, Bool.and_eq_true, decide_eq_true_eq] at hc
    rcases hc with ⟨low, high⟩ | ⟨low, high⟩
    · exact ⟨le_trans (by decide) low, le_trans high (by decide)⟩
    · exact ⟨le_trans (by decide) low, le_trans high (by decide)⟩
  unfold validHost at h
  split at h
  · cases h
  next c' rest chars =>
    simp only [Bool.and_eq_true, List.all_eq_true, Bool.or_eq_true, beq_iff_eq] at h
    rw [chars, List.mem_cons] at hc
    rcases hc with rfl | hc
    · exact token _ h.1.1
    · rcases h.1.2 c hc with hc | rfl
      · exact token c hc
      · decide

section

variable {u : Unicode} {host : String} {matched : String → String → Bool}

theorem LegalName.ne {name : String} (h : LegalName u host name) : name ≠ "" := by
  obtain ⟨part, valid, rfl⟩ := h
  have filled : part ≠ "" := by
    rintro rfl
    simp [validNamePart] at valid
  simp [qualify, filled]

theorem LegalName.length {name : String} (here : validHost host = true)
    (h : LegalName u host name) : name.length ≤ 161 := by
  obtain ⟨part, valid, rfl⟩ := h
  simp only [validNamePart, Bool.and_eq_true, decide_eq_true_eq] at valid
  have short := validHost_length here
  have at_ : "@".length = 1 := rfl
  unfold qualify
  split
  · exact Nat.zero_le _
  · rw [String.length_append, String.length_append, at_]
    omega

theorem LegalName.matches {name : String} (here : validHost host = true)
    (letters : Letters u matched) (h : LegalName u host name) :
    matched namePattern name = true := by
  refine letters.pattern name h.ne ?_
  obtain ⟨part, valid, rfl⟩ := h
  simp only [validNamePart, Bool.and_eq_true, List.all_eq_true] at valid
  intro c hc
  unfold qualify at hc
  split at hc
  · simp at hc
  · simp only [String.toList_append, List.mem_append] at hc
    rcases hc with (hc | hc) | hc
    · exact valid.2 c hc
    · obtain rfl : c = '@' := by simpa using hc
      exact letters.ascii _ (by decide) (by decide)
    · obtain ⟨low, high⟩ := validHost_ascii here c hc
      exact letters.ascii c low high

end

end Sessionbus
