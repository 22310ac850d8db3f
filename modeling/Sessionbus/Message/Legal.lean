import Sessionbus.Json
import Sessionbus.Message.Send
import Sessionbus.Protocol.Typed
import Sessionbus.Schema.Shapes

/-!
# Which send results are sent

The response to a `message.send` is encoded when its JSON value validates against the definition
`MessageSendResult` and its frame fits the limit.
-/

namespace Sessionbus

open Json Schema

/-- A member that is omitted when it is empty. -/
def textMember (name text : String) : List (String × Schema.Value) :=
  if text = "" then [] else [(name, .str text)]

namespace MessageSendDelivery

def value (d : MessageSendDelivery) : Schema.Value :=
  .obj ([("target", .str d.target)] ++ textMember "session_id" d.sessionID ++
    textMember "delivery_id" d.deliveryID ++ [("disposition", .str d.disposition)] ++
    textMember "reason" d.reason)

def json (d : MessageSendDelivery) : List Char :=
  let omitEmpty (name text : String) : List (List Char) :=
    if text = "" then [] else [member name (quote text)]
  object ([member "target" (quote d.target)] ++ omitEmpty "session_id" d.sessionID ++
    omitEmpty "delivery_id" d.deliveryID ++ [member "disposition" (quote d.disposition)] ++
    omitEmpty "reason" d.reason)

/-- What the schema asks of a delivery. -/
def Legal (d : MessageSendDelivery) : Prop :=
  d.target ≠ "" ∧ d.disposition ∈ ["written", "injected", "queued_for_next_turn", "rejected"] ∧
    (if d.disposition = "rejected" then d.reason ≠ "" else d.sessionID ≠ "" ∧ d.deliveryID ≠ "" ∧
      d.reason = "") ∧
    (d.reason = "ambiguous" → d.sessionID = "" ∧ d.deliveryID = "")

end MessageSendDelivery

/-- The JSON value of a `MessageSendResult`. -/
def sendResultValue (messageID : String) (deliveries : List MessageSendDelivery) : Schema.Value :=
  .obj [("message_id", .str messageID), ("deliveries", .arr (deliveries.map (·.value)))]

def deliveryRule : Rule :=
  { record ["target", "disposition"] [
      ("target", nonempty),
      ("session_id", nonempty),
      ("delivery_id", nonempty),
      ("disposition", oneOf ["written", "injected", "queued_for_next_turn", "rejected"]),
      ("reason", nonempty)] with
    allOf := [
      choose (isSet "disposition" (.str "rejected")) (needs ["reason"])
        { allOf := [needs ["session_id", "delivery_id"], without "reason"] },
      implies (isSet "reason" (.str "ambiguous")) (withoutAll ["session_id", "delivery_id"])] }

theorem accepts_delivery (s : Root) (n : Nat) (d : MessageSendDelivery) :
    accepts s Rule.property (n + 5) deliveryRule d.value = true ↔ d.Legal := by
  unfold deliveryRule MessageSendDelivery.value MessageSendDelivery.Legal
  rw [accepts_record]
  by_cases hs : d.sessionID = "" <;> by_cases hd : d.deliveryID = "" <;> by_cases hr :
    d.reason = "" <;>
    simp [textMember, hs, hd, hr, accepts_choose, accepts_implies, accepts_isSet, accepts_needs,
      accepts_without, accepts_withoutAll, accepts_allOf, accepts_nonempty, accepts_oneOf,
      List.lookup_cons, Node.equal]
  all_goals exact and_assoc

def resultRule : Rule :=
  record ["message_id", "deliveries"] [
    ("message_id", nonempty),
    ("deliveries", listOf (refer "MessageSendDelivery"))]

theorem validate_sendResult (matched : String → String → Bool) (messageID : String)
    (deliveries : List MessageSendDelivery) :
    validateDefinition matched "MessageSendResult" (sendResultValue messageID deliveries) = true ↔
      messageID ≠ "" ∧ ∀ d ∈ deliveries, d.Legal := by
  have result : (sessionSchema matched).definition "MessageSendResult" = some resultRule := by rfl
  have delivery : (sessionSchema matched).definition "MessageSendDelivery" = some deliveryRule := by
    rfl
  have record : resultRule = { resultRule with allOf := [] } := by rfl
  unfold validateDefinition
  rw [Option.isNone_iff_eq_none, schemaIssue_none, depth, accepts_refer result, record]
  unfold resultRule sendResultValue
  rw [accepts_record]
  simp [List.lookup_cons, accepts_nonempty, accepts_listOf, accepts_refer delivery,
    accepts_delivery]

/-! ## The legs of a send -/

/-- A leg that awaits no reply is rejected with a reason; one that does has an ID. -/
def Drafted (leg : Leg) : Prop :=
  match leg.2 with
  | none =>
    leg.1.disposition = "rejected" ∧ leg.1.reason ≠ "" ∧ leg.1.sessionID = "" ∧
      leg.1.deliveryID = ""
  | some _ => leg.1.deliveryID ≠ ""

theorem reason_ne (code : Code) {fallback : String} (h : fallback ≠ "") :
    reason code fallback ≠ "" := by
  cases code <;> simp [reason, h]

theorem reason_ambiguous (code : Code) {fallback : String} (h : fallback ≠ "ambiguous") :
    reason code fallback ≠ "ambiguous" := by
  cases code <;> simp [reason, h]

theorem randomID_ne {kind : String} (h : kind ≠ "") (bytes : Vector UInt8 12) :
    randomID kind bytes ≠ "" := by
  simp [randomID, h]

theorem gather_drafts (items : List Selected) (seen : List Ptr) : ∀ leg ∈ gather items seen,
    leg.1.sessionID = "" ∧ leg.1.deliveryID = "" ∧
    (leg.2 = none → leg.1.disposition = "rejected" ∧ leg.1.reason ≠ "") := by
  induction items generalizing seen with
  | nil => simp [gather]
  | cons item items ih =>
    intro leg hleg
    unfold gather at hleg
    split at hleg
    · rcases List.mem_cons.mp hleg with rfl | hleg
      · exact ⟨rfl, rfl, fun _ => ⟨rfl, by simp [MessageSendDelivery.reject]⟩⟩
      · exact ih seen leg hleg
    · split at hleg
      · split at hleg
        · exact ih seen leg hleg
        · rcases List.mem_cons.mp hleg with rfl | hleg
          · exact ⟨rfl, rfl, by simp⟩
          · exact ih _ leg hleg
      · rcases List.mem_cons.mp hleg with rfl | hleg
        · exact ⟨rfl, rfl, fun _ => ⟨rfl, reason_ne _ (by simp)⟩⟩
        · exact ih seen leg hleg
      · rcases List.mem_cons.mp hleg with rfl | hleg
        · exact ⟨rfl, rfl, fun _ => ⟨rfl, by simp [MessageSendDelivery.reject]⟩⟩
        · exact ih seen leg hleg

theorem dispatch_drafted (env : Sending) (i : Nat) {leg : Leg}
    (ids : leg.1.sessionID = "" ∧ leg.1.deliveryID = "")
    (rejected : leg.2 = none → leg.1.disposition = "rejected" ∧ leg.1.reason ≠ "") :
    Drafted (env.dispatch i leg) := by
  obtain ⟨delivery, item⟩ := leg
  cases item with
  | none => exact ⟨(rejected rfl).1, (rejected rfl).2, ids.1, ids.2⟩
  | some p =>
    unfold Sending.dispatch
    simp only
    split
    · exact randomID_ne (by simp) _
    · exact ⟨rfl, by simp [MessageSendDelivery.reject], ids.1, ids.2⟩
    · exact ⟨rfl, reason_ne _ (by simp), ids.1, ids.2⟩

theorem send_drafted {env : Sending} {groups : List String} {labels : Option (List String)}
    {group : String} {omitted : Option Ptr} {legs : List Leg}
    (h : env.send groups labels group omitted = some legs) : ∀ leg ∈ legs, Drafted leg := by
  obtain ⟨selection, -, rfl⟩ := Option.map_eq_some_iff.mp h
  intro leg hleg
  obtain ⟨i, hi, rfl⟩ := List.mem_mapIdx.mp hleg
  obtain ⟨sessionID, deliveryID, rejected⟩ :=
    gather_drafts selection.selected [] _ (List.getElem_mem hi)
  exact dispatch_drafted env i ⟨sessionID, deliveryID⟩ rejected

/-! ## Answers -/

/-- The answer of a recipient with this ID makes a delivery that the schema accepts. -/
def Answer.Fits (sessionID : String) : Answer → Prop
  | .value (.receipt (.rejected why)) => why ≠ "ambiguous"
  | .value (.receipt _) => sessionID ≠ ""
  | _ => True

theorem settle_legal {delivery : MessageSendDelivery} (posted : delivery.deliveryID ≠ "")
    {answer : Answer} (valid : answer ≠ .value (.receipt (.rejected ""))) :
    (delivery.settle answer).Legal ↔ delivery.target ≠ "" ∧ answer.Fits delivery.sessionID := by
  cases answer with
  | error e =>
    have some_reason := reason_ne e.code (show "no_receipt" ≠ "" by simp)
    have other := reason_ambiguous e.code (show "no_receipt" ≠ "ambiguous" by simp)
    simp [MessageSendDelivery.settle, MessageSendDelivery.Legal, Answer.Fits, some_reason, other]
  | value v =>
    cases v with
    | receipt receipt =>
      cases receipt with
      | rejected why =>
        have some_reason : why ≠ "" := by
          rintro rfl
          exact valid rfl
        simp [MessageSendDelivery.settle, MessageSendDelivery.Legal, Answer.Fits,
          some_reason, posted]
      | written | injected | queuedForNextTurn =>
        simp [MessageSendDelivery.settle, MessageSendDelivery.Legal, Answer.Fits, posted]
    | _ => simp [MessageSendDelivery.settle, MessageSendDelivery.Legal, Answer.Fits]

theorem draft_legal {leg : Leg} (drafted : Drafted leg) (none_entry : leg.2 = none) :
    leg.1.Legal ↔ leg.1.target ≠ "" := by
  simp only [Drafted, none_entry] at drafted
  obtain ⟨rejected, some_reason, sessionID, deliveryID⟩ := drafted
  simp [MessageSendDelivery.Legal, rejected, some_reason, sessionID, deliveryID]

/-! ## The response -/

/-- `json.Marshal` of a `MessageSendResult`. -/
def sendResultText (messageID : String) (deliveries : List MessageSendDelivery) : List Char :=
  object
    [member "message_id" (quote messageID), member "deliveries" (array (deliveries.map (·.json)))]

/-- `ResultBytes`: `json.Marshal` sorts the keys of the frame's map. -/
def resultText (id : Nat) (result : List Char) : List Char :=
  object [member "id" (Text.formatUint id).toList, member "jsonrpc" (quote "2.0"),
    member "result" result]

/-- `rawResponseBytes`, on the link that a forwarded request came by. -/
def rawResponseText (id : Nat) (result : List Char) : List Char :=
  object [member "jsonrpc" (quote "2.0"), member "id" (Text.formatUint id).toList,
    member "result" result]

/-- A request of this host, or one `forwarded` from another, under its number on its wire; `taken`
is that this wire takes the frame. -/
structure SendRequest where
  forwarded : Bool
  id : Nat
  taken : Bool

inductive SendOutcome
  | frame (text : List Char)
  | internal
  | closed
deriving DecidableEq

/-- `session.result` for a `message.send`, and `ServeDaemon` at the reply to a forwarded one. -/
def SendRequest.result (matched : String → String → Bool) (r : SendRequest) (messageID : String)
    (deliveries : List MessageSendDelivery) : SendOutcome :=
  let valid := validateDefinition matched "MessageSendResult" (sendResultValue messageID deliveries)
  let raw := sendResultText messageID deliveries
  let send (text : List Char) : SendOutcome :=
    if size text + 1 > maxFrameBytes then .closed
    else if r.taken then .frame (text ++ ['\n']) else .closed
  if r.forwarded then
    -- `rpcReply` answers `internal` in place of a result that is not valid
    if valid then send (rawResponseText r.id raw) else .internal
  else if valid then send (resultText r.id raw)
  else .closed

/-- The bytes of the response, with its newline. -/
def SendRequest.frameSize (r : SendRequest) (messageID : String)
    (deliveries : List MessageSendDelivery) : Nat :=
  size (resultText r.id (sendResultText messageID deliveries)) + 1

/-- The message ID of a request that came with one, or a new one. -/
def messageIDOf (given : String) (bytes : Vector UInt8 12) : String :=
  if given = "" then randomID "message" bytes else given

theorem messageIDOf_ne (given : String) (bytes : Vector UInt8 12) :
    messageIDOf given bytes ≠ "" := by
  unfold messageIDOf
  split
  · exact randomID_ne (by simp) bytes
  · assumption

/-- The answers of the recipients that the message was posted to fit, and each leg has a label. -/
def Fitting (legs : List Leg) (answers : Nat → Answer) : Prop :=
  ∀ i leg, legs[i]? = some leg → leg.1.target ≠ "" ∧
    (leg.2.isSome → (answers i).Fits leg.1.sessionID)

theorem validate_settled (matched : String → String → Bool) {env : Sending} {groups : List String}
    {labels : Option (List String)} {group : String} {omitted : Option Ptr} {legs : List Leg}
    (sent : env.send groups labels group omitted = some legs) (given : String)
    (bytes : Vector UInt8 12) {answers : Nat → Answer}
    (valid : ∀ i, answers i ≠ .value (.receipt (.rejected ""))) :
    validateDefinition matched "MessageSendResult"
        (sendResultValue (messageIDOf given bytes) (settled legs answers)) = true ↔
      Fitting legs answers := by
  have each : ∀ i leg, legs[i]? = some leg →
      ((if leg.2.isSome then leg.1.settle (answers i) else leg.1).Legal ↔
        leg.1.target ≠ "" ∧ (leg.2.isSome → (answers i).Fits leg.1.sessionID)) := by
    intro i leg hleg
    have drafted := send_drafted sent leg (List.mem_of_getElem? hleg)
    cases entry : leg.2 with
    | none => simpa using draft_legal drafted entry
    | some p =>
      simp only [Drafted, entry] at drafted
      simpa using settle_legal drafted (valid i)
  simp only [validate_sendResult, messageIDOf_ne, ne_eq, not_false_eq_true, true_and]
  constructor
  · intro legal i leg hleg
    refine (each i leg hleg).mp (legal _ ?_)
    obtain ⟨hi, rfl⟩ := List.getElem?_eq_some_iff.mp hleg
    exact List.mem_mapIdx.mpr ⟨i, hi, rfl⟩
  · intro fits d hd
    obtain ⟨i, hi, rfl⟩ := List.mem_mapIdx.mp hd
    have hleg : legs[i]? = some legs[i] := List.getElem?_eq_getElem hi
    exact (each i _ hleg).mpr (fits i _ hleg)

def onePeer : Directory :=
  (Directory.newDirectory "h" { print := fun _ => true, space := fun _ => false } []).run
    [.hello 1 { sessionID := "b", product := "p", groups := ["g"] } []]

end Sessionbus
