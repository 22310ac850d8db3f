import Sessionbus.Message.Legal

/-!
# Sending a message to several hosts

`sendFederated`, `newMessageLeg`, `forwardLocalTrace` and `collectMessageSend` of `federation.go`:
the labels are divided by host, each host has a leg of the send, and the receipts of all legs are
put in the order of the request.
-/

namespace Sessionbus

/-- The `federation.Reply` to a `message.send`. -/
inductive SendReply
  | result (deliveries : List MessageSendDelivery)
  | undecodable
  | error (e : RPCError)
deriving DecidableEq, Repr

/-- `remoteAnswer`. -/
def SendReply.answer : SendReply → Except Code (List MessageSendDelivery)
  | .result deliveries => .ok deliveries
  | .undecodable => .error .forwardLost
  | .error e => .error e.code

/-- What comes of a `messageLeg` that is not cut off: a code when it is made, or a reply. -/
inductive LegOutcome
  | refused (code : Code)
  | replied (reply : SendReply)
deriving DecidableEq, Repr

def LegOutcome.answer : LegOutcome → Except Code (List MessageSendDelivery)
  | .refused code => .error code
  | .replied reply => reply.answer

/-- A leg's part of `collectMessageSend`; a leg without labels, for a group, fails as a whole. -/
def legDeliveries (labels : List String) (outcome : LegOutcome) :
    Except Code (List MessageSendDelivery) :=
  match outcome.answer with
  | .ok deliveries => .ok deliveries
  | .error code =>
    if labels = [] then .error code
    else
      .ok (labels.map fun label => MessageSendDelivery.reject { target := label }
        (reason code "no_receipt"))

/-- `slices.Index`. -/
def indexIn (order : List String) (label : String) : Int :=
  if label ∈ order then order.idxOf label else -1

/-- The order of the stable sort by label, and by session ID for a group. -/
def MessageSendDelivery.before (order : Option (List String))
    (left right : MessageSendDelivery) : Bool :=
  match order with
  | some order => indexIn order left.target ≤ indexIn order right.target
  | none => left.sessionID ≤ right.sessionID

/-- `collectMessageSend` when every leg has its outcome. -/
def collectMessageSend (legs : List (List String × LegOutcome)) (order : Option (List String)) :
    Except Code (List MessageSendDelivery) :=
  (legs.mapM fun leg => legDeliveries leg.1 leg.2).map fun all =>
    all.flatten.mergeSort (MessageSendDelivery.before order)

/-- One step of the loop over the labels of `sendFederated`. -/
def addLabel (partitions : List (String × List String)) (label : String × String) :
    List (String × List String) :=
  if partitions.any (·.1 == label.2) then
    partitions.map fun p => if p.1 = label.2 then (p.1, p.2 ++ [label.1]) else p
  else partitions ++ [(label.2, [label.1])]

/-- Labels with their hosts, divided by host. -/
def divide (labels : List (String × String)) : List (String × List String) :=
  labels.foldl addLabel []

/-- On this host `here`, the caller's groups and the recipients' answers in the order in which they
come; elsewhere, the outcome of the leg to a host. -/
structure Mail where
  here : Sending
  groups : List String
  omitted : Option Ptr
  given : String
  messageBytes : Vector UInt8 12
  matched : String → String → Bool
  answers : Nat → Answer
  receipts : ∀ i, answers i ≠ .value (.receipt (.rejected ""))
  order : List Leg → List Nat
  replied : ∀ legs, (order legs).Perm (awaited legs)
  elsewhere : String → List String → LegOutcome
  /-- The text of the error when a result does not validate. -/
  issue : List MessageSendDelivery → String

namespace Mail

variable (mail : Mail)

def host : String := mail.here.directory.host

def messageID : String := messageIDOf mail.given mail.messageBytes

def hostOf (label : String) : Option String :=
  (canonicalTarget label mail.host (validNamePart mail.here.directory.unicode)).map Prod.snd

/-- The labels with their hosts; `none` is the code `invalid_frame`. -/
def addressed (labels : List String) : Option (List (String × String)) :=
  labels.mapM fun label => (mail.hostOf label).map (label, ·)

/-- The deliveries that `send` assembles on this host for these labels. -/
def deliveries (labels : List String) : Option (List MessageSendDelivery) :=
  (mail.here.send mail.groups (some labels) "" mail.omitted).bind fun legs =>
    sendResult legs ((mail.order legs).map fun i => (i, mail.answers i))

/-- `send` with labels of this host only: a result that does not validate is not answered. -/
def direct (labels : List String) : Option (List MessageSendDelivery) :=
  (mail.deliveries labels).filter fun deliveries =>
    validateDefinition mail.matched "MessageSendResult" (sendResultValue mail.messageID deliveries)

/-- `forwardLocalTrace` of a send with labels of this host, and its `rpcReply`. -/
def localReply (labels : List String) : SendReply :=
  match mail.deliveries labels with
  | none => .error { code := .invalidFrame }
  | some deliveries =>
    match mail.direct labels with
    | some deliveries => .result deliveries
    | none => .error { code := .internal, data := .text (mail.issue deliveries) }

/-- `newMessageLeg`. -/
def leg (host : String) (labels : List String) : LegOutcome :=
  if host = mail.host then .replied (mail.localReply labels)
  else if host = "local" then .refused .unknownHost
  else mail.elsewhere host labels

/-- `send` for labels: the deliveries of its result, if it is answered with one. -/
def send (labels : List String) : Option (List MessageSendDelivery) :=
  match mail.addressed labels with
  | none => none
  | some addressed =>
    if addressed.all (·.2 == mail.host) then mail.direct labels
    else
      match collectMessageSend ((divide addressed).map fun p => (p.2, mail.leg p.1 p.2))
        (some labels) with
      | .ok deliveries => some deliveries
      | .error _ => none

end Mail

end Sessionbus
