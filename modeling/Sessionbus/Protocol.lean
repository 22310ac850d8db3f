import Mathlib.Data.List.AList

/-!
# Protocol values

The values that travel between the daemon and its sessions (`bus/sdk/go/protocol`).
A value that the schema closes is a closed type here, so a decoded frame is
schema-valid by construction.
-/

namespace Sessionbus

/-- A finite map. The daemon keeps its tables in Go maps. -/
abbrev Map (κ ν : Type) : Type := AList (fun _ : κ => ν)

/-! ## Limits and codes -/

def maxFrameBytes : Nat := 1 <<< 20
def maxOperations : Nat := 256
/-- `maxPendingCalls` of the daemon's session loop. -/
def maxPendingCalls : Nat := 256
/-- `conn.OutboxSize`, the length of a wire's outbox and of a session's inbox. -/
def outboxSize : Nat := 256

/-- The error codes of the protocol. The source writes "no error" as the number 0. -/
inductive Code
  | invalidFrame | invalidHello | internal | unknownSession | notConnected | busy | notRunning
  | alreadyConnected | unknownProduct | unsupportedOpen | spawnFailed | timeout | notCommitted
  | superseded | nameTaken | unknownHost | forwardLost | unsupportedTrace
deriving DecidableEq, Repr

inductive Method
  | hello | superseded | list | send | deliver | describe | spawn | traceConfigure | openSession
  | run | start | execute | status | wait | ack | ready | interrupt | close
deriving DecidableEq, Repr

/-- The `data` of an error: text with `internal`, the process report with `spawn_failed`. -/
inductive ErrorData
  | nothing
  | text (value : String)
  | process (exitCode : Option Int) (stderrTail : List String)
deriving DecidableEq, Repr

structure RPCError where
  code : Code
  data : ErrorData := .nothing
deriving DecidableEq, Repr

/-! ## Parameters -/

structure TurnRunRequest where
  sessionID : String
  input : String
deriving DecidableEq, Repr

structure ExecuteRequest where
  sessionID : String
  runID : String
  input : String
deriving DecidableEq, Repr

structure ReadRequest where
  sessionID : String
  runID : String := ""
deriving DecidableEq, Repr

structure WaitRequest where
  sessionID : String
  runID : String := ""
  timeoutMS : Option Nat := none
deriving DecidableEq, Repr

structure RunRef where
  sessionID : String
  runID : String
deriving DecidableEq, Repr

structure SessionTarget where
  sessionID : String
deriving DecidableEq, Repr

structure SessionCloseRequest where
  sessionID : String
  forget : Bool := false
deriving DecidableEq, Repr

structure DeliverySource where
  sessionID : String
  name : String := ""
  product : String
  groups : List String
deriving DecidableEq, Repr

/-- `source` is the member `from` of the Go struct. -/
structure DeliveryRequest where
  runID : String := ""
  messageID : String
  source : DeliverySource
  body : String
deriving DecidableEq, Repr

structure LanePolicy where
  persistent : Bool := false
  autoCloseMS : Nat := 60000
  idleMessage : String := "run"
  notify : Bool := true
  notifyTarget : String := ""
  ownerSessionID : String := ""
  trace : String := ""
deriving DecidableEq, Repr

structure OpenOptions where
  cwd : String := ""
  permissionMode : String := ""
  model : String := ""
  reasoningEffort : String := ""
  arguments : List String := []
deriving DecidableEq, Repr

/-- `options` is the member `open` of the Go struct. -/
structure OpenRequest where
  policy : Option LanePolicy
  name : String
  groups : List String
  resumeSessionID : String := ""
  options : OpenOptions
deriving DecidableEq, Repr

/-! ## Results -/

/-- The closed receipt: only a rejection has a reason. -/
inductive DeliveryReceipt
  | written
  | injected
  | queuedForNextTurn
  | rejected (reason : String)
deriving DecidableEq, Repr

inductive Outcome
  | completed | interrupted | failed
deriving DecidableEq, Repr

structure TurnResult where
  outcome : Outcome
  result : String
  truncated : Bool := false
  nativeStopReason : String := ""
deriving DecidableEq, Repr

/-- The state of a run record: only `done` has a result and only `unavailable` a reason. -/
inductive RunState
  | running
  | done (result : TurnResult)
  | unavailable (reason : String)
deriving DecidableEq, Repr

structure RunStatus where
  sessionID : String
  runID : String
  state : RunState
deriving DecidableEq, Repr

/-- One recipient's part of a `message.send` result. -/
structure MessageSendDelivery where
  target : String
  sessionID : String := ""
  deliveryID : String := ""
  disposition : String := ""
  reason : String := ""
deriving DecidableEq, Repr

/-- What a worker says of itself in its hello. -/
structure HelloDescription where
  supportsMessageRun : Bool := false
  product : String
  version : String := ""
  supportedOpenFields : List String := []
deriving DecidableEq, Repr

/-- The terminal metadata of `turn.ready`. -/
inductive ReadyState
  | done (outcome : Outcome)
  | unavailable (reason : String)
deriving DecidableEq, Repr

structure TurnReady where
  sessionID : String
  runID : String
  state : ReadyState
deriving DecidableEq, Repr

/-! ## Calls and commands -/

/-- What a client can have routed to a session: a method with its own parameters. -/
inductive Call
  | run (p : TurnRunRequest)
  | start (p : TurnRunRequest)
  | status (p : ReadRequest)
  | wait (p : WaitRequest)
  | ack (p : RunRef)
  | interrupt (p : SessionTarget)
  | close (p : SessionCloseRequest)
  | deliver (p : DeliveryRequest)
deriving DecidableEq, Repr

def Call.method : Call → Method
  | .run _ => .run
  | .start _ => .start
  | .status _ => .status
  | .wait _ => .wait
  | .ack _ => .ack
  | .interrupt _ => .interrupt
  | .close _ => .close
  | .deliver _ => .deliver

/-- What the daemon writes to a session. `turn.start` and `turn.run` become `execute`. -/
inductive Command
  | execute (p : ExecuteRequest)
  | status (p : ReadRequest)
  | wait (p : WaitRequest)
  | ack (p : RunRef)
  | interrupt (p : SessionTarget)
  | close (p : SessionCloseRequest)
  | deliver (p : DeliveryRequest)
  | openSession (p : OpenRequest)
  | superseded
deriving DecidableEq, Repr

def Command.method : Command → Method
  | .execute _ => .execute
  | .status _ => .status
  | .wait _ => .wait
  | .ack _ => .ack
  | .interrupt _ => .interrupt
  | .close _ => .close
  | .deliver _ => .deliver
  | .openSession _ => .openSession
  | .superseded => .superseded

/-- The run ID that a command starts a run with. -/
def Command.seed : Command → String
  | .execute p => p.runID
  | .deliver p => p.runID
  | _ => ""

/-- A result as `protocol.DecodeResult` returns it. -/
inductive Value
  | empty
  | receipt (r : DeliveryReceipt)
  | ref (r : RunRef)
  | status (s : RunStatus)
  | description (d : HelloDescription)
  | spawned (sessionID : String) (policy : Option LanePolicy)
  | sent (messageID : String) (deliveries : List MessageSendDelivery)
deriving DecidableEq, Repr

/-- The JSON value of a result member; `other` is one that no worker or peer answers with. -/
inductive Payload
  | empty
  | receipt (r : DeliveryReceipt)
  | ref (r : RunRef)
  | status (s : RunStatus)
  | other
deriving DecidableEq, Repr

/-- `protocol.DecodeResult` for the commands the daemon writes. -/
def decodeResult : Method → Payload → Option Value
  | .execute, .ref r => some (.ref r)
  | .status, .status s => some (.status s)
  | .wait, .status s => some (.status s)
  | .ack, .empty => some .empty
  | .interrupt, .empty => some .empty
  | .close, .empty => some .empty
  | .superseded, .empty => some .empty
  | .deliver, .receipt r => some (.receipt r)
  | _, _ => none

/-- A response frame: an error, or a result still to be decoded. -/
inductive Body
  | error (e : RPCError)
  | result (p : Payload)
deriving DecidableEq, Repr

end Sessionbus
