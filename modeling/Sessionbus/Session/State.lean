import Mathlib.Data.PNat.Notation
import Sessionbus.Maps
import Sessionbus.Text
import Sessionbus.Wire

/-!
# The state of one session

The `session` struct of `bus/internal/daemon` and what it points to. A session reads and
writes the directory entry of its identity under the directory mutex; `item` is that entry
as it stands while the session handles an event, and `listed` says whether the directory
maps the entry's ID to it.
-/

namespace Sessionbus

/-- The address of an entry, a session, a launch or an owner. -/
abbrev Ptr := Nat

/-! ## Entries -/

/-- A creation time of 0 is Go's zero time. -/
structure Row where
  sessionID : String := ""
  product : String := ""
  name : String := ""
  groups : List String := []
  openOptions : OpenOptions := {}
  policy : Option LanePolicy := none
  createdAt : Nat := 0
deriving DecidableEq, Repr

/-- `done` is true when the entry's done channel is closed. -/
structure Entry where
  row : Row := {}
  peer : Bool := false
  declaredGroups : List String := []
  claimed : Bool := false
  running : Bool := false
  attachment : Option Ptr := none
  done : Bool := false
  parent : Option Ptr := none
deriving DecidableEq, Repr

/-! ## Routed requests -/

/-- A reply channel. `own` is the channel a policy close makes and nobody reads. -/
inductive Reply
  | none
  | own
  | chan (id : Nat)
deriving DecidableEq, Repr

inductive Answer
  | value (v : Value)
  | error (e : RPCError)
deriving DecidableEq, Repr

/-- An answer that is a code and nothing else. -/
abbrev Answer.code (c : Code) : Answer := .error { code := c }

structure RoutedRequest where
  scheduled : Bool := false
  traceCopy : Bool := false
  completion : Bool := false
  traceLifetime : String := ""
  runID : String := ""
  collect : Bool := false
  destination : Option Ptr := none
  call : Call
  reply : Reply := .none
deriving DecidableEq, Repr

/-- Only the session itself seeds a run with a delivery. -/
structure Routed where
  traceCopy : Bool := false
  completion : Bool := false
  traceLifetime : String := ""
  destination : Option Ptr
  call : Call
  reply : Nat
  unseeded : ∀ p, call = .deliver p → p.runID = "" := by rintro p ⟨⟩ <;> rfl
deriving DecidableEq, Repr

def Routed.request (q : Routed) : RoutedRequest :=
  { traceCopy := q.traceCopy, completion := q.completion, traceLifetime := q.traceLifetime,
    destination := q.destination, call := q.call, reply := .chan q.reply }

/-- `command` is what it was written as, which `issue` stores in the request itself. -/
structure Pending where
  request : RoutedRequest
  command : Command
deriving DecidableEq, Repr

/-! ## Client requests -/

structure RequestState where
  method : Method
  target : Option Ptr := none
  targetID : String := ""
  held : Option Answer := none
  pending : Nat := 1
  deliveries : List MessageSendDelivery := []
  messageID : String := ""
  aggregate : Bool := false
deriving DecidableEq, Repr

/-! ## What a session does

The trace of a session, in order: what it puts on reply channels and on its wire, what it
writes to its log, and the moments of its runs and its queue.
-/

inductive Act
  /-- A value on the reply channel of a routed request. -/
  | answered (request : RoutedRequest) (answer : Answer)
  /-- The later fate of a scheduled delivery, in the recipient's log. -/
  | logged (request : RoutedRequest) (answer : Answer)
  /-- A response frame for a client request was put on the wire. -/
  | responded (id : Nat)
  | wrote (id : Nat) (command : Command)
  /-- The command did not encode, or the wire did not take it. -/
  | unsent (id : Nat) (command : Command) (encoded : Bool)
  /-- The delivery was answered `queued_for_next_turn` and put in the queue. -/
  | queued (request : RoutedRequest)
  /-- The delivery left the queue for `issue`. -/
  | started (request : RoutedRequest)
  /-- The delivery left the queue without being issued. -/
  | settled (request : RoutedRequest) (code : Code)
  | reserved (sequence : Nat)
  /-- The worker's error rolled the run back. -/
  | refused (sequence : Nat)
  /-- The worker's success acknowledged the runs up to this one. -/
  | acknowledged (sequence : Nat)
  /-- A close request was accepted. -/
  | closing
  | disconnected
  /-- A completion message was sent, itself traced or not. -/
  | notified (target body : String) (traced : Bool)
deriving DecidableEq, Repr

/-! ## The session -/

inductive Signal
  | term | kill
deriving DecidableEq, Repr

/-- What `Details` reports of a started child. -/
structure Child where
  stderr : List String := []
  exit : Int := -1
deriving DecidableEq, Repr

/-- The identity of a session, its runs and the calls it has written or put off. -/
structure SessionCore where
  self : Ptr := 0
  identity : Option Ptr := none
  item : Entry := {}
  listed : Bool := true
  launch : Option Ptr := none
  committed : Bool := false
  openID : Nat := 0
  lastIn : Nat := 0
  closed : Bool := false
  /-- What `randomID("run")` returns. -/
  randomGeneration : String := "run-"
  runID : String := ""
  runGeneration : String := ""
  runSequence : Nat := 0
  acknowledgedSequence : Nat := 0
  runFromTrace : Bool := false
  runFromCompletion : Bool := false
  /-- Deadlines: `none` is the zero time. -/
  deadline : Option Nat := none
  previousDeadline : Option Nat := none
  pending : Map Nat Pending := ∅
  deferredDeliveries : List RoutedRequest := []
  closeCall : Option RoutedRequest := none

structure Session extends SessionCore where
  wire : Wire := {}
  /-- What `config.now` returns. -/
  clock : Nat := 0
  autoClose : Bool := false
  nextOut : Nat := 0
  requests : Map Nat RequestState := ∅
  owned : Nat := 0
  stopping : Bool := false
  child : Option Child := none
  closeAnswer : Option Answer := none
  closeTimer : Bool := false
  forget : Bool := false
  launchResult : Option Answer := none
  processExited : Bool := false
  stopSignal : Option Signal := none
  history : List Act := []

/-! ## What a session reads from the rest of the daemon -/

/-- A failed launch, stopped at once or in order, or a committed lane with its row. -/
inductive Opened
  | failed (answer : Answer) (hard : Bool)
  | committed (row : Row)

/-- What the directory makes of a peer's hello. -/
inductive Install
  | refused
  | renamed (name : String)
  | installed (entry : Ptr) (row : Row) (declaredGroups : List String)

/-- The launch that a worker's hello claimed, and the entry that was reserved for it. -/
structure LaneStart where
  launch : Ptr
  entry : Ptr
  row : Row
  parent : Option Ptr
  describe : Bool
  fresh : Bool
  hello : HelloDescription

/-- Answer it, reject the frame, or keep it for replies that `legs` goroutines post. -/
inductive Verdict
  | respond (answer : Answer)
  | reject (code : Code)
  | register (state : RequestState) (legs : Nat)

/-- What `RequestBytes` and `ResultBytes` can encode, and the fate of an open result. -/
structure Env where
  encodes : Nat → Command → Bool
  encodesAnswer : Nat → Method → Answer → Bool
  opened : Body → Opened

/-! ## Events -/

inductive InRequest
  | peerHello (install : Install)
  | workerHello (start : Option LaneStart)
  | ready (value : TurnReady)
  | client (method : Method) (verdict : Verdict)
  | undecodable (method : Method)

/-- `DecodeFrame` accepts positive IDs only, and an invalid frame may still have one. -/
inductive InFrame
  | invalid (request : Bool) (id : Nat)
  | response (id : ℕ+) (body : Body)
  | request (id : ℕ+) (value : InRequest)

/-- What the run loop selects on: an event of the inbox, or a timer or channel. -/
inductive Event
  | ownerEnd (owner : Ptr) (ended : Bool)
  | frame (value : InFrame)
  | closed
  | routed (request : Routed)
  | reply (requestID leg : Nat) (answer : Answer)
  | supersede
  | processStarted (launch : Ptr) (child : Child)
  | processExited (launch : Ptr) (error : Option String)
  | spawnTimeout (launch : Ptr)
  | autoCloseFired
  | closeTimerFired
  | shutdown
  /-- The writer took a frame. -/
  | written
  /-- The reader ended. -/
  | readEnded
  | clock (now : Nat)

/-- The frame an event hands over. -/
def Event.received : Event → Option InFrame
  | .frame value => some value
  | _ => none

end Sessionbus
