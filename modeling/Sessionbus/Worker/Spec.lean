import Sessionbus.Maps
import Sessionbus.Text
import Sessionbus.Wire

/-!
# The worker kit

`bus/sdk/go`: `runs.go`, `worker.go` and the connection of `internal/rpc`, from the moment
the worker has opened. A goroutine that the reader starts is a `Task`, the goroutine of the
current run is a `Turn`, and what the product does is a parameter of the step.
-/

namespace Sessionbus

/-- `runSequence` of `runs.go`: the generation and the number of a canonical run ID. -/
def runNumber (id : String) : Option (String × Nat) :=
  match Text.cut id '/' with
  | none => none
  | some (generation, tail) =>
    match Text.parseUint tail with
    | none => none
    | some n =>
      if generation ≠ "" ∧ 0 < n ∧ Text.formatUint n = tail then some (generation, n) else none

/-- A frame the kit puts on its connection. -/
inductive UpFrame
  | response (id : Nat) (body : Body)
  | ready (id : Nat) (value : TurnReady)
  | client (id : Nat) (method : Method)
deriving DecidableEq, Repr

/-- A request the kit has read. -/
structure Request where
  id : Nat
  command : Command
deriving DecidableEq, Repr

/-- `workerRecord`. -/
structure Record where
  ref : RunRef
  sequence : Nat
  state : RunState := .running
deriving DecidableEq, Repr

def Record.status (r : Record) : RunStatus :=
  { sessionID := r.ref.sessionID, runID := r.ref.runID, state := r.state }

/-- What a product passes to `ReportDelivery` or returns from `Deliver`. -/
inductive Report
  | receipt (r : DeliveryReceipt)
  | notRunning
  | internal (data : String)
  | failed (text : String)
deriving DecidableEq, Repr

/-- How far `runTurn` has come. -/
inductive Stage
  /-- The result of `turn.execute` is still to be written. -/
  | admitted
  | running
  | returned (state : RunState)
  /-- `turn.ready` was sent as the request `id`. -/
  | ready (id : Nat)
deriving DecidableEq, Repr

structure Turn where
  request : Request
  ref : RunRef
  sequence : Nat
  seed : Option DeliveryRequest
  /-- `receiptOnce` has run. -/
  reported : Bool := false
  stage : Stage
deriving DecidableEq, Repr

/-- What `Worker.run` points to. `closing` is the empty run that a close leaves there. -/
inductive Slot
  | turn (sequence : Nat)
  | closing
deriving DecidableEq, Repr

inductive Task
  | answer (request : Request) (body : Body)
  | deliver (request : Request) (p : DeliveryRequest) (slot : Option Nat)
  /-- `product.Deliver` has the delivery. -/
  | submitted (request : Request)
  | read (request : Request) (p : WaitRequest) (wait : Bool)
  | close (request : Request) (slot : Option Nat)
  | superseded (request : Request)
deriving DecidableEq, Repr

def Task.request : Task → Request
  | .answer r _ => r
  | .deliver r _ _ => r
  | .submitted r => r
  | .read r _ _ => r
  | .close r _ => r
  | .superseded r => r

/-- A `turn.ready` publishes the state of its run when it is acknowledged. -/
inductive Waiting
  | ready (sequence : Nat) (state : RunState)
  | client
deriving DecidableEq, Repr

structure Worker where
  sessionID : String
  opened : Bool := true
  generation : String := ""
  lastSequence : Nat := 0
  acknowledged : Nat := 0
  records : List Record := []
  waiters : Nat := 0
  run : Option Slot := none
  turn : Option Turn := none
  tasks : List Task := []
  /-- The `rpc.Conn`: the numbers of the last call made and of the last request read, and the calls
  without a response. -/
  closed : Bool := false
  next : Nat := 0
  last : Nat := 0
  calls : Map Nat Waiting := ∅
  /-- The frames on the connection that the daemon has not read. -/
  up : List UpFrame := []

namespace Worker

/-- The end of `name` from its last `@` on. -/
def hostPart (name : String) : String :=
  match name.toList.reverse.dropWhile (· != '@') with
  | [] => ""
  | at_ :: _ => String.ofList (at_ :: (name.toList.reverse.takeWhile (· != '@')).reverse)

/-- The session ID that `open` stores for the ID that the product returned. -/
def openedID (name id : String) : String := id ++ hostPart name

/-! ## The connection -/

def hangUp (w : Worker) : Worker := { w with closed := true, calls := ∅ }

/-- `Conn.send`: on a closed connection nothing is written. -/
def write (w : Worker) (frame : UpFrame) : Worker :=
  if w.closed then w else { w with up := w.up ++ [frame] }

def setTurn (w : Worker) (turn : Turn) : Worker := { w with turn := some turn }

def spawn (w : Worker) (task : Task) : Worker := { w with tasks := w.tasks ++ [task] }

def answer (w : Worker) (request : Request) (body : Body) : Worker := w.spawn (.answer request body)

def refuse (w : Worker) (request : Request) (code : Code) : Worker :=
  w.answer request (.error { code })

def deliveryReply : Report → Body
  | .receipt r => .result (.receipt r)
  | .notRunning => .error { code := .notRunning }
  | .internal data => .error { code := .internal, data := .text data }
  | .failed text => .result (.receipt (.rejected text))

/-! ## Runs -/

/-- The codes with which `execute` refuses a run. -/
def executeCode (w : Worker) (ref : RunRef) : Option Code :=
  if !w.opened || w.run.isSome || w.records.length ≥ maxOperations then some .busy
  else
    match runNumber ref.runID with
    | none => some .invalidFrame
    | some (generation, sequence) =>
      if ref.sessionID ≠ w.sessionID ∨ (w.generation ≠ "" ∧ w.generation ≠ generation) ∨
          sequence ≠ w.lastSequence + 1 then some .invalidFrame
      else none

/-- The run is recorded and takes the slot. -/
def admitRun (w : Worker) (request : Request) (ref : RunRef) (seed : Option DeliveryRequest)
    (generation : String) (sequence : Nat) : Worker :=
  { w with
    generation
    lastSequence := sequence
    records := w.records ++ [{ ref, sequence }]
    run := some (.turn sequence)
    turn := some
      { request, ref, sequence, seed, stage := if seed.isSome then .running else .admitted } }

def execute (w : Worker) (request : Request) (ref : RunRef)
    (seed : Option DeliveryRequest) : Worker :=
  match w.executeCode ref, runNumber ref.runID with
  | none, some (generation, sequence) => w.admitRun request ref seed generation sequence
  | some code, _ => w.refuse request code
  | none, none => w

/-- The context of the run is done: `Run` has returned, or the connection is gone. -/
def cancelled (w : Worker) (sequence : Nat) : Bool :=
  w.closed ||
    match w.turn with
    | some t => t.sequence != sequence || !(t.stage == .admitted || t.stage == .running)
    | none => true

def findRun (w : Worker) (p : WaitRequest) : Option Record :=
  w.records.find? fun r =>
    (p.runID == "" || p.runID == r.ref.runID) && p.sessionID == r.ref.sessionID

/-- `readRun` before its goroutine starts. -/
def readRun (w : Worker) (request : Request) (p : WaitRequest) (wait : Bool) : Worker :=
  if w.waiters ≥ maxOperations || w.run == some .closing then w.refuse request .busy
  else { w with waiters := w.waiters + 1 }.spawn (.read request p wait)

/-- The first record is removed when it is acknowledged, and only once its run is over. A number of
more than 64 bits names no run. -/
def ackRun (w : Worker) (request : Request) (ref : RunRef) : Worker :=
  match runNumber ref.runID with
  | none => w.refuse request .unknownSession
  | some (generation, sequence) =>
    if generation = w.generation ∧ ref.sessionID = w.sessionID ∧ sequence < 2 ^ 64 then
      if sequence ≤ w.acknowledged then w.answer request (.result .empty)
      else
        match w.records with
        | [] => w.refuse request .unknownSession
        | first :: rest =>
          if first.ref.runID = ref.runID ∧ first.state ≠ .running then
            { w with acknowledged := sequence, records := rest }.answer request (.result .empty)
          else w.refuse request .busy
    else w.refuse request .unknownSession

def interrupt (w : Worker) (request : Request) : Worker :=
  match w.run with
  | none => w.refuse request .notRunning
  | some .closing => w.answer request (.result .empty)
  | some (.turn sequence) =>
    if w.cancelled sequence then w.refuse request .notRunning else w.answer request (.result .empty)

def deliver (w : Worker) (request : Request) (p : DeliveryRequest) : Worker :=
  if p.runID ≠ "" then
    w.execute request { sessionID := w.sessionID, runID := p.runID } (some { p with runID := "" })
  else
    match w.run with
    | some .closing => w.answer request (.result (.receipt (.rejected "closing")))
    | some (.turn sequence) => w.spawn (.deliver request p (some sequence))
    | none => w.spawn (.deliver request p none)

def close (w : Worker) (request : Request) : Worker :=
  match w.run with
  | some .closing => w.hangUp
  | some (.turn sequence) => { w with run := some .closing }.spawn (.close request (some sequence))
  | none => { w with run := some .closing }.spawn (.close request none)

/-- `Worker.handle`. The worker has opened, so a second `session.open` is refused. -/
def handle (w : Worker) (request : Request) : Worker :=
  match request.command with
  | .execute p => w.execute request { sessionID := p.sessionID, runID := p.runID } none
  | .status p => w.readRun request { sessionID := p.sessionID, runID := p.runID } false
  | .wait p => w.readRun request p true
  | .ack p => w.ackRun request p
  | .interrupt _ => w.interrupt request
  | .deliver p => w.deliver request p
  | .close _ => w.close request
  | .openSession _ => w.refuse request .invalidFrame
  | .superseded => w.spawn (.superseded request)

/-! ## The reader -/

/-- `Conn.receiveRequest`: requests are numbered upwards. -/
def receiveRequest (w : Worker) (request : Request) : Worker :=
  if w.last < request.id then { w with last := request.id }.handle request
  else (w.write (.response request.id (.error { code := .invalidFrame }))).hangUp

/-- The state is published and the slot freed before the reader takes the next frame. -/
def publish (w : Worker) (sequence : Nat) (state : RunState) : Worker :=
  { w with
    records := w.records.map fun r => if r.sequence = sequence then { r with state } else r
    run := if w.run = some (.turn sequence) then none else w.run
    turn := if w.turn.any (fun t => t.sequence == sequence) then none else w.turn }

/-- `Conn.receiveResponse`. A failed `turn.ready` ends the connection. -/
def receiveResponse (w : Worker) (id : Nat) (body : Body) : Worker :=
  match w.calls.lookup id with
  | none => w.hangUp
  | some (.ready sequence state) =>
    if body = .result .empty then { w with calls := w.calls.erase id }.publish sequence state
    else w.hangUp
  | some .client => { w with calls := w.calls.erase id }

def receive (w : Worker) : OutFrame → Worker
  | .request id command => w.receiveRequest { id, command }
  | .response id body => w.receiveResponse id body

/-! ## The goroutines -/

inductive Action
  /-- `report` is what `Deliver` returns, and `timedOut` that the deadline of a wait has passed. -/
  | task (index : Nat) (report : Report) (timedOut : Bool)
  | start
  | report (value : Report)
  /-- `product.Run` returns, and its result passes validation or not. -/
  | finish (result : Except String TurnResult) (valid : Bool)
  | reportMissing
  | announce
  | call (method : Method)
  | hangUp

def removeTask (w : Worker) (index : Nat) : Worker := { w with tasks := w.tasks.eraseIdx index }

/-- Up to `product.Deliver`: the native run can be over before the goroutine is scheduled. -/
def runDeliver (w : Worker) (request : Request) (slot : Option Nat) : Worker :=
  match slot with
  | none => w.write (.response request.id (.error { code := .notRunning }))
  | some sequence =>
    if w.cancelled sequence then w.write (.response request.id (.error { code := .notRunning }))
    else w.spawn (.submitted request)

/-- A read that has its answer is no longer counted. -/
def answerRead (w : Worker) (index : Nat) (request : Request) (body : Body) : Worker :=
  ({ w with waiters := w.waiters - 1 }.removeTask index).write (.response request.id body)

def runRead (w : Worker) (index : Nat) (request : Request) (p : WaitRequest)
    (wait timedOut : Bool) : Worker :=
  match w.findRun p with
  | none => w.answerRead index request (.error { code := .unknownSession })
  | some record =>
    if !wait || record.state ≠ .running || (timedOut && p.timeoutMS.isSome) then
      w.answerRead index request (.result (.status record.status))
    else w

/-- `close` waits for the run it found and for the reads. -/
def runClose (w : Worker) (index : Nat) (request : Request) (slot : Option Nat) : Worker :=
  if (slot.any fun sequence => w.turn.any fun t => t.sequence == sequence) || w.waiters ≠ 0 then w
  else ((w.removeTask index).write (.response request.id (.result .empty))).hangUp

def runTask (w : Worker) (index : Nat) (report : Report) (timedOut : Bool) : Worker :=
  match w.tasks[index]? with
  | none => w
  | some (.answer request body) => (w.removeTask index).write (.response request.id body)
  | some (.deliver request _ slot) => (w.removeTask index).runDeliver request slot
  | some (.submitted request) =>
    (w.removeTask index).write (.response request.id (deliveryReply report))
  | some (.read request p wait) => w.runRead index request p wait timedOut
  | some (.close request slot) => w.runClose index request slot
  | some (.superseded request) =>
    ((w.removeTask index).write (.response request.id (.result .empty))).hangUp

/-- The result of an execute is written before the product runs. -/
def start (w : Worker) : Worker :=
  match w.turn with
  | some t =>
    if t.stage = .admitted then
      (w.setTurn { t with stage := .running }).write (.response t.request.id (.result (.ref t.ref)))
    else w
  | none => w

/-- `ReportDelivery` answers the delivery of a seeded run once. -/
def report (w : Worker) (value : Report) : Worker :=
  match w.turn with
  | some t =>
    if t.seed.isSome ∧ t.reported = false then
      (w.setTurn { t with reported := true }).write (.response t.request.id (deliveryReply value))
    else w
  | none => w

/-- The final state of a run. -/
def finalState (result : Except String TurnResult) (valid : Bool) : RunState :=
  if valid then
    match result with
    | .ok r => .done r
    | .error text => .unavailable text
  else .unavailable "native result failed validation"

def finish (w : Worker) (state : RunState) : Worker :=
  match w.turn with
  | some t => if t.stage = .running then w.setTurn { t with stage := .returned state } else w
  | none => w

/-- Absence of a receipt is uncertainty, never a refusal. -/
def reportMissing (w : Worker) : Worker :=
  match w.turn with
  | some { stage := .returned _, .. } => w.report (.internal "native delivery receipt unavailable")
  | _ => w

def readyState : RunState → ReadyState
  | .done r => .done r.outcome
  | .unavailable reason => .unavailable reason
  | .running => .unavailable ""

/-- The `turn.ready` call, after the receipt of a seeded run. -/
def announce (w : Worker) : Worker :=
  match w.turn with
  | some t =>
    match t.stage with
    | .returned state =>
      if t.seed.isSome ∧ t.reported = false then w
      else if w.closed ∨ w.calls.entries.length ≥ maxOperations then w.hangUp
      else
        let id := w.next + 1
        ({ w with next := id, calls := w.calls.insert id (.ready t.sequence state) }.setTurn
          { t with stage := .ready id }).write
            (.ready id
              { sessionID := t.ref.sessionID, runID := t.ref.runID, state := readyState state })
    | _ => w
  | none => w

/-- A call that the product makes as a client. -/
def call (w : Worker) (method : Method) : Worker :=
  if w.closed ∨ w.calls.entries.length ≥ maxOperations then w
  else
    let id := w.next + 1
    { w with next := id, calls := w.calls.insert id .client }.write (.client id method)

def act (w : Worker) : Action → Worker
  | .task index report timedOut => w.runTask index report timedOut
  | .start => w.start
  | .report value => w.report value
  | .finish result valid => w.finish (finalState result valid)
  | .reportMissing => w.reportMissing
  | .announce => w.announce
  | .call method => w.call method
  | .hangUp => w.hangUp

end Worker

end Sessionbus
