import Sessionbus.Worker.Serve

/-!
# The JavaScript worker kit

The class `Worker` of `bus/sdk/js/index.js`, from the moment the worker has opened. A handler
runs to its end or to the promise it waits for; what waits is a `Job`, and the goroutines of
the Go kit have no counterpart.
-/

namespace Sessionbus.Js

/-- A generation without a slash, a slash, and a safe decimal number without leading zeros. -/
def runSequence (id : String) : Option (String × Nat) :=
  let generation := id.toList.takeWhile (· != '/')
  match id.toList.dropWhile (· != '/') with
  | _ :: digit :: digits =>
    if generation ≠ [] ∧ digit ≠ '0' ∧ (digit :: digits).all Char.isDigit then
      let sequence := Nat.ofDigitChars 10 (digit :: digits) 0
      if sequence ≤ 9007199254740991 then some (String.ofList generation, sequence) else none
    else none
  | _ => none

/-- `clean`: the text of an error, or its name when the text is empty. -/
def clean (text : String) : String := if text = "" then "Error" else text

/-- A `Run`, as `_execute` makes it and the async call of `_run` keeps it. -/
structure Run where
  request : Request
  ref : RunRef
  sequence : Nat
  delivery : Option DeliveryRequest
  receiptReported : Bool := false
deriving DecidableEq, Repr

/-- What `this.run` holds: a run, or the object without `Done` that a close leaves there. -/
inductive Slot
  | run (sequence : Nat)
  | empty
deriving DecidableEq, Repr

/-- A handler that waits for a promise. -/
inductive Job
  | read (request : Request) (p : WaitRequest) (wait : Bool)
  | close (request : Request) (run : Option Nat)
deriving DecidableEq, Repr

def Job.request : Job → Request
  | .read r _ _ => r
  | .close r _ => r

structure Worker where
  sessionID : String
  opened : Bool := true
  generation : String := ""
  lastSequence : Nat := 0
  acknowledged : Nat := 0
  records : List Record := []
  waiters : Nat := 0
  run : Option Slot := none
  /-- The run whose `_run` has not ended. -/
  current : Option Run := none
  jobs : List Job := []
  closed : Bool := false
  next : Nat := 0
  last : Nat := 0
  /-- The frames on the connection. -/
  sent : List UpFrame := []

namespace Worker

/-! ## The connection -/

def send (w : Worker) (frame : UpFrame) : Worker :=
  if w.closed then w else { w with sent := w.sent ++ [frame] }

def result (w : Worker) (request : Request) (payload : Payload) : Worker :=
  w.send (.response request.id (.result payload))

def error (w : Worker) (request : Request) (code : Code) : Worker :=
  w.send (.response request.id (.error { code }))

def shutdown (w : Worker) : Worker := { w with closed := true }

def deliveryBody : Report → Body
  | .receipt r => .result (.receipt r)
  | .notRunning => .error { code := .notRunning }
  | .internal data => .error { code := .internal, data := .text data }
  | .failed text => .result (.receipt (.rejected (clean text)))

/-- `_deliveryReply`: what cannot be sent ends the connection. -/
def deliveryReply (enc : Encoder) (w : Worker) (request : Request) (value : Report) : Worker :=
  if enc.reply (deliveryBody value) then w.send (.response request.id (deliveryBody value))
  else w.shutdown

/-! ## Runs -/

/-- The run is recorded and takes the slot. -/
def admitRun (w : Worker) (request : Request) (ref : RunRef) (delivery : Option DeliveryRequest)
    (generation : String) (sequence : Nat) : Worker :=
  { w with
    generation, lastSequence := sequence
    records := w.records ++ [{ ref, sequence }]
    run := some (.run sequence)
    current := some { request, ref, sequence, delivery } }

/-- `_execute`; the result of a `turn.execute` is sent before the product runs. -/
def execute (w : Worker) (request : Request) (ref : RunRef)
    (delivery : Option DeliveryRequest) : Worker :=
  if !w.opened || w.run.isSome || w.records.length ≥ 256 then w.error request .busy
  else
    match runSequence ref.runID with
    | none => w.error request .invalidFrame
    | some (generation, sequence) =>
      if ref.sessionID ≠ w.sessionID ∨ (w.generation ≠ "" ∧ w.generation ≠ generation) ∨
          sequence ≠ w.lastSequence + 1 then w.error request .invalidFrame
      else
        let w := w.admitRun request ref delivery generation sequence
        if delivery.isNone then w.result request (.ref ref) else w

def find (w : Worker) (p : WaitRequest) : Option Record :=
  w.records.find? fun r =>
    p.sessionID == r.ref.sessionID && (p.runID == "" || p.runID == r.ref.runID)

/-- The loop of `_read`, up to its answer or to the promise it waits for. -/
def look (w : Worker) (request : Request) (p : WaitRequest) (wait timedOut : Bool) : Worker :=
  match w.find p with
  | none => { w with waiters := w.waiters - 1 }.error request .unknownSession
  | some record =>
    if !wait || record.state ≠ .running || (timedOut && p.timeoutMS.isSome) then
      { w with waiters := w.waiters - 1 }.result request (.status record.status)
    else { w with jobs := w.jobs ++ [.read request p wait] }

def read (w : Worker) (request : Request) (p : WaitRequest) (wait timedOut : Bool) : Worker :=
  if w.waiters ≥ 256 || w.run == some .empty then w.error request .busy
  else { w with waiters := w.waiters + 1 }.look request p wait timedOut

def ack (w : Worker) (request : Request) (ref : RunRef) : Worker :=
  match runSequence ref.runID with
  | none => w.error request .unknownSession
  | some (generation, sequence) =>
    if generation = w.generation ∧ ref.sessionID = w.sessionID then
      if sequence ≤ w.acknowledged then w.result request .empty
      else
        match w.records with
        | [] => w.error request .unknownSession
        | first :: rest =>
          if first.ref.runID = ref.runID ∧ first.state ≠ .running then
            { w with acknowledged := sequence, records := rest }.result request .empty
          else w.error request .busy
    else w.error request .unknownSession

/-- The signal is aborted: the callback has returned, and no event is handled between that and the
acknowledgment of `turn.ready`. -/
def aborted (w : Worker) (sequence : Nat) : Bool :=
  match w.current with
  | some run => run.sequence != sequence
  | none => true

/-- The part of `_close` after the interrupt: it waits for the run and the reads. -/
def finishClose (w : Worker) (request : Request) (run : Option Nat) : Worker :=
  if (run.any fun sequence => w.current.any fun r => r.sequence == sequence) || w.waiters ≠ 0 then
    { w with jobs := w.jobs ++ [.close request run] }
  else (w.result request .empty).shutdown

def close (w : Worker) (request : Request) : Worker :=
  match w.run with
  | some .empty => w.shutdown
  | some (.run sequence) => { w with run := some .empty }.finishClose request (some sequence)
  | none => { w with run := some .empty }.finishClose request none

/-- `_deliver` and the check before it. -/
def deliver (enc : Encoder) (w : Worker) (request : Request) (p : DeliveryRequest)
    (reply : Report) : Worker :=
  if p.runID ≠ "" then
    w.execute request { sessionID := w.sessionID, runID := p.runID } (some { p with runID := "" })
  else
    match w.run with
    | some .empty => w.result request (.receipt (.rejected "closing"))
    | some (.run sequence) =>
      if w.aborted sequence then w.error request .notRunning else w.deliveryReply enc request reply
    | none => w.error request .notRunning

def interrupt (w : Worker) (request : Request) : Worker :=
  match w.run with
  | none => w.error request .notRunning
  | some .empty => w.result request .empty
  | some (.run sequence) =>
    if w.aborted sequence then w.error request .notRunning else w.result request .empty

def handle (enc : Encoder) (w : Worker) (request : Request) (reply : Report)
    (expired : Bool) : Worker :=
  match request.command with
  | .superseded => (w.result request .empty).shutdown
  | .openSession _ => w.error request .invalidFrame
  | .execute p => w.execute request { sessionID := p.sessionID, runID := p.runID } none
  | .status p => w.read request { sessionID := p.sessionID, runID := p.runID } false expired
  | .wait p => w.read request p true expired
  | .ack p => w.ack request p
  | .interrupt _ => w.interrupt request
  | .deliver p => w.deliver enc request p reply
  | .close _ => w.close request

/-- `Connection._receive` of a request: requests are numbered upwards. -/
def receive (enc : Encoder) (w : Worker) (request : Request) (reply : Report)
    (expired : Bool) : Worker :=
  if w.last < request.id then { w with last := request.id }.handle enc request reply expired
  else (w.error request .invalidFrame).shutdown

/-! ## What waits -/

def resume (expired : Option Nat) (w : Worker) (job : Job) : Worker :=
  match job with
  | .read request p wait => w.look request p wait (expired == some request.id)
  | .close request run => w.finishClose request run

/-- The promise `changed` is resolved: every job looks again. -/
def changed (expired : Option Nat) (w : Worker) : Worker :=
  w.jobs.foldl (resume expired) { w with jobs := [] }

/-! ## The end of a run -/

/-- `ReportDelivery`. -/
def report (enc : Encoder) (w : Worker) (value : Report) : Worker :=
  match w.current with
  | some run =>
    if run.delivery.isSome ∧ run.receiptReported = false then
      { w with current := some { run with receiptReported := true } }.deliveryReply enc
        run.request value
    else w
  | none => w

/-- The state in which a run ended, as the product gave it. -/
def stateOf : Except String TurnResult → RunState
  | .ok r => .done r
  | .error text => .unavailable (clean text)

/-- The receipt that was never reported. -/
def missing (w : Worker) (run : Run) : Worker :=
  if run.delivery.isSome ∧ run.receiptReported = false then
    w.send (.response run.request.id
      (.error { code := .internal, data := .text "native delivery receipt unavailable" }))
  else w

/-- What the observer of `turn.ready` does. -/
def observed (w : Worker) (sequence : Nat) (state : RunState) : Worker :=
  { w with
    records := w.records.map fun r => if r.sequence = sequence then { r with state } else r
    run := if w.run = some (.run sequence) then none else w.run
    current := none }

/-- `_run` after the callback has returned. -/
def outcome (enc : Encoder) (w : Worker) (value : Except String TurnResult) : Worker :=
  match w.current with
  | some run =>
    let status : RunStatus :=
      { sessionID := run.ref.sessionID, runID := run.ref.runID, state := stateOf value }
    let state :=
      if enc.status status then status.state else .unavailable "native result failed validation"
    let w := w.missing run
    let id := w.next + 1
    let w := { w with next := id }.send
      (.ready id
        { sessionID := run.ref.sessionID, runID := run.ref.runID,
          state := Sessionbus.Worker.readyState state })
    (w.observed run.sequence state).changed none
  | none => w

def serve (enc : Encoder) (w : Worker) (e : KitEvent) : Worker :=
  if w.closed then w
  else
    match e with
    | .request id command reply expired =>
      (w.receive enc { id, command } reply expired).changed none
    | .report value => w.report enc value
    | .outcome value => w.outcome enc value
    | .expire id => w.changed (some id)

def serves (enc : Encoder) (w : Worker) (events : List KitEvent) : Worker :=
  events.foldl (serve enc) w

end Worker

end Sessionbus.Js
