import Sessionbus.Worker.Spec

/-!
# A worker that handles one event at a time

What a worker kit does with a request, with what its product reports and with the outcome
of a run when every goroutine that can go on has gone on before the next event. Whether a
reply with a product's text can be sent and whether a final status passes are up to the
encoder of the kit.
-/

namespace Sessionbus

inductive KitEvent
  /-- `reply` is the product's to an ordinary delivery; `expired`: the timeout of a wait has passed.
  -/
  | request (id : Nat) (command : Command) (reply : Report) (expired : Bool)
  /-- The product reports the delivery that seeded the run. -/
  | report (value : Report)
  /-- The product's run returns, and its `turn.ready` is acknowledged. -/
  | outcome (result : Except String TurnResult)
  /-- The timeout of a pending wait passes. -/
  | expire (id : Nat)

/-- What a kit can encode: the reply to a delivery, and the final status of a run. -/
structure Encoder where
  reply : Body → Bool
  status : RunStatus → Bool
  /-- The schema wants a reason with a rejection and with an unavailable run. -/
  rejected : reply (.result (.receipt (.rejected ""))) = false
  unavailable : ∀ s, status s = true → s.state ≠ .unavailable ""

namespace Worker

def withTasks (w : Worker) (tasks : List Task) : Worker := { w with tasks }

/-- The product's reply to an ordinary delivery cannot be sent. -/
def replyFails (enc : Encoder) (w : Worker) (task : Task) (reply : Report) : Bool :=
  match task with
  | .deliver _ _ (some sequence) => !w.cancelled sequence && !enc.reply (deliveryReply reply)
  | _ => false

/-- The goroutine of a task goes on until it is over or has to wait. -/
def goOn (enc : Encoder) (reply : Report) (expired : Option Nat) (w : Worker)
    (task : Task) : Worker :=
  if w.replyFails enc task reply then w.hangUp
  else
    let turn (v : Worker) : Worker := v.runTask 0 reply (expired == some task.request.id)
    -- a delivery that the product has goes on with its reply
    let v := turn (turn (w.withTasks [task]))
    v.withTasks (w.tasks ++ v.tasks)

/-- The tasks that the handler of a request has started go on. -/
def runNew (enc : Encoder) (reply : Report) (expired : Option Nat) (w v : Worker) : Worker :=
  (v.tasks.drop w.tasks.length).foldl (goOn enc reply expired)
    (v.withTasks (v.tasks.take w.tasks.length))

/-- The tasks that wait look again. -/
def wake (enc : Encoder) (expired : Option Nat) (w : Worker) : Worker :=
  w.tasks.foldl (goOn enc .notRunning expired) (w.withTasks [])

def serveRequest (enc : Encoder) (w : Worker) (request : Request) (reply : Report)
    (expired : Bool) : Worker :=
  (runNew enc reply (if expired then some request.id else none) w
    (w.receiveRequest request).start).wake enc none

/-- `ReportDelivery` of a seeded run; a reply that cannot be sent ends the connection. -/
def serveReport (enc : Encoder) (w : Worker) (value : Report) : Worker :=
  match w.turn with
  | some t =>
    if t.seed.isSome ∧ t.reported = false then
      if enc.reply (deliveryReply value) then w.report value
      else (w.setTurn { t with reported := true }).hangUp
    else w
  | none => w

/-- `runTurn` after the product has returned, with the acknowledgment of its `turn.ready`. -/
def serveOutcome (enc : Encoder) (w : Worker) (result : Except String TurnResult) : Worker :=
  match w.turn with
  | some t =>
    let status : RunStatus :=
      { sessionID := t.ref.sessionID, runID := t.ref.runID, state := finalState result true }
    let v := (w.finish (finalState result (enc.status status))).reportMissing.announce
    if v.closed then v else (v.receiveResponse v.next (.result .empty)).wake enc none
  | none => w

def serve (enc : Encoder) (w : Worker) (e : KitEvent) : Worker :=
  if w.closed then w
  else
    match e with
    | .request id command reply expired => w.serveRequest enc { id, command } reply expired
    | .report value => w.serveReport enc value
    | .outcome result => w.serveOutcome enc result
    | .expire id => w.wake enc (some id)

def serves (enc : Encoder) (w : Worker) (events : List KitEvent) : Worker :=
  events.foldl (serve enc) w

end Worker

end Sessionbus
