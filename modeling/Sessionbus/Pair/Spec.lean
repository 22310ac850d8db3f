import Sessionbus.Session.Promise
import Sessionbus.Worker.Spec

/-!
# A lane and its worker

The session of a committed lane and a worker of the Go kit on the two ends of one
connection. Every step is one event of the session, one frame that the session's writer or
the kit's reader takes, or one step of a goroutine of the kit, in any order.
-/

namespace Sessionbus

/-- An event of the session that does not come from the connection. -/
def Event.external : Event → Bool
  | .frame _ => false
  | .written => false
  | _ => true

/-- What the daemon makes of a client's request is up to its other parts. -/
def UpFrame.decoded (verdict : Verdict) : UpFrame → InFrame
  | .response id body => if h : 0 < id then .response ⟨id, h⟩ body else .invalid false id
  | .ready id value => if h : 0 < id then .request ⟨id, h⟩ (.ready value) else .invalid true id
  | .client id method =>
    if h : 0 < id then .request ⟨id, h⟩ (.client method verdict) else .invalid true id

/-- `down` holds the frames that the daemon's writer put on the connection and the kit has
not read. -/
structure Pair where
  daemon : Session
  down : List OutFrame := []
  worker : Worker

namespace Pair

inductive Action
  | event (e : Event)
  | write
  | receive (verdict : Verdict)
  | read
  | work (a : Worker.Action)

/-- The writer takes a frame. On a closed descriptor the frame is lost. -/
def write (env : Env) (p : Pair) : Pair :=
  match p.daemon.wire.outbox with
  | [] => p
  | frame :: _ =>
    { p with
      daemon := p.daemon.handleEvent env .written
      down := if p.daemon.wire.fdClosed then p.down else p.down ++ [frame] }

def receive (env : Env) (p : Pair) (verdict : Verdict) : Pair :=
  match p.worker.up with
  | [] => p
  | frame :: rest =>
    { p with
      daemon := p.daemon.handleEvent env (.frame (frame.decoded verdict))
      worker := { p.worker with up := rest } }

def read (p : Pair) : Pair :=
  if p.worker.closed then p
  else
    match p.down with
    | [] => p
    | frame :: rest => { p with worker := p.worker.receive frame, down := rest }

def step (env : Env) (p : Pair) : Action → Pair
  | .event e => if e.external then { p with daemon := p.daemon.handleEvent env e } else p
  | .write => p.write env
  | .receive verdict => p.receive env verdict
  | .read => p.read
  | .work a => { p with worker := p.worker.act a }

def run (env : Env) (p : Pair) (actions : List Action) : Pair := actions.foldl (step env) p

/-- The product says of a run it was seeded with that it is not running. -/
def Action.refusesSeed : Action → Bool
  | .work (.report .notRunning) => true
  | _ => false

end Pair

end Sessionbus
