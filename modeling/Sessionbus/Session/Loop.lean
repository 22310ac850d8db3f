import Sessionbus.Session.Spec

/-!
# The run loop of a session

`run` of `session.go` with the inbox it reads, and `routeLocked`, by which the directory puts
requests there. Every caller of `route` makes a channel for the answer: `posted` counts the
requests that were taken, and the k-th of them is answered on channel k.
-/

namespace Sessionbus

namespace Session

/-- `newSession`, on a connection of its own. -/
def newSession (self : Ptr) (randomGeneration : String) : Session := { self, randomGeneration }

/-- `offline(s.identity, s, s.forget)` of `directory.go`. -/
def offline (s : Session) : Session :=
  let item := if s.attached then { s.item with attachment := none, running := false } else s.item
  { s with item := { item with claimed := false }, listed := s.listed && !s.forget }

/-- `deleteError` is what `table.delete` returns. -/
def deleteRow (s : Session) (deleteError : Option String) : Session :=
  match s.forget, deleteError with
  | true, some text =>
    { s with closeAnswer := some (.error { code := .internal, data := .text text }),
             forget := false }
  | _, _ => s

def answerClose (s : Session) : Session :=
  match s.closeCall with
  | none => s
  | some request => s.act (.answered request (s.closeAnswer.getD (.value .empty)))

/-- `finishLane`: the answer of an uncommitted launch is its caller's. -/
def finishLane (s : Session) (deleteError : Option String) : Session :=
  (if s.committed then (s.stopAutoClose.deleteRow deleteError).offline
    else s.stopAutoClose).answerClose

end Session

/-- What other goroutines put in the inbox; the directory puts `routed` there. -/
def Event.posted : Event → Bool
  | .ownerEnd _ _ => true
  | .frame _ => true
  | .closed => true
  | .reply _ _ _ => true
  | .supersede => true
  | .processStarted _ _ => true
  | .processExited _ _ => true
  | .spawnTimeout _ => true
  | _ => false

/-- What the loop selects on besides its inbox, and what happens to its connection. -/
def Event.fires : Event → Bool
  | .spawnTimeout _ => true
  | .autoCloseFired => true
  | .closeTimerFired => true
  | .shutdown => true
  | .written => true
  | .readEnded => true
  | .clock _ => true
  | _ => false

structure Loop where
  session : Session
  inbox : List Event := []
  posted : Nat := 0
  returned : Bool := false

namespace Loop

inductive Action
  /-- Some session routes a request here; `lifetime` is the token of the entry's owner record. -/
  | route (request : Routed) (lifetime : Option String)
  | post (event : Event)
  /-- `event := <-s.inbox`. -/
  | take
  | fire (event : Event)
  /-- `installPeer` gave the ID of this session's peer to another session. -/
  | displace
  /-- The top of the loop: it drains the inbox and returns. -/
  | finish (deleteError : Option String)

/-- `routeLocked`: `none` is the code 0. -/
def routeLocked (l : Loop) (q : Routed) (lifetime : Option String) : Option Code :=
  let s := l.session
  if s.identity.isNone || !s.listed then some .notConnected
  else if s.item.claimed && q.call.method != .deliver then some .busy
  else if q.traceCopy && lifetime != some q.traceLifetime then some .notConnected
  else if !s.attached then some .notConnected
  else if s.item.peer && q.call.method != .deliver then some .unknownSession
  else if s.wire.done then some .notConnected
  else if l.inbox.length < outboxSize then none
  else some .busy

def accept (l : Loop) (q : Routed) : Loop :=
  { l with
    inbox := l.inbox ++ [.routed { q with destination := l.session.identity, reply := l.posted }]
    posted := l.posted + 1 }

/-- `drain`. -/
def drained (env : Env) (l : Loop) : Session := l.session.handleEvents env l.inbox

def mayFinish (s : Session) : Bool :=
  s.closed && s.owned == 0 && (s.launch.isNone || s.processExited)

def step (env : Env) (l : Loop) : Action → Loop
  | .route q lifetime =>
    match l.routeLocked q lifetime with
    | some _ => l
    | none => l.accept q
  | .post e =>
    if e.posted && l.inbox.length < outboxSize then { l with inbox := l.inbox ++ [e] } else l
  | .take =>
    match l.inbox with
    | [] => l
    | e :: rest =>
      if l.returned then l else { l with inbox := rest, session := l.session.handleEvent env e }
  | .fire e =>
    if e.fires && !l.returned then { l with session := l.session.handleEvent env e } else l
  | .displace => if l.session.item.peer then { l with session := l.session.detach } else l
  | .finish deleteError =>
    if mayFinish l.session && !l.returned then
      let s := l.drained env
      if s.owned = 0 then
        { l with session := if s.launch.isSome then s.finishLane deleteError else s, inbox := [],
                 returned := true }
      else { l with session := s, inbox := [] }
    else l

def run (env : Env) (l : Loop) (actions : List Action) : Loop := actions.foldl (step env) l

def start (self : Ptr) (randomGeneration : String) : Loop :=
  { session := .newSession self randomGeneration }

/-- The values that were put on channel `k`. -/
def answers (l : Loop) (k : Nat) : Nat :=
  l.session.history.countP fun
    | .answered request _ => request.reply == .chan k
    | _ => false

end Loop

end Sessionbus
