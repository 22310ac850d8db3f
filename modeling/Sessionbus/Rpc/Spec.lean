import Sessionbus.Protocol
import Sessionbus.Maps

/-!
# One connection and its calls

`rpc.Conn` as the goroutines of its calls, its reader and whoever closes it see it. What is
done under `stateMu` is one step, and so is a write, a run of an observer and a send to a
`done` channel; `writeMu` is held from step to step. The goroutine that closes the connection
leaves behind the answers it owes, and they are delivered at any later time.
-/

namespace Sessionbus.Rpc

def maxRequestID : Nat := 9007199254740991

/-- Why a call fails. -/
inductive Failure
  | params
  | closed
  | exhausted
  | busy
  | encode
  | write
  | unmatched
  /-- A read fails, or a frame is refused. -/
  | frame
  /-- The reply is an error. -/
  | refused
  /-- The reply does not decode. -/
  | result
  | observer
deriving DecidableEq, Repr

/-- What is sent to a `done` channel: `none` is a success. -/
abbrev Outcome := Option Failure

inductive Reply (R : Type)
  | error
  | result (raw : R)
deriving DecidableEq, Repr

/-- The calls and the codecs: a call is known by its number. -/
structure Env (M P R : Type) where
  method : Nat → M
  params : Nat → P
  /-- The call has an observer. -/
  seen : Nat → Bool
  encodeParams : M → P → Bool
  encodeRequest : Nat → M → P → Bool
  decodeResult : M → R → Bool
  /-- The result decodes into the target of the call. -/
  unmarshalResult : Nat → M → R → Bool

/-- An entry of the map `pending`; the number of the call stands for its `done` channel. -/
structure Pending where
  call : Nat
  seen : Bool
  drain : Bool := false
deriving DecidableEq, Repr

/-- How far the goroutine of a call has come. -/
inductive Stage
  | idle
  /-- At the top of `call`. -/
  | called
  /-- The context was over at the top of `call`. -/
  | skipped
  /-- The parameters are encoded, and the call waits for `writeMu`. -/
  | locking
  /-- It has `writeMu`, as in the next three. -/
  | locked
  /-- It has its ID, and its entry is in the map. -/
  | reserved (id : Nat)
  | encoded (id : Nat)
  /-- The connection was open when `send` looked. -/
  | sending (id : Nat)
  /-- `begin` has failed after the entry was made. -/
  | failing (id : Nat) (cause : Failure)
  /-- `begin` is over, and `call` waits for its outcome and its context. -/
  | waiting (id : Nat)
  /-- The context is over but the call could not be abandoned. -/
  | bound
  /-- `call` has returned the error of its context. -/
  | abandoned
  | returned (outcome : Outcome)
deriving DecidableEq, Repr

structure Call where
  stage : Stage := .idle
  cancelled : Bool := false
  /-- What has been sent to the `done` channel, which holds one value. -/
  done : List Outcome := []
  /-- How often the observer has run. -/
  runs : Nat := 0
deriving DecidableEq, Repr

inductive Reader (R : Type)
  | idle
  /-- The entry is taken out of the map. -/
  | claimed (p : Pending) (reply : Reply R)
  /-- The result is decoded, and the observer is next. -/
  | observing (p : Pending) (raw : R)
  /-- The outcome is to be sent. -/
  | settling (call : Nat) (outcome : Outcome)
deriving DecidableEq, Repr

structure Conn (R : Type) where
  closed : Bool := false
  next : Nat := 0
  pending : Map Nat Pending := ∅
  /-- The call that has `writeMu`. -/
  writer : Option Nat := none
  reader : Reader R := .idle
  calls : Nat → Call := fun _ => {}
  /-- The answers that the goroutine which closed the connection still has to send. -/
  owed : List (Nat × Failure) := []
  /-- The IDs given to the socket, oldest first; of the last one only a part may have been written.
  -/
  wire : List Nat := []
  /-- The IDs of the responses read. -/
  replied : List Nat := []

namespace Conn

variable {M P R : Type}

def setStage (s : Conn R) (k : Nat) (stage : Stage) : Conn R :=
  { s with calls := Function.update s.calls k { s.calls k with stage } }

/-- The value goes to the `done` channel of the call. -/
def put (s : Conn R) (k : Nat) (outcome : Outcome) : Conn R :=
  { s with
    calls := Function.update s.calls k { s.calls k with done := (s.calls k).done ++ [outcome] } }

def unlock (s : Conn R) : Conn R := { s with writer := none }

def close (s : Conn R) (cause : Failure) : Conn R :=
  if s.closed then s
  else
    { s with
      closed := true
      pending := ∅
      owed := s.owed ++ s.pending.values.map fun p => (p.call, cause) }

/-- One answer that is owed is sent. -/
def deliver (s : Conn R) (index : Nat) : Conn R :=
  match s.owed[index]? with
  | some (k, cause) => { s with owed := s.owed.eraseIdx index }.put k (some cause)
  | none => s

/-! ## A call -/

def call (s : Conn R) (k : Nat) : Conn R :=
  match (s.calls k).stage with
  | .idle => s.setStage k .called
  | _ => s

def cancel (s : Conn R) (k : Nat) : Conn R :=
  { s with calls := Function.update s.calls k { s.calls k with cancelled := true } }

def begin (env : Env M P R) (s : Conn R) (k : Nat) : Conn R :=
  match (s.calls k).stage with
  | .called =>
    if (s.calls k).cancelled then s.setStage k .skipped
    else if env.encodeParams (env.method k) (env.params k) then s.setStage k .locking
    else (s.setStage k (.waiting 0)).put k (some .params)
  | _ => s

def lock (s : Conn R) (k : Nat) : Conn R :=
  match (s.calls k).stage with
  | .locking => if s.writer = none then { s.setStage k .locked with writer := some k } else s
  | _ => s

/-- `begin` fails before it has an ID. -/
def refuse (s : Conn R) (k : Nat) (cause : Failure) : Conn R :=
  (s.unlock.setStage k (.waiting 0)).put k (some cause)

def reserve (env : Env M P R) (s : Conn R) (k : Nat) : Conn R :=
  match (s.calls k).stage with
  | .locked =>
    if s.closed then s.refuse k .closed
    else if s.next = maxRequestID then s.refuse k .exhausted
    else if s.pending.entries.length ≥ maxOperations then s.refuse k .busy
    else
      { s with
        next := s.next + 1
        pending := s.pending.insert (s.next + 1) { call := k, seen := env.seen k } }.setStage k
          (.reserved (s.next + 1))
  | _ => s

def encode (env : Env M P R) (s : Conn R) (k : Nat) : Conn R :=
  match (s.calls k).stage with
  | .reserved id =>
    if env.encodeRequest id (env.method k) (env.params k) then s.setStage k (.encoded id)
    else s.unlock.setStage k (.failing id .encode)
  | _ => s

def send (s : Conn R) (k : Nat) : Conn R :=
  match (s.calls k).stage with
  | .encoded id =>
    if s.closed then s.unlock.setStage k (.failing id .closed) else s.setStage k (.sending id)
  | _ => s

def write (s : Conn R) (k : Nat) (written : Bool) : Conn R :=
  match (s.calls k).stage with
  | .sending id =>
    let t := { s with wire := s.wire ++ [id] }
    if written then t.unlock.setStage k (.waiting id)
    else (t.close .write).unlock.setStage k (.failing id .write)
  | _ => s

def drop (s : Conn R) (k : Nat) : Conn R :=
  match (s.calls k).stage with
  | .failing id cause =>
    if (s.pending.lookup id).map Pending.call = some k then
      ({ s with pending := s.pending.erase id }.setStage k (.waiting id)).put k (some cause)
    else s.setStage k (.waiting id)
  | _ => s

/-- The outcome is received from the `done` channel. -/
def take (s : Conn R) (k : Nat) : Conn R :=
  match (s.calls k).stage, (s.calls k).done with
  | .waiting _, outcome :: _ => s.setStage k (.returned outcome)
  | .bound, outcome :: _ => s.setStage k (.returned outcome)
  | _, _ => s

def abandon (s : Conn R) (k : Nat) : Conn R :=
  match (s.calls k).stage with
  | .waiting id =>
    if (s.calls k).cancelled then
      if (s.pending.lookup id).map Pending.call = some k then
        { s with
          pending := s.pending.insert id { call := k, seen := false, drain := true } }.setStage k
          .abandoned
      else s.setStage k .bound
    else s
  | _ => s

/-! ## The reader -/

def receiveResponse (s : Conn R) (id : Nat) (reply : Reply R) : Conn R :=
  match s.reader with
  | .idle =>
    match s.pending.lookup id with
    | some p =>
      { s with pending := s.pending.erase id, reader := .claimed p reply,
               replied := s.replied ++ [id] }
    | none => { s with replied := s.replied ++ [id] }.close .unmatched
  | _ => s

/-- The reply is decoded, into its target or, when the call is cancelled, for itself. -/
def decodes (env : Env M P R) (p : Pending) (raw : R) : Bool :=
  if p.drain then env.decodeResult (env.method p.call) raw
  else env.unmarshalResult p.call (env.method p.call) raw

def decode (env : Env M P R) (s : Conn R) : Conn R :=
  match s.reader with
  | .claimed p .error => { s with reader := .settling p.call (some .refused) }
  | .claimed p (.result raw) =>
    if decodes env p raw = false then
      { s.close .result with reader := .settling p.call (some .result) }
    else if p.seen then { s with reader := .observing p raw }
    else { s with reader := .settling p.call none }
  | _ => s

def observed (s : Conn R) (k : Nat) : Conn R :=
  { s with calls := Function.update s.calls k { s.calls k with runs := (s.calls k).runs + 1 } }

/-- The observer runs, and it may fail. -/
def observe (s : Conn R) (succeeds : Bool) : Conn R :=
  match s.reader with
  | .observing p _ =>
    if succeeds then { s.observed p.call with reader := .settling p.call none }
    else { (s.observed p.call).close .observer with reader := .settling p.call (some .observer) }
  | _ => s

def settle (s : Conn R) : Conn R :=
  match s.reader with
  | .settling k outcome => { s with reader := .idle }.put k outcome
  | _ => s

end Conn

/-- The goroutine of a call, the reader, or whoever closes the connection: `Close`, a read that
fails, a refused frame, a response that cannot be written. -/
inductive Step (R : Type)
  | call (k : Nat)
  | cancel (k : Nat)
  | begin (k : Nat)
  | lock (k : Nat)
  | reserve (k : Nat)
  | encode (k : Nat)
  | send (k : Nat)
  | write (k : Nat) (written : Bool)
  | drop (k : Nat)
  | take (k : Nat)
  | abandon (k : Nat)
  | response (id : Nat) (reply : Reply R)
  | decode
  | observe (succeeds : Bool)
  | settle
  | close (cause : Failure)
  | deliver (index : Nat)

namespace Conn

variable {M P R : Type}

def step (env : Env M P R) (s : Conn R) : Step R → Conn R
  | .call k => s.call k
  | .cancel k => s.cancel k
  | .begin k => s.begin env k
  | .lock k => s.lock k
  | .reserve k => s.reserve env k
  | .encode k => s.encode env k
  | .send k => s.send k
  | .write k written => s.write k written
  | .drop k => s.drop k
  | .take k => s.take k
  | .abandon k => s.abandon k
  | .response id reply => s.receiveResponse id reply
  | .decode => s.decode env
  | .observe succeeds => s.observe succeeds
  | .settle => s.settle
  | .close cause => s.close cause
  | .deliver index => s.deliver index

def steps (env : Env M P R) (s : Conn R) (schedule : List (Step R)) : Conn R :=
  schedule.foldl (step env) s

end Conn

end Sessionbus.Rpc
