import Mathlib.Logic.Function.Basic

/-!
# The Go kit of a peer

`sdk/go/peer.go`: the goroutine of `connect` dials one connection after another, and `connect`,
`Rehello` and `Replace` make hellos on them with `helloObserved`. Every section under `p.mu`, every
write of a hello, every reply that a reader claims, every observer that runs and every connection
that closes is one step. The daemon handles the hellos of a connection in their order.
-/

namespace Sessionbus.PeerKit

/-- `PeerIdentity`. -/
structure Identity (Info : Type) where
  product : String := ""
  sessionID : String := ""
  name : String := ""
  groups : List String := []
  info : Info
deriving DecidableEq, Repr

/-- Who calls `helloObserved`. -/
inductive Caller
  | connect
  | rehello
  | replace
deriving DecidableEq, Repr

/-- How a `CallObserved` came back: `stale` found another generation, `refused` is `invalid_hello`.
-/
inductive Outcome
  | installed
  | stale
  | refused
  | failed
deriving DecidableEq, Repr

inductive Phase
  /-- At the head of the loop. -/
  | ready
  /-- In the `select` of `call`. -/
  | waiting
  | done (outcome : Outcome)
  /-- `Replace` before `wire.Close`. -/
  | closing
  /-- `connect` between `wire.Close` and `failHello`. -/
  | failing (refused : Bool)
  | finished
deriving DecidableEq, Repr

/-- One `helloObserved` with its variables. -/
structure Hello (Info : Type) where
  caller : Caller
  wire : Nat
  identity : Identity Info
  generation : Nat
  phase : Phase := .ready

/-- A reply that the reader has taken, with its entry of the map. -/
structure Claim where
  call : Nat
  accepted : Bool
  drain : Bool
deriving DecidableEq, Repr

/-- What an `rpc.Conn` holds of hellos, and its two directions. A `helloObserved` has one call at a
time. -/
structure Wire (Info : Type) where
  closed : Bool := false
  /-- The calls in the map and whether they were abandoned. -/
  pending : List (Nat × Bool) := []
  claimed : Option Claim := none
  up : List (Nat × Identity Info) := []
  down : List (Nat × Bool) := []
  /-- The hellos that the daemon has accepted, the last one last. -/
  accepted : List (Identity Info) := []

/-- Where the goroutine of `connect` is. -/
inductive Loop
  | dialing
  | dialled (wire : Nat)
  | hello (call : Nat)
  | serving (wire : Nat)
  | over
deriving DecidableEq, Repr

/-- A `Peer`, its connections in the order of their dials, and its hellos. `admitted` starts as no
identity. -/
structure Kit (Info : Type) where
  identity : Identity Info
  admitted : Option (Identity Info) := none
  generation : Nat := 0
  wire : Option Nat := none
  /-- `p.ctx` is done. -/
  cancelled : Bool := false
  loop : Loop := .dialing
  wires : Nat → Wire Info := fun _ => {}
  dialled : Nat := 0
  hellos : Nat → Option (Hello Info) := fun _ => none
  begun : Nat := 0

inductive Action (Info : Type)
  | rehello (name : String) (info : Info)
  | replace (identity : Identity Info)
  /-- Without `fits` the call fails before a write, such as with `busy`. -/
  | call (k : Nat) (fits : Bool)
  /-- The daemon handles the oldest hello of a connection. -/
  | handle (c : Nat) (accepts : Bool)
  | claim (c : Nat)
  | observe (c : Nat)
  /-- The context of a call is done. -/
  | abandon (k : Nat)
  /-- A call gets the cause for which its connection was closed. -/
  | fail (k : Nat)
  /-- A `helloObserved` goes on after its call. -/
  | proceed (k : Nat)
  | close (c : Nat)
  | dial
  | take
  | lost
  | stop
  | superseded (c : Nat)
  | cancel

namespace Kit

variable {Info : Type}

def setWire (kit : Kit Info) (c : Nat) (w : Wire Info) : Kit Info :=
  { kit with wires := Function.update kit.wires c w }

def setHello (kit : Kit Info) (k : Nat) (h : Hello Info) : Kit Info :=
  { kit with hellos := Function.update kit.hellos k (some h) }

/-- A new `helloObserved` for the identity that is desired. -/
def hello (kit : Kit Info) (caller : Caller) (c : Nat) : Kit Info :=
  { kit.setHello kit.begun
    { caller, wire := c, identity := kit.identity, generation := kit.generation } with
    begun := kit.begun + 1 }

/-- `Conn.close` up to the answers to its calls. -/
def close (kit : Kit Info) (c : Nat) : Kit Info :=
  if (kit.wires c).closed then kit
  else kit.setWire c { kit.wires c with closed := true, pending := [] }

def failHello (kit : Kit Info) (refused : Bool) : Kit Info :=
  { kit with cancelled := kit.cancelled || refused }

/-- The end of `desire`. -/
def desired (kit : Kit Info) (identity : Identity Info) (replacement : Bool) : Kit Info :=
  { kit with
    identity, generation := kit.generation + 1, wire := if replacement then none else kit.wire }

/-- `desire`, with the connection on which to say hello. -/
def desire [DecidableEq Info] (snapshot : Identity Info → Option (Identity Info)) (kit : Kit Info)
    (identity : Identity Info) (replacement : Bool) : Kit Info × Option Nat :=
  if kit.cancelled then (kit, none)
  else
    let identity :=
      if replacement then identity
      else
        { identity with
          product := kit.identity.product, sessionID := kit.identity.sessionID,
            groups := kit.identity.groups }
    match snapshot identity with
    | none => (kit, none)
    | some identity =>
      if replacement ∧ identity.sessionID = kit.identity.sessionID then (kit, none)
      else if ¬replacement ∧ identity = kit.identity then (kit, none)
      else (kit.desired identity replacement, kit.wire)

def changed (result : Kit Info × Option Nat) (caller : Caller) : Kit Info :=
  match result with
  | (kit, none) => kit
  | (kit, some c) => kit.hello caller c

/-- `begin`, after the test of the context; the context of `Replace` is the caller's own. -/
def begin (kit : Kit Info) (k : Nat) (fits : Bool) : Kit Info :=
  match kit.hellos k with
  | none => kit
  | some h =>
    if h.phase = .ready then
      let w := kit.wires h.wire
      if !fits || w.closed || (kit.cancelled && h.caller != .replace) then
        kit.setHello k { h with phase := .done .failed }
      else
        (kit.setWire h.wire
          { w with pending := w.pending ++ [(k, false)],
                   up := w.up ++ [(k, h.identity)] }).setHello k { h with phase := .waiting }
    else kit

def handle (kit : Kit Info) (c : Nat) (accepts : Bool) : Kit Info :=
  let w := kit.wires c
  match w.up with
  | [] => kit
  | (k, identity) :: up =>
    kit.setWire c
      { w with up, down := w.down ++ [(k, accepts)], accepted := if accepts then w.accepted ++
               [identity] else w.accepted }

/-- `receiveResponse` up to the observer. -/
def claim (kit : Kit Info) (c : Nat) : Kit Info :=
  let w := kit.wires c
  match w.claimed, w.down with
  | none, (k, accepted) :: down =>
    match w.pending.lookup k with
    | none => (kit.setWire c { w with down }).close c
    | some drain =>
      kit.setWire c
        { w with down, pending := w.pending.filter (·.1 != k),
                 claimed := some { call := k, accepted, drain } }
  | _, _ => kit

/-- The observer of `helloObserved`; an error closes the connection. -/
def observer (kit : Kit Info) (k : Nat) (h : Hello Info) : Kit Info :=
  if kit.cancelled then (kit.close h.wire).setHello k { h with phase := .done .failed }
  else if h.generation = kit.generation then
    { kit.setHello k { h with phase := .done .installed } with
      admitted := some h.identity, wire := some h.wire }
  else
    kit.setHello k
    { h with identity := kit.identity, generation := kit.generation, phase := .done .stale }

/-- The rest of `receiveResponse`: an abandoned call has no observer. -/
def observe (kit : Kit Info) (c : Nat) : Kit Info :=
  let w := kit.wires c
  match w.claimed with
  | none => kit
  | some reply =>
    let kit := kit.setWire c { w with claimed := none }
    match kit.hellos reply.call with
    | none => kit
    | some h =>
      if reply.drain then kit
      else if reply.accepted then kit.observer reply.call h
      else kit.setHello reply.call { h with phase := .done .refused }

/-- `abandon`: the winner marks the entry. -/
def abandon (kit : Kit Info) (k : Nat) : Kit Info :=
  match kit.hellos k with
  | none => kit
  | some h =>
    let w := kit.wires h.wire
    if h.phase = .waiting ∧ (kit.cancelled ∨ h.caller = .replace) ∧ (k, false) ∈ w.pending then
      (kit.setWire h.wire
        { w with pending := w.pending.map fun e => if e.1 = k then (k, true) else e }).setHello k
        { h with phase := .done .failed }
    else kit

def fail (kit : Kit Info) (k : Nat) : Kit Info :=
  match kit.hellos k with
  | none => kit
  | some h =>
    let w := kit.wires h.wire
    if h.phase = .waiting ∧ w.closed ∧ (w.claimed.all fun reply => reply.call != k) then
      kit.setHello k { h with phase := .done .failed }
    else kit

/-- What the caller of `helloObserved` does with an error. -/
def failed (kit : Kit Info) (k : Nat) (h : Hello Info) (refused : Bool) : Kit Info :=
  match h.caller with
  | .rehello => (kit.failHello refused).setHello k { h with phase := .finished }
  | .replace => (kit.failHello refused).setHello k { h with phase := .closing }
  | .connect => (kit.close h.wire).setHello k { h with phase := .failing refused }

def proceed (kit : Kit Info) (k : Nat) : Kit Info :=
  match kit.hellos k with
  | none => kit
  | some h =>
    match h.phase with
    | .done .installed =>
      { kit.setHello k { h with phase := .finished } with
        loop := if h.caller = .connect then .serving h.wire else kit.loop }
    | .done .stale => kit.setHello k { h with phase := .ready }
    | .done .refused => kit.failed k h true
    | .done .failed => kit.failed k h false
    | .closing => (kit.close h.wire).setHello k { h with phase := .finished }
    | .failing refused =>
      { (kit.failHello refused).setHello k { h with phase := .finished } with
        loop := if refused then .over else .dialing }
    | _ => kit

/-- `connect` after `wire.Done`. -/
def lost (kit : Kit Info) : Kit Info :=
  match kit.loop with
  | .serving c =>
    if (kit.wires c).closed then
      { kit with wire := if kit.wire = some c then none else kit.wire, loop := .dialing }
    else kit
  | _ => kit

variable [DecidableEq Info] (snapshot : Identity Info → Option (Identity Info))

def step (kit : Kit Info) : Action Info → Kit Info
  | .rehello name info => changed (kit.desire snapshot { name, info } false) .rehello
  | .replace identity => changed (kit.desire snapshot identity true) .replace
  | .call k fits => kit.begin k fits
  | .handle c accepts => kit.handle c accepts
  | .claim c => kit.claim c
  | .observe c => kit.observe c
  | .abandon k => kit.abandon k
  | .fail k => kit.fail k
  | .proceed k => kit.proceed k
  | .close c => if c < kit.dialled then kit.close c else kit
  | .dial =>
    if kit.loop = .dialing then
      { kit with loop := .dialled kit.dialled, dialled := kit.dialled + 1 }
    else kit
  | .take =>
    match kit.loop with
    | .dialled c => { kit.hello .connect c with loop := .hello kit.begun }
    | _ => kit
  | .lost => kit.lost
  | .stop => if kit.loop = .dialing ∧ kit.cancelled then { kit with loop := .over } else kit
  | .superseded c => if kit.wire = some c then { kit with wire := none } else kit
  | .cancel => { kit with cancelled := true }

def run (kit : Kit Info) (actions : List (Action Info)) : Kit Info :=
  actions.foldl (step snapshot) kit

/-- `ConnectPeer` with the snapshot of its identity. -/
def start (identity : Identity Info) : Kit Info := { identity }

/-- The reader is about to run an observer that puts its connection into `p.wire`. -/
def installs (kit : Kit Info) (c : Nat) : Bool :=
  (kit.wires c).claimed.any fun reply =>
    reply.accepted && !reply.drain && !kit.cancelled &&
      (kit.hellos reply.call).any fun h => h.generation == kit.generation

/-- Observers install open connections only, and an open connection takes the hello of a `Rehello`.
-/
def timely (kit : Kit Info) : Action Info → Bool
  | .observe c => !kit.installs c || !(kit.wires c).closed
  | .call k fits =>
    fits || kit.cancelled || (kit.hellos k).all fun h =>
      h.caller != .rehello || (kit.wires h.wire).closed
  | _ => true

def timelyRun (kit : Kit Info) : List (Action Info) → Bool
  | [] => true
  | a :: actions => kit.timely a && timelyRun (kit.step snapshot a) actions

/-- No hello is outstanding. -/
def Quiet (kit : Kit Info) : Prop := ∀ k h, kit.hellos k = some h → h.phase = .finished

end Kit

end Sessionbus.PeerKit
