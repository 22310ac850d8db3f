import Sessionbus.Federation.Trace
import Sessionbus.Maps

/-!
# Calls on the daemon's link to the hub

Sessions post calls to the inbox of the link, where `ServeDaemon` takes them. Once it has returned,
the daemon lets go of the link and settles its inbox. All of this interleaves in any order;
`wire.Close` only ends the reader.
-/

namespace Sessionbus.Federation

/-- `requires` is what `requestRequiresTrace` says of an `OutgoingCall`. -/
inductive LinkCall
  | ownerEnd | roster | hosts
  | forward (method : String) (completion trace requires : Bool)

/-- `reply` is the channel the caller waits on. -/
structure PendingCall where
  method : String
  reply : Nat
  trace : Bool := false
  target : String := ""

/-- What else arrives; `served` is that `daemonFrame` minds at most the number of a request. -/
inductive LinkEvent (Body : Type)
  | reply (sent : Bool)
  | response (id : Nat) (body : Body)
  | request (id : Nat) (served : Bool)
  | invalid
  | closed

/-- Its `target`, if `targetHost` and the encoding allow it, and whether it is `trimmed` of `trace`
and `queued`. -/
structure Attempt where
  target : Option String
  trimmed : Bool
  queued : Bool

/-- `failed`: `cause` is set; `current`: the daemon has the link. The `accepted` calls are numbered.
-/
structure Link (Body : Type) where
  traceCapable : Bool
  wakeCapable : Bool
  inbox : List ((LinkCall × Nat) ⊕ LinkEvent Body) := []
  pending : AList (fun _ : Nat => PendingCall) := ∅
  nextID : Nat := 0
  lastIn : Nat := 0
  failed : Bool := false
  returned : Bool := false
  current : Bool := true
  accepted : Nat := 0
  replies : List (Nat × Except Code Reply) := []

/-- `arrive` is the reader or a helper, `stop` a cancelled context, `retire` what follows the loop.
-/
inductive LinkAction (Body : Type)
  | post (call : LinkCall)
  | arrive (event : LinkEvent Body)
  | stop
  | take (how : Attempt)
  | retire

-- `decode` is `decodePendingReply`.
variable {Body : Type} (decode : PendingCall → Body → Option Reply)

namespace Link

variable (l : Link Body)

/-- The channels of the calls in the inbox; `waiting` has those of the pending ones. -/
def calls : List Nat := l.inbox.filterMap fun m => m.getLeft?.map Prod.snd

def waiting : List Nat := l.pending.values.map fun call => call.reply

def answer (k : Nat) (a : Except Code Reply) : Link Body :=
  { l with replies := l.replies ++ [(k, a)] }

/-- A request takes the next number; it is pending once it is `sent`. -/
def issue (sent : Bool) (call : PendingCall) (code : Code) (failed : Bool) : Link Body :=
  if sent then { l with nextID := l.nextID + 1, pending := l.pending.insert (l.nextID + 1) call }
  else
    { l with nextID := l.nextID + 1, failed := l.failed || failed }.answer call.reply (.error code)

def control (how : Attempt) (method : String) (k : Nat) (failed : Bool) : Link Body :=
  l.issue (!l.failed && how.queued) { method, reply := k } .forwardLost failed

def serveCall (how : Attempt) (k : Nat) : LinkCall → Link Body
  | .ownerEnd =>
    if maxOperations ≤ l.pending.values.length then l.answer k (.error .forwardLost)
    else l.control how "federation.owner_end" k false
  | .roster => l.control how "federation.roster" k false
  | .hosts => l.control how "federation.hosts" k true
  | .forward method completion trace requires =>
    if completion && !l.wakeCapable then l.answer k (.error .forwardLost)
    else if requires && !l.traceCapable then l.answer k (.error .unsupportedTrace)
    else
      let legal := how.target.isSome
      l.issue (!l.failed && legal && how.queued)
        { method, reply := k, trace := trace && l.traceCapable && !how.trimmed,
          target := how.target.getD "" }
        (if legal then .forwardLost else .invalidFrame) legal

def lose (ks : List Nat) : Link Body :=
  { l with replies := l.replies ++ ks.map fun k => (k, .error .forwardLost) }

/-- Go takes the calls of the map in any order. -/
def settlePending : Link Body := { l with pending := ∅ }.lose l.waiting

def settleFederationQueue : Link Body := { l with inbox := [] }.lose l.calls

def daemonFrame : LinkEvent Body → Link Body
  | .response id body =>
    match l.pending.lookup id with
    | none => { l with failed := true }
    | some call =>
      match decode call body with
      | none => { l with failed := true }
      | some value => { l with pending := l.pending.erase id }.answer call.reply (.ok value)
  | .request id served =>
    if id ≤ l.lastIn then { l with failed := true } else { l with lastIn := id, failed := !served }
  | _ => { l with failed := true }

/-- One turn of the loop of `ServeDaemon`. -/
def serve (how : Attempt) : (LinkCall × Nat) ⊕ LinkEvent Body → Link Body
  | .inl (call, k) => l.serveCall how k call
  | .inr (.reply sent) => { l with failed := l.failed || !sent }
  | .inr .closed => { l with returned := true }.settlePending
  | .inr event => if l.failed then l else l.daemonFrame decode event

def step : LinkAction Body → Link Body
  | .post call =>
    if l.current && l.inbox.length < outboxSize then
      { l with inbox := l.inbox ++ [.inl (call, l.accepted)], accepted := l.accepted + 1 }
    else l
  | .arrive event => { l with inbox := l.inbox ++ [.inr event] }
  | .stop => { l with failed := true }
  | .take how =>
    match l.inbox with
    | [] => l
    | m :: rest => if l.returned then l else { l with inbox := rest }.serve decode how m
  | .retire => if l.returned then { l with current := false }.settleFederationQueue else l

def run (actions : List (LinkAction Body)) : Link Body := actions.foldl (step decode) l

/-! ## Where a call is -/

/-- How often a channel is in the inbox, pending or answered. -/
def tally (l : Link Body) (k : Nat) : Nat :=
  l.calls.count k + l.waiting.count k + (l.replies.map Prod.fst).count k

/-- Each accepted call is in one place or in hand, and the next number is free. -/
structure Settles (hand : Option Nat) (l : Link Body) : Prop where
  tally : ∀ k, l.tally k + hand.toList.count k = (List.range l.accepted).count k
  fresh : ∀ n ∈ l.pending, n ≤ l.nextID
  returned : l.returned = true → hand = none ∧ l.pending = ∅
  current : l.current = false → l.returned = true ∧ l.calls = []

namespace Settles

variable {l} {k : Nat}

theorem answer (h : l.Settles (some k)) (a : Except Code Reply) : (l.answer k a).Settles none := by
  refine ⟨fun i => ?_, h.fresh, fun r => (nomatch (h.returned r).1), h.current⟩
  have := h.tally i
  simp [Link.tally, calls, waiting, Link.answer] at this ⊢
  omega

theorem issue {call : PendingCall} (h : l.Settles (some k)) (own : call.reply = k) (sent : Bool)
    (code : Code) (failed : Bool) : (l.issue sent call code failed).Settles none := by
  subst own
  have later : ∀ n ∈ l.pending, n ≤ l.nextID + 1 := fun n hn => Nat.le_succ_of_le (h.fresh n hn)
  cases sent with
  | false =>
    exact answer (l := { l with nextID := l.nextID + 1, failed := l.failed || failed })
      { h with fresh := later } _
  | true =>
    have new : l.nextID + 1 ∉ l.pending := fun mem => absurd (h.fresh _ mem) (by omega)
    refine ⟨fun i => ?_, fun n hn => ?_, fun r => (nomatch (h.returned r).1), h.current⟩
    · have := h.tally i
      simp [Link.tally, calls, waiting, Link.issue, AList.values_insert_of_notMem new,
        List.count_cons] at this ⊢
      omega
    · rcases (AList.mem_insert _).mp hn with rfl | old
      · exact le_rfl
      · exact later n old

theorem serveCall (h : l.Settles (some k)) (how : Attempt) (call : LinkCall) :
    (l.serveCall how k call).Settles none := by
  fun_cases Link.serveCall <;> first | exact h.answer _ | exact h.issue rfl _ _ _

theorem daemonFrame (h : l.Settles none) (event : LinkEvent Body) :
    (l.daemonFrame decode event).Settles none := by
  fun_cases Link.daemonFrame
  case case3 id body call found value decoded =>
    -- The call leaves the table and is in hand until it is answered.
    refine answer (l := { l with pending := l.pending.erase id })
      ⟨fun i => ?_, ?_, fun r => ?_, h.current⟩ _
    · have moved := ((AList.values_erase_perm found).map fun call => call.reply).count_eq i
      have := h.tally i
      simp [Link.tally, calls, waiting, List.count_cons] at this moved ⊢
      omega
    · exact fun n hn => h.fresh n (AList.mem_erase.mp hn).2
    · simp [(h.returned r).2] at found
  all_goals exact { h with }

theorem serve {m : (LinkCall × Nat) ⊕ LinkEvent Body} (h : l.Settles (m.getLeft?.map Prod.snd))
    (how : Attempt) : (l.serve decode how m).Settles none := by
  fun_cases Link.serve
  case case1 => exact h.serveCall how _
  case case3 =>
    refine ⟨fun i => ?_, nofun, fun _ => ⟨rfl, rfl⟩, fun c => ⟨rfl, (h.current c).2⟩⟩
    have := h.tally i
    simp [Link.tally, calls, settlePending, waiting, lose, Function.comp_def] at this ⊢
    omega
  case case5 => exact h.daemonFrame decode _
  all_goals exact { h with }

theorem step (h : l.Settles none) (a : LinkAction Body) : (l.step decode a).Settles none := by
  fun_cases Link.step
  case case1 call free =>
    refine ⟨fun i => ?_, h.fresh, h.returned, fun c => ?_⟩
    · have := h.tally i
      simp [Link.tally, calls, waiting, List.range_succ] at this ⊢
      omega
    · simp [show l.current = false from c] at free
  case case3 =>
    refine ⟨fun i => ?_, h.fresh, h.returned, fun c => ?_⟩
    · simpa [Link.tally, calls, waiting, List.filterMap_cons] using h.tally i
    · simpa [calls, List.filterMap_cons] using h.current c
  case case7 m rest taken running =>
    refine serve (l := { l with inbox := rest }) decode
      ⟨fun i => ?_, h.fresh, (absurd · running), fun c => ?_⟩ _
    · have := h.tally i
      cases m <;> simp [Link.tally, calls, waiting, taken, List.filterMap_cons, List.count_cons]
        at this ⊢ <;> omega
    · exact absurd (h.current c).1 running
  case case8 returned =>
    refine ⟨fun i => ?_, h.fresh, h.returned, fun _ => ⟨returned, rfl⟩⟩
    have := h.tally i
    simp [Link.tally, calls, waiting, settleFederationQueue, lose, Function.comp_def] at this ⊢
    omega
  all_goals exact { h with }

end Settles

/-- Whatever is done, an accepted call is in one place, and once the daemon has let go it is
answered. -/
theorem calls_settled (traceCapable wakeCapable : Bool)
    (actions : List (LinkAction Body)) (k : Nat) :
    let l := run decode { traceCapable, wakeCapable } actions
    l.tally k = (if k < l.accepted then 1 else 0) ∧
      (l.current = false → (l.replies.map Prod.fst).count k = if k < l.accepted then 1 else 0) := by
  intro l
  have h : l.Settles none := List.foldlRecOn actions _ ⟨fun _ => rfl, nofun, nofun, nofun⟩
      fun _ h a _ => h.step decode a
  have once : l.tally k = if k < l.accepted then 1 else 0 := by simpa using h.tally k
  refine ⟨once, fun gone => ?_⟩
  obtain ⟨returned, empty⟩ := h.current gone
  simpa [tally, waiting, empty, (h.returned returned).2] using once

end Link

end Sessionbus.Federation
