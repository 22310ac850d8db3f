import Mathlib.Data.PNat.Defs
import Sessionbus.Pair.Spec
import Sessionbus.Session.Issue
import Sessionbus.Session.Loop

/-!
# A peer that replaces its identity

The session of a peer and the peer's client on the two ends of one connection. The client
says hello, again under another ID when it likes, sends requests, and answers each
`message.deliver` it has read once, in any order. It also answers `session.superseded`, but
then the session has stopped and reads no frame.
-/

namespace Sessionbus

/-- A `message.deliver` the daemon put on the connection. -/
def OutFrame.delivery : OutFrame → Option Nat
  | .request id (.deliver _) => some id
  | _ => none

def InFrame.answered : InFrame → Option Nat
  | .response id _ => some id
  | _ => none

/-- `up` has the frames that the daemon has not handled, `reading` the deliveries read and not
answered. -/
structure PeerPair where
  daemon : Session
  up : List InFrame := []
  reading : List Nat := []

namespace PeerPair

inductive Action
  /-- An event of the session that does not come from the connection. -/
  | event (e : Event)
  /-- The session handles the oldest frame of the client. -/
  | receive
  /-- The client reads the oldest frame of the session. -/
  | read
  | answer (id : ℕ+) (body : Body)
  | request (id : ℕ+) (value : InRequest)

/-- A client's request: it never says a worker's hello. -/
def ofPeer : InRequest → Bool
  | .workerHello _ => false
  | _ => true

def step (env : Env) (p : PeerPair) : Action → PeerPair
  | .event e => if e.external then { p with daemon := p.daemon.handleEvent env e } else p
  | .receive =>
    match p.up with
    | [] => p
    | frame :: rest => { p with daemon := p.daemon.handleEvent env (.frame frame), up := rest }
  | .read =>
    match p.daemon.wire.outbox with
    | [] => p
    | frame :: _ =>
      { p with daemon := p.daemon.handleEvent env .written, reading := p.reading ++
               frame.delivery.toList }
  | .answer id body =>
    if (id : Nat) ∈ p.reading then
      { p with up := p.up ++ [.response id body], reading := p.reading.erase id }
    else p
  | .request id value => if ofPeer value then { p with up := p.up ++ [.request id value] } else p

def run (env : Env) (p : PeerPair) (actions : List Action) : PeerPair := actions.foldl (step env) p

def start (self : Ptr) (randomGeneration : String) : PeerPair :=
  { daemon := .newSession self randomGeneration }

/-- The session is about to install another identity with a delivery unanswered. -/
def strands (p : PeerPair) : Action → Bool
  | .receive =>
    match p.up with
    | .request _ (.peerHello (.installed _ _ _)) :: _ =>
      !p.daemon.stopping && !p.daemon.pending.entries.isEmpty
    | _ => false
  | _ => false

/-- No step of the run strands. -/
def unstranded (env : Env) (p : PeerPair) : List Action → Bool
  | [] => true
  | a :: actions => !p.strands a && unstranded env (p.step env a) actions

end PeerPair

/-! ## What an event leaves of the calls -/

namespace Session

/-- Calls stay in the table, all but the one that is answered, and it has every new delivery on the
wire. -/
structure Carries (answered : Option Nat) (s t : Session) : Prop where
  stopping : s.stopping = true → t.stopping = true
  openID : t.openID = s.openID
  identity : s.identity.isSome = true → t.identity.isSome = true
  old : ∀ id, answered = some id → id ≤ s.nextOut
  nextOut : s.nextOut ≤ t.nextOut
  pending : t.stopping = false → ∀ id, (s.pending.lookup id).isSome = true → answered ≠ some id →
    (t.pending.lookup id).isSome = true
  outbox : ∃ l, t.wire.outbox = s.wire.outbox ++ l ∧ Numbered s.nextOut t.nextOut l ∧
    (t.stopping = false → ∀ f ∈ l, ∀ id, f.delivery = some id → (t.pending.lookup id).isSome = true)

variable {env : Env} {got : Option InFrame} {answered : Option Nat} {s t u : Session}

namespace Carries

theorem live (h : Carries answered s t) (ht : t.stopping = false) : s.stopping = false := by
  cases hs : s.stopping
  · rfl
  · exact absurd (h.stopping hs) (by simp [ht])

theorem trans (h : Carries answered s t) (h' : Carries answered t u) : Carries answered s u := by
  obtain ⟨l, hl, hn, hd⟩ := h.outbox
  obtain ⟨l', hl', hn', hd'⟩ := h'.outbox
  refine ⟨h'.stopping ∘ h.stopping, h'.openID.trans h.openID, h'.identity ∘ h.identity, h.old,
    h.nextOut.trans h'.nextOut, fun hu id hid hne =>
      ?_, l ++ l', by rw [hl', hl, List.append_assoc], hn.append hn',
    fun hu f hf id hid => ?_⟩
  · exact h'.pending hu id (h.pending (h'.live hu) id hid hne) hne
  · rcases List.mem_append.mp hf with hf | hf
    · refine h'.pending hu id (hd (h'.live hu) f hf id hid) fun heq => ?_
      -- a delivery written now is newer than the request that is answered
      have hle := h.old id heq
      have hreq : f.requestID = some id := by
        cases f with
        | request k c => cases c <;> simp_all [OutFrame.delivery, OutFrame.requestID]
        | response k b => cases hid
      have := (hn.within id (List.mem_filterMap.mpr ⟨f, hf, hreq⟩)).1
      omega
    · exact hd' hu f hf id hid

theorem of_outbox (hstop : s.stopping = true → t.stopping = true) (hopen : t.openID = s.openID)
    (hid : s.identity.isSome = true → t.identity.isSome = true)
    (hold : ∀ id, answered = some id → id ≤ s.nextOut) (hnext : s.nextOut ≤ t.nextOut)
    (hout : t.wire.outbox = s.wire.outbox)
    (hpend : t.stopping = false → ∀ id, (s.pending.lookup id).isSome = true → answered ≠ some id →
      (t.pending.lookup id).isSome = true) : Carries answered s t :=
  ⟨hstop, hopen, hid, hold, hnext, hpend, [], by simp [hout], .nil hnext, by simp⟩

theorem same (hold : ∀ id, answered = some id → id ≤ s.nextOut) (hstop : t.stopping = s.stopping)
    (hopen : t.openID = s.openID) (hid : t.identity = s.identity) (hnext : t.nextOut = s.nextOut)
    (hout : t.wire.outbox = s.wire.outbox) (hpend : t.pending = s.pending) : Carries answered s t :=
  .of_outbox (fun h => hstop.trans h) hopen (fun h => by rw [hid]; exact h) hold hnext.ge hout
    fun _ id h _ => by rw [hpend]; exact h

theorem quiet (hold : ∀ id, answered = some id → id ≤ s.nextOut) (h : Quiet s t) :
    Carries answered s t := by
  obtain ⟨l, hl, hq, hn⟩ := h.wire.outbox
  have hc := h.core
  refine ⟨h.stopping, by rw [hc], fun hi => by rw [hc]; exact hi, hold, h.nextOut,
    fun _ id hid _ => by rw [hc]; exact hid, l, hl, hn, fun _ f hf id hid => ?_⟩
  have hquiet := hq f hf
  cases f with
  | request k c => cases c <;> simp_all [OutFrame.delivery, OutFrame.quiet, Command.quiet]
  | response k b => cases hid

theorem take (id : Nat) (hold : id ≤ s.nextOut) : Carries (some id) s (s.take id) := by
  refine .of_outbox (fun h => h) rfl (fun h => h) (fun k hk => by cases hk; exact hold) le_rfl rfl
    fun _ k hk hne => ?_
  have hk' : k ≠ id := fun h => hne (by rw [h])
  rw [take_toSessionCore]
  simpa [AList.lookup_erase_ne hk'] using hk

theorem sent (hold : ∀ id, answered = some id → id ≤ s.nextOut) (r : RoutedRequest) (c : Command)
    (item : Entry) : Carries answered s (s.sent r c item) := by
  have hin : ∀ id, (s.pending.lookup id).isSome = true →
      ((s.pending.insert (s.nextOut + 1) ⟨r, c⟩).lookup id).isSome = true := fun id hid => by
    by_cases hne : id = s.nextOut + 1
    · rw [hne, AList.lookup_insert]
      rfl
    · rw [AList.lookup_insert_ne hne]
      exact hid
  refine ⟨fun h => h, rfl, fun h => h, hold, Nat.le_succ _, fun _ id hid _ => hin id hid,
    [.request (s.nextOut + 1) c], rfl, .request _ c, fun _ f hf id hid => ?_⟩
  rw [List.mem_singleton] at hf
  subst hf
  have hkey : id = s.nextOut + 1 := by
    cases c <;> simp_all [OutFrame.delivery]
  rw [sent_toSessionCore, hkey, AList.lookup_insert]
  rfl

theorem notSent (hold : ∀ id, answered = some id → id ≤ s.nextOut) {c : Command} {wire : Wire}
    {encoded : Bool} (why : Unsent env s c wire encoded) :
    Carries answered s (s.notSent c wire encoded) := by
  refine .of_outbox (fun h => h) rfl (fun h => h) hold (Nat.le_succ _) ?_ fun _ id hid _ => hid
  rcases why.wire with h | h <;> rw [notSent_wire, h]
  rfl

theorem refuseRun (hold : ∀ id, answered = some id → id ≤ s.nextOut) (id : String) :
    Carries answered s (s.refuseRun id) := by
  unfold Session.refuseRun
  split
  · exact .same hold rfl rfl rfl rfl rfl rfl
  · exact .same hold rfl rfl rfl rfl rfl rfl

theorem answerRouted (hold : ∀ id, answered = some id → id ≤ s.nextOut) (r : RoutedRequest)
    (a : Answer) : Carries answered s (s.answerRouted r a) := .same hold rfl rfl rfl rfl rfl rfl

theorem next (h : Carries answered s t) : ∀ id, answered = some id → id ≤ t.nextOut :=
  fun id hid => (h.old id hid).trans h.nextOut

theorem wrote (hold : ∀ id, answered = some id → id ≤ s.nextOut) {r : RoutedRequest} {c : Command}
    (hw : Wrote env s r c t) : Carries answered s t := by
  cases hw with
  | sent => exact .sent hold r c _
  | unsent why =>
    have hn := Carries.notSent hold why
    split
    · have hr := hn.trans (.refuseRun hn.next r.runID)
      exact hr.trans (.answerRouted hr.next r _)
    · exact hn.trans (.answerRouted hn.next r _)

theorem settleDeferredDeliveries (hold : ∀ id, answered = some id → id ≤ s.nextOut) (code : Code) :
    Carries answered s (s.settleDeferredDeliveries code) := by
  rw [settleDeferredDeliveries_eq]
  exact .same hold rfl rfl rfl rfl rfl rfl

theorem writeDeferredClose (hold : ∀ id, answered = some id → id ≤ s.nextOut) :
    Carries answered s (s.writeDeferredClose env) := by
  have hc := writeDeferredClose_closed env s
  generalize s.writeDeferredClose env = t at hc ⊢
  cases hc with
  | waits => exact .same hold rfl rfl rfl rfl rfl rfl
  | sent => exact .sent hold _ _ _
  | unsent _ _ why =>
    have hn := Carries.notSent hold why
    exact hn.trans (.quiet hn.next (recordStop_quiet _ _))

theorem beginClose (hold : ∀ id, answered = some id → id ≤ s.nextOut) (r : RoutedRequest)
    (p : SessionCloseRequest) : Carries answered s (s.beginClose env r p) := by
  unfold Session.beginClose
  have ha : Carries answered s (s.stopAutoClose.act .closing) := .same hold rfl rfl rfl rfl rfl rfl
  have hs := ha.trans (.settleDeferredDeliveries ha.next .busy)
  have hh := hs.trans (.same hs.next rfl rfl rfl rfl rfl rfl :
    Carries answered _ (((s.stopAutoClose.act .closing).settleDeferredDeliveries .busy).holdClose
      r p.forget))
  exact hh.trans (.writeDeferredClose hh.next)

theorem prepared (hold : ∀ id, answered = some id → id ≤ s.nextOut) {r r₁ : RoutedRequest}
    {c : Command} (hp : Prepared s r t r₁ c) : Carries answered s t := by
  cases hp with
  | plain => exact .same hold rfl rfl rfl rfl rfl rfl
  | execute => exact .same hold rfl rfl rfl rfl rfl rfl
  | seed => exact .same hold rfl rfl rfl rfl rfl rfl

theorem issue (hold : ∀ id, answered = some id → id ≤ s.nextOut) (r : RoutedRequest) :
    Carries answered s (s.issue env r) := by
  have hi := issue_issued env s r
  generalize s.issue env r = t at hi ⊢
  cases hi with
  | refused => exact .answerRouted hold r _
  | closing => exact .beginClose hold r _
  | written _ prepared wrote =>
    have hp := Carries.prepared hold prepared
    exact hp.trans (.wrote hp.next wrote)

theorem connectionClosed (hold : ∀ id, answered = some id → id ≤ s.nextOut) :
    Carries answered s s.connectionClosed := by
  unfold Session.connectionClosed
  split
  · exact .same hold rfl rfl rfl rfl rfl rfl
  · have hd : ∃ item listed, (s.markClosed.act .disconnected).detach =
        { s.markClosed.act .disconnected with item, listed } := by
      unfold detach
      split
      · split <;> exact ⟨_, _, rfl⟩
      · exact ⟨_, _, rfl⟩
    obtain ⟨item, listed, heq⟩ := hd
    rw [heq, settlePending_eq]
    exact .of_outbox (fun _ => rfl) rfl (fun h => h) hold le_rfl rfl fun h => by cases h

theorem settleTurn (hold : ∀ id, answered = some id → id ≤ s.nextOut) (id : Nat)
    (value : TurnReady) : Carries answered s (s.settleTurn env id value) := by
  have ha : Carries answered s (s.endRun.armDeadline value.state) := by
    unfold armDeadline
    extract_lets policy
    split
    · split
      · exact .same hold rfl rfl rfl rfl rfl rfl
      · exact .same hold rfl rfl rfl rfl rfl rfl
    · exact .same hold rfl rfl rfl rfl rfl rfl
  exact ha.trans (.quiet ha.next (respond_quiet _ _ _ _ _))

theorem startDeferredDelivery (hold : ∀ id, answered = some id → id ≤ s.nextOut) :
    Carries answered s (s.startDeferredDelivery env) := by
  refine startDeferred_keeps env (I := Carries answered s) ?_ _ s
    (.same hold rfl rfl rfl rfl rfl rfl)
  intro t r rest ht _ _
  have hp : Carries answered t (t.pop r rest) := .same ht.next rfl rfl rfl rfl rfl rfl
  exact ht.trans (hp.trans (.issue hp.next r))

theorem moved (hopen : s.openID = 0)
    (hold : ∀ id, got.bind InFrame.answered = some id → id ≤ s.nextOut)
    (hpeer : ∀ id install, got ≠ some (.request id (.peerHello install)))
    (hworker : ∀ id start, got ≠ some (.request id (.workerHello start))) (hm : Move env got s t) :
    Carries (got.bind InFrame.answered) s t := by
  have htake : ∀ {id : ℕ+} {body}, got = some (.response id body) →
      Carries (got.bind InFrame.answered) s (s.take id) := by
    rintro id body rfl
    exact .take id (hold id rfl)
  cases hm with
  | quiet hq => exact .quiet hold hq
  | numbered => exact .same hold rfl rfl rfl rfl rfl rfl
  | turnedAway => exact .answerRouted hold _ _
  | issue source =>
    cases source with
    | inbox => exact .issue hold _
    | refused response => exact (htake response).trans (.issue (htake response).next _)
    | collect response => exact (htake response).trans (.issue (htake response).next _)
  | answer response => exact (htake response).trans (.answerRouted (htake response).next _ _)
  | acknowledge response =>
    rename_i id p payload ref _ _ _
    have hack :
        Carries (got.bind InFrame.answered) (s.take id) ((s.take id).recordAcknowledgment ref) := by
      have hnext := (htake response).next
      unfold recordAcknowledgment
      split
      · exact .same hnext rfl rfl rfl rfl rfl rfl
      · split
        · exact .same hnext rfl rfl rfl rfl rfl rfl
        · split <;> exact .same hnext rfl rfl rfl rfl rfl rfl
    have h := (htake response).trans hack
    exact h.trans (.answerRouted h.next _ _)
  | enqueue response =>
    exact (htake response).trans (.same (htake response).next rfl rfl rfl rfl rfl rfl)
  | closeAnswered response => exact htake response
  | writeClose => exact .writeDeferredClose hold
  | policyClose live first committed =>
    unfold Session.policyClose
    rw [if_neg (by simp [live, first, committed])]
    have hs : Carries (got.bind InFrame.answered) s s.stopAutoClose :=
      .same hold rfl rfl rfl rfl rfl rfl
    exact hs.trans (.beginClose hs.next _ _)
  | disconnect => exact .connectionClosed hold
  | settle request => exact absurd request (hpeer _ _)
  | rename => exact .same hold rfl rfl rfl rfl rfl rfl
  | install => exact .of_outbox (fun h => h) rfl (fun _ => rfl) hold le_rfl rfl fun _ _ h _ => h
  | startLane request => exact absurd request (hworker _ _)
  | opened hid => exact absurd hopen hid
  | openFailed hid => exact absurd hopen hid

theorem ended (hold : ∀ id, got.bind InFrame.answered = some id → id ≤ s.nextOut)
    (he : Ending env got s t) : Carries (got.bind InFrame.answered) s t := by
  have htake : ∀ {id : ℕ+} {body}, got = some (.response id body) →
      Carries (got.bind InFrame.answered) s (s.take id) := by
    rintro id body rfl
    exact .take id (hold id rfl)
  cases he with
  | failed response => exact (htake response).trans (.answerRouted (htake response).next _ _)
  | refused response =>
    rename_i id p e _ _ _ _ _
    have href :
        Carries (got.bind InFrame.answered) (s.take id)
        ((s.take id).refusedByWorker p.request.runID) := by
      have hnext := (htake response).next
      unfold refusedByWorker
      split
      · exact .same hnext rfl rfl rfl rfl rfl rfl
      · have ha :
            Carries (got.bind InFrame.answered) (s.take id)
            ((s.take id).act (.refused (s.take id).runSequence)) :=
          .same hnext rfl rfl rfl rfl rfl rfl
        exact ha.trans (.refuseRun ha.next _)
    have h := (htake response).trans href
    exact h.trans (.answerRouted h.next _ _)
  | ready => exact .settleTurn hold _ _

theorem turns (ht : Turns env got s t) (hopen : s.openID = 0)
    (hold : ∀ id, got.bind InFrame.answered = some id → id ≤ s.nextOut)
    (hpeer : ∀ id install, got ≠ some (.request id (.peerHello install)))
    (hworker : ∀ id start, got ≠ some (.request id (.workerHello start))) :
    Carries (got.bind InFrame.answered) s t := by
  induction ht with
  | refl => exact .same hold rfl rfl rfl rfl rfl rfl
  | tail _ turn ih =>
    refine ih.trans ?_
    cases turn with
    | move hm => exact .moved (ih.openID.trans hopen) ih.next hpeer hworker hm
    | drain he =>
      have hend := Carries.ended ih.next he
      exact hend.trans (.startDeferredDelivery hend.next)

theorem peerHello (id : Nat) (install : Install)
    (hempty : ∀ entry row groups, install = .installed entry row groups → s.pending = ∅) :
    Carries none s (s.peerHello env id install) := by
  have hold : ∀ {u : Session}, ∀ id, (none : Option Nat) = some id → id ≤ u.nextOut := by simp
  unfold Session.peerHello
  split
  · exact .quiet hold (reject_quiet _ _ _ _)
  · split
    · exact .quiet hold (reject_quiet _ _ _ _)
    · rename_i name
      have hr : Carries none s { s with item := { s.item with row := { s.item.row with name } } } :=
        .same hold rfl rfl rfl rfl rfl rfl
      exact hr.trans (.quiet hold (respond_quiet _ _ _ _ _))
    · rename_i entry row groups
      extract_lets s₁
      have hs₁ : Carries none s s₁ := by
        simp only [s₁]
        split
        · have hset : Carries none s (s.settlePending .notConnected) := by
            rw [settlePending_eq]
            refine .of_outbox (fun h => h) rfl (fun h => h) hold le_rfl rfl fun _ k hk _ => ?_
            rw [hempty entry row groups rfl] at hk
            cases hk
          exact hset.trans (.quiet hold (detachRequests_quiet _ _ _))
        · exact .same hold rfl rfl rfl rfl rfl rfl
      have hi : Carries none s₁ (s₁.installIdentity entry row groups) :=
        .of_outbox (fun h => h) rfl (fun _ => rfl) hold le_rfl rfl fun _ _ h _ => h
      exact (hs₁.trans hi).trans (.quiet hold (respond_quiet _ _ _ _ _))

theorem handleFrame (hopen : s.openID = 0) (frame : InFrame)
    (hold : ∀ id, frame.answered = some id → id ≤ s.nextOut)
    (hworker : ∀ id start, frame ≠ .request id (.workerHello start))
    (hempty : ∀ id entry row groups,
      frame = .request id (.peerHello (.installed entry row groups)) → s.pending = ∅) :
    Carries frame.answered s (s.handleFrame env frame) := by
  by_cases hpeer : ∃ id install, frame = .request id (.peerHello install)
  · obtain ⟨id, install, rfl⟩ := hpeer
    have hnone : ∀ {u : Session}, ∀ id, (none : Option Nat) = some id → id ≤ u.nextOut := by simp
    have hnum : Carries none s { s with lastIn := id } := .same hnone rfl rfl rfl rfl rfl rfl
    have hhello : Carries none s ({ s with lastIn := id }.peerHello env id install) :=
      hnum.trans
      (.peerHello id install fun entry row groups h => hempty id entry row groups (by rw [h]))
    have hrej : ∀ code, Carries none s (s.reject true id code) := fun code =>
        .quiet hnone (reject_quiet _ _ _ _)
    unfold Session.handleFrame
    split
    · simp only [firstHello]
      split
      · exact hrej _
      · exact hhello
    · simp only [handleRequest]
      split
      · exact hrej _
      · split
        · exact hnum.trans (.quiet hnone (reject_quiet _ _ _ _))
        · exact hhello
  · refine Carries.turns (handleFrame_turns env s frame) hopen hold
      (fun id install h => hpeer ⟨id, install, ?_⟩) (fun id start h => hworker id start ?_)
    · cases h
      rfl
    · cases h
      rfl

theorem external (hopen : s.openID = 0) (e : Event) (hw : e ≠ .written) (hf : e.received = none) :
    Carries none s (s.handleEvent env e) := by
  have ht := handleEvent_turns env s e hw
  rw [hf] at ht
  exact Carries.turns ht hopen (by simp) (by simp) (by simp)

end Carries

end Session

/-! ## Deliveries in flight -/

namespace PeerPair

/-- The deliveries on the wire, with the client and answered by it. -/
def flight (p : PeerPair) : List Nat :=
  p.daemon.wire.outbox.filterMap OutFrame.delivery ++ p.reading ++ p.up.filterMap InFrame.answered

/-- While the session has not stopped, each delivery in flight is in its table, once. -/
structure Matched (p : PeerPair) : Prop where
  openID : p.daemon.openID = 0
  peer : ∀ id start, .request id (.workerHello start) ∉ p.up
  old : ∀ id ∈ p.flight, id ≤ p.daemon.nextOut
  nodup : p.daemon.stopping = false → p.flight.Nodup
  known : p.daemon.stopping = false → ∀ id ∈ p.flight, (p.daemon.pending.lookup id).isSome = true

variable {env : Env} {p q : PeerPair}

theorem delivery_sublist (l : List OutFrame) :
    (l.filterMap OutFrame.delivery).Sublist (l.filterMap OutFrame.requestID) := by
  induction l with
  | nil => exact .slnil
  | cons f l ih =>
    cases f with
    | request id c =>
      cases c
      case deliver => exact ih.cons_cons id
      all_goals exact ih.cons id
    | response id b => exact ih

/-- The session handled an event: what is in flight and not answered stays, and what is new comes
after it. -/
theorem Matched.carried (h : p.Matched) {answered : Option Nat} {t : Session} {up : List InFrame}
    (hc : p.daemon.Carries answered t)
    (hup : p.up.filterMap InFrame.answered = answered.toList ++ up.filterMap InFrame.answered)
    (hpeer : ∀ id start, .request id (.workerHello start) ∉ up) :
    Matched { p with daemon := t, up } := by
  obtain ⟨l, hl, hn, hd⟩ := hc.outbox
  have hasc : Trace.Ascending p.daemon.nextOut t.nextOut (l.filterMap OutFrame.delivery) :=
    hn.sublist (delivery_sublist l)
  -- what stays in flight
  let rest := p.daemon.wire.outbox.filterMap OutFrame.delivery ++ p.reading ++
    up.filterMap InFrame.answered
  have hflight :
      (flight { p with daemon := t, up }).Perm (l.filterMap OutFrame.delivery ++ rest) := by
    simp only [flight, rest, hl, List.filterMap_append]
    exact ((List.perm_append_comm.append_right _).append_right _).trans
      (by simp [List.append_assoc])
  have hold : p.flight.Perm (answered.toList ++ rest) := by
    simp only [flight, rest, hup]
    rw [← List.append_assoc, ← List.append_assoc]
    exact List.perm_append_comm.append_right _ |>.trans (by simp [List.append_assoc])
  have hrest : ∀ id ∈ rest, id ≤ p.daemon.nextOut := fun id hid =>
    h.old id (hold.mem_iff.mpr (List.mem_append_right _ hid))
  refine ⟨hc.openID.trans h.openID, hpeer, fun id hid => ?_, fun ht => ?_, fun ht id hid => ?_⟩
  · rcases List.mem_append.mp (hflight.mem_iff.mp hid) with hid | hid
    · exact (hasc.within id hid).2
    · exact (hrest id hid).trans hc.nextOut
  · have hnodup := hold.nodup_iff.mp (h.nodup (hc.live ht))
    refine hflight.nodup_iff.mpr (List.nodup_append.mpr ⟨?_, (List.nodup_append.mp hnodup).2.1, ?_⟩)
    · exact hasc.increasing.imp fun hlt => Nat.ne_of_lt hlt
    · intro a ha b hb heq
      have := (hasc.within a ha).1
      have := hrest b hb
      omega
  · rcases List.mem_append.mp (hflight.mem_iff.mp hid) with hid | hid
    · obtain ⟨f, hf, hfid⟩ := List.mem_filterMap.mp hid
      exact hd ht f hf id hfid
    · have hs := hc.live ht
      refine hc.pending ht id (h.known hs id (hold.mem_iff.mpr (List.mem_append_right _ hid))) ?_
      rintro rfl
      have hnodup := hold.nodup_iff.mp (h.nodup hs)
      exact (List.nodup_append.mp hnodup).2.2 id (by simp) id hid rfl

theorem Matched.moved (h : p.Matched) (hcore : q.daemon.toSessionCore = p.daemon.toSessionCore)
    (hstop : q.daemon.stopping = p.daemon.stopping) (hnext : q.daemon.nextOut = p.daemon.nextOut)
    (hflight : q.flight.Perm p.flight)
    (hpeer : ∀ id start, .request id (.workerHello start) ∉ q.up) : q.Matched where
  openID := by rw [hcore]; exact h.openID
  peer := hpeer
  old id hid := by rw [hnext]; exact h.old id (hflight.mem_iff.mp hid)
  nodup hs := hflight.nodup_iff.mpr (h.nodup (hstop ▸ hs))
  known hs id hid := by
    rw [hcore]
    exact h.known (hstop ▸ hs) id (hflight.mem_iff.mp hid)

theorem Matched.step (h : p.Matched) (a : Action) (hs : p.strands a = false) :
    (p.step env a).Matched := by
  cases a with
  | event e =>
    simp only [PeerPair.step]
    split
    · rename_i hext
      have hc : p.daemon.Carries none (p.daemon.handleEvent env e) := by
        refine .external h.openID e ?_ ?_
        · rintro rfl
          cases hext
        · cases e <;> first | rfl | cases hext
      exact h.carried hc rfl h.peer
    · exact h
  | receive =>
    simp only [PeerPair.step]
    split
    · exact h
    · rename_i frame rest hup
      have hrest : ∀ id start, .request id (.workerHello start) ∉ rest := fun id start hmem =>
        h.peer id start (by rw [hup]; exact List.mem_cons_of_mem _ hmem)
      have hold : ∀ id, frame.answered = some id → id ≤ p.daemon.nextOut := fun id hid => by
        refine h.old id (List.mem_append_right _ ?_)
        rw [hup]
        exact List.mem_filterMap.mpr ⟨frame, List.mem_cons_self, hid⟩
      have hcount : p.up.filterMap InFrame.answered = frame.answered.toList ++
          rest.filterMap InFrame.answered := by
        rw [hup, List.filterMap_cons]
        cases frame.answered <;> rfl
      refine h.carried ?_ hcount hrest
      simp only [Session.handleEvent]
      split
      · rename_i hstop
        refine .of_outbox (fun h => h) rfl (fun h => h) hold le_rfl rfl fun hlive => ?_
        rw [hstop] at hlive
        cases hlive
      · rename_i hlive
        refine .handleFrame h.openID frame hold (fun id start hf => ?_)
          fun id entry row groups hf => ?_
        · refine h.peer id start ?_
          rw [hup, hf]
          exact List.mem_cons_self
        · subst hf
          simp only [strands, hup, Bool.and_eq_false_iff, Bool.not_eq_false'] at hs
          rcases hs with hs | hs
          · exact absurd hs hlive
          · exact AList.ext (List.isEmpty_iff.mp hs)
  | read =>
    simp only [PeerPair.step]
    split
    · exact h
    · rename_i frame rest hout
      refine h.moved rfl rfl rfl ?_ h.peer
      simp only [flight, Session.handleEvent, Wire.taken, hout, List.tail_cons, List.filterMap_cons]
      cases hd : frame.delivery with
      | none => simp
      | some id =>
        simp only [Option.toList_some, List.append_assoc, List.cons_append]
        rw [List.nil_append, ← List.append_assoc, ← List.append_assoc]
        exact List.perm_middle
  | answer id body =>
    simp only [PeerPair.step]
    split
    · rename_i hmem
      refine h.moved rfl rfl rfl ?_ fun k start hk => ?_
      · simp only [flight, List.filterMap_append, List.append_assoc]
        refine List.Perm.append_left _ ?_
        have hperm := List.perm_cons_erase hmem
        refine .trans ?_ (hperm.symm.append_right _)
        simp only [List.filterMap_cons, InFrame.answered, List.filterMap_nil, ← List.append_assoc,
          List.cons_append]
        exact List.perm_append_singleton _ _
      · rcases List.mem_append.mp hk with hk | hk
        · exact h.peer k start hk
        · cases List.mem_singleton.mp hk
    · exact h
  | request id value =>
    simp only [PeerPair.step]
    split
    · rename_i hval
      refine h.moved rfl rfl rfl ?_ fun k start hk => ?_
      · simp [flight, List.filterMap_append, List.filterMap_cons, InFrame.answered]
      · rcases List.mem_append.mp hk with hk | hk
        · exact h.peer k start hk
        · cases List.mem_singleton.mp hk
          cases hval
    · exact h

theorem Matched.run (h : p.Matched) (actions : List Action) (hs : p.unstranded env actions = true) :
    (p.run env actions).Matched := by
  induction actions generalizing p with
  | nil => exact h
  | cons a actions ih =>
    simp only [unstranded, Bool.and_eq_true, Bool.not_eq_true'] at hs
    exact ih (h.step a hs.1) hs.2

/-- Unless the session installs another identity with a delivery unanswered, each response that it
will read has its request in the table. -/
theorem responses_matched (env : Env) (self : Ptr) (randomGeneration : String)
    (actions : List Action) (hs : (start self randomGeneration).unstranded env actions = true) :
    let p := (start self randomGeneration).run env actions
    p.daemon.stopping = false → ∀ (id : ℕ+) (body : Body), .response id body ∈ p.up →
      ∃ r, p.daemon.pending.lookup (id : Nat) = some r := by
  intro p hlive id body hmem
  have hstart : (start self randomGeneration).Matched := by
    refine ⟨rfl, ?_, ?_, ?_, ?_⟩ <;> simp [start, flight, Session.newSession]
  have h : p.Matched := hstart.run actions hs
  refine Option.isSome_iff_exists.mp (h.known hlive id (List.mem_append_right _ ?_))
  exact List.mem_filterMap.mpr ⟨_, hmem, rfl⟩

/-- A peer says hello and gets a message, which its client reads. -/
def delivered : List Action :=
  [.request (Nat.succPNat 0) (.peerHello (.installed 7 { sessionID := "a@h", product := "p" } [])),
    .receive,
    .event
    (.routed
      { destination := some 7, call := .deliver { Session.hello with messageID := "peer" },
        reply := 0 }),
    .read, .read]

/-- The client answers, and only then its next hello is read. -/
theorem responses_matched_delivered :
    let actions := delivered ++ [.answer (Nat.succPNat 0) (.result (.receipt .written))]
    (start 1 "run-").unstranded Session.openEnv actions = true ∧
      ∃ r, ((start 1 "run-").run Session.openEnv actions).daemon.pending.lookup 1 = some r :=
  ⟨by decide +kernel, responses_matched Session.openEnv 1 "run-" _ (by decide +kernel)
    (by decide +kernel) (Nat.succPNat 0) (.result (.receipt .written)) (List.mem_singleton.mpr rfl)⟩

/-- The client says hello under another ID and then answers a message: the session finds no request
for the answer and closes the connection. -/
theorem replacement_closes :
    let actions :=
      delivered ++
      [.request (Nat.succPNat 1)
        (.peerHello (.installed 8 { sessionID := "b@h", product := "p" } [])),
      .answer (Nat.succPNat 0) (.result (.receipt .written)), .receive]
    let p := (start 1 "run-").run Session.openEnv actions
    p.daemon.identity = some 8 ∧ p.daemon.current = true ∧ p.daemon.stopping = false ∧
    p.daemon.wire.fdClosed = false ∧
      p.up.filterMap InFrame.answered = [1] ∧ p.daemon.pending.lookup 1 = none ∧
      (p.step Session.openEnv .receive).daemon.stopping = true ∧
      (p.step Session.openEnv .receive).daemon.wire.fdClosed = true := by
  decide +kernel

end PeerPair

end Sessionbus
