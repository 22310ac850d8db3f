import Sessionbus.Session.Capacity

/-!
# The queue promise, over all events

The invariant is kept by every move of a committed lane, so it holds between any two events.
-/

namespace Sessionbus.Session

open Trace

/-! ## Moves keep the invariant -/

namespace Base

variable {env : Env} {got : Option InFrame} {s t : Session}

theorem issue (h : Base env s) {r : RoutedRequest} (hr : FromClient r) :
    Base env (s.issue env r) := by
  have hissued := issue_issued env s r
  generalize s.issue env r = t at hissued ⊢
  cases hissued with
  | refused => exact h.answerRouted _ _
  | closing => exact h.beginClose _ _
  | written adm prepared wrote =>
    cases prepared with
    | plain hplain => exact h.wrotePlain hr adm hplain wrote
    | execute call room =>
      have hcap := (hasRunCapacity_iff h.core).mp room
      exact h.ran (h.core.ran adm.room hcap .run (by simp [Command.method]) rfl wrote)
    | seed call lane idle room openCall =>
      have hcap := (hasRunCapacity_iff h.core).mp room
      exact h.ran (h.core.ran adm.room hcap (.seed r) (by simp [Command.method]) rfl wrote)

theorem live (h : Base env s) {p : Pending} (hp : s.Live p) : s.closed = false := by
  cases hc : s.closed with
  | false => rfl
  | true =>
    have hnone := h.core.detached hc
    have := hp.2
    simp [current, attached, hnone] at this

theorem source (h : Base env s) {r : RoutedRequest} {s₀ : Session} (hs : Source got s r s₀) :
    Base env s₀ ∧ FromClient r := by
  cases hs with
  | inbox =>
    rename_i q _ _ _ _
    exact ⟨h, rfl, fun p hp => ⟨rfl, rfl, rfl, p, hp, q.unseeded p hp⟩, fun hc => by cases hc⟩
  | refused _ found live retains idle =>
    have hord := h.core.shaped _ _ found retains.method retains.ordinary
    refine ⟨h.take found, retains.ordinary, fun _ _ => hord, fun hc => ?_⟩
    rw [hord.direct] at hc
    cases hc
  | collect _ found =>
    exact ⟨h.take found, rfl, fun p hp => by simp at hp, fun _ => ⟨_, rfl⟩⟩

theorem execute_idle (h : Base env s) {r : RoutedRequest} (adm : Admitted s r)
    (hexec : issuedMethod r.call = .execute) : s.runID = "" := by
  have hentry := adm.entry
  by_contra hrun
  cases hc : s.closed with
  | true => simp [admits, attached, h.core.detached hc] at hentry
  | false => simp [hexec, admits, attached, h.core.attached hc, h.core.running hc hrun] at hentry

theorem move (h : Base env s) (hm : Move env got s t) : Base env t := by
  cases hm with
  | quiet hq => exact h.quiet hq
  | numbered => exact { h with core := { h.core with } }
  | turnedAway => exact h.answerRouted _ _
  | issue hs =>
    obtain ⟨h₀, hr⟩ := h.source hs
    exact h₀.issue hr
  | answer _ found => exact (h.take found).answerRouted _ _
  | acknowledge _ found => exact ((h.take found).acknowledge _).answerRouted _ _
  | enqueue response found live retains running room =>
    rename_i id p e
    have hroom := h.core.room
    rw [openCalls_erase found, if_neg (by simp [retains.method])] at hroom
    refine (h.take found).enqueue (h.core.shaped _ _ found retains.method retains.ordinary)
      retains.openCall (h.live live) ?_ ((hasRunCapacity_iff h.core).mp room)
    simp only [take_toSessionCore]
    omega
  | closeAnswered _ found => exact h.take found
  | writeClose => exact h.writeDeferredClose
  | policyClose live first committed =>
    unfold policyClose
    rw [if_neg (by simp [live, first, committed])]
    refine Base.beginClose ?_ _ _
    exact h.plain (l := []) rfl le_rfl (by simp) (by simp)
  | disconnect _ hopen => exact h.disconnect hopen
  | settle _ hpeer => simp [h.core.lane] at hpeer
  | rename hnone => exact absurd hnone (by simp [h.core.launch, h.core.identity])
  | install hnone => exact absurd hnone (by simp [h.core.launch, h.core.identity])
  | startLane _ hnone => exact absurd hnone h.core.identity
  | opened hid => exact absurd h.core.opened hid
  | openFailed hid => exact absurd h.core.opened hid

theorem ending (h : Base env s) (he : Ending env got s t)
    (honest : NeverRefusesAcknowledged t.history) : Base env t := by
  cases he with
  | failed _ found => exact (h.take found).answerRouted _ _
  | refused response found live method run why =>
    rename_i id p e
    refine Base.answerRouted ?_ _ _
    unfold refusedByWorker at honest ⊢
    split
    · exact h.take found
    · rename_i hsame
      simp only [ne_eq, not_not] at hsame
      rw [if_neg (by simpa using hsame)] at honest
      have hrun : (s.take id).runID ≠ "" := hsame ▸ run
      rw [← hsame]
      refine (h.take found).refuse hrun ?_
      have hhist : ((s.take id).act (.refused s.runSequence)).refuseRun p.request.runID =
          (((s.take id).act (.refused s.runSequence)).clearRun
            (s.runSequence - 1)).finishRun.setDeadline
            s.previousDeadline := by
        rw [refuseRun, if_neg (by simpa using hsame)]
        simp
      simp only [take_toSessionCore] at honest
      rw [hhist] at honest
      simp only [answerRouted_history, setDeadline_history, finishRun_history, clearRun_history,
        act_history, take_history] at honest
      exact Everywhere.of_append honest
  | ready => exact h.settleTurn _ _

end Base

/-! ## The trace only grows -/

section
variable {env : Env} {got : Option InFrame} {s t : Session}

theorem refuseRun_history (s : Session) (id : String) : (s.refuseRun id).history = s.history := by
  unfold refuseRun
  split <;> simp

theorem write_unencoded {r : RoutedRequest} {c : Command}
    (henc : env.encodes (s.nextOut + 1) c = false) : (s.write env r c).history =
      s.history ++ [.unsent (s.nextOut + 1) c false, answerAct r (.code .notConnected)] := by
  unfold write sendCommand
  simp only [henc, Bool.false_eq_true, if_false, answerRouted_history]
  split <;> simp [refuseRun_history]

theorem wrote_history {r : RoutedRequest} {c : Command} (h : Wrote env s r c t) :
    s.history <+: t.history := by
  cases h with
  | sent => simp
  | unsent => split <;> simp [refuseRun_history]

theorem writeDeferredClose_history (env : Env) (s : Session) :
    s.history <+: (s.writeDeferredClose env).history := by
  have h := writeDeferredClose_closed env s
  generalize s.writeDeferredClose env = t at h ⊢
  cases h <;> simp

theorem beginClose_history (env : Env) (s : Session) (r : RoutedRequest) (p : SessionCloseRequest) :
    s.history <+: (s.beginClose env r p).history := by
  refine List.IsPrefix.trans ?_ (writeDeferredClose_history env _)
  simp [settleDeferredDeliveries_eq]

theorem issue_history (env : Env) (s : Session) (r : RoutedRequest) :
    s.history <+: (s.issue env r).history := by
  have h := issue_issued env s r
  generalize s.issue env r = t at h ⊢
  cases h with
  | refused => simp
  | closing => exact beginClose_history env s r _
  | written _ prepared wrote =>
    refine List.IsPrefix.trans ?_ (wrote_history wrote)
    cases prepared <;> simp

theorem recordAcknowledgment_history (s : Session) (ref : RunRef) :
    s.history <+: (s.recordAcknowledgment ref).history := by
  unfold recordAcknowledgment
  split
  · exact List.prefix_rfl
  · split
    · exact List.prefix_rfl
    · split
      · simp
      · exact List.prefix_rfl

theorem quiet_history (h : Quiet s t) : s.history <+: t.history := by
  obtain ⟨l, hl, -⟩ := h.history
  exact ⟨l, hl.symm⟩

theorem settlePending_history (s : Session) (code : Code) :
    s.history <+: (s.settlePending code).history := by
  rw [settlePending_eq]
  simp

theorem connectionClosed_history (s : Session) : s.history <+: s.connectionClosed.history := by
  unfold connectionClosed
  split
  · exact List.prefix_rfl
  · refine List.IsPrefix.trans ?_ (settlePending_history _ _)
    unfold detach
    split
    · split <;> simp
    · simp

theorem beginOpen_history (env : Env) (s : Session) (fresh : Bool) :
    s.history <+: (s.beginOpen env fresh).history := by
  unfold beginOpen
  extract_lets row resume
  generalize Command.openSession _ = c
  rcases sendCommand_cases env s c with ⟨-, -, -, heq⟩ | ⟨wire, encoded, -, heq⟩
  · rw [heq]
    simp
  · rw [heq]
    refine List.IsPrefix.trans ?_
      (quiet_history ((abortLaunch_quiet _ _).trans (recordStop_quiet _ _)))
    simp

theorem startLane_history (env : Env) (s : Session) (start : LaneStart) (id : Nat) :
    s.history <+: (s.startLane env start id).history := by
  unfold startLane
  extract_lets s₁ field result
  split
  · simp [s₁, claimLane]
  · have hs₁ : s₁.history = s.history := rfl
    rw [← hs₁]
    exact (quiet_history (respond_quiet env s₁ id .hello (.value .empty))).trans
      (beginOpen_history env _ _)

theorem move_history (h : Move env got s t) : s.history <+: t.history := by
  cases h with
  | quiet hq => exact quiet_history hq
  | numbered => exact List.prefix_rfl
  | turnedAway => simp
  | issue hs =>
    refine List.IsPrefix.trans ?_ (issue_history env _ _)
    cases hs <;> simp
  | answer => simp
  | acknowledge =>
    refine List.IsPrefix.trans ?_ (List.prefix_append _ _)
    refine List.IsPrefix.trans ?_ (recordAcknowledgment_history _ _)
    simp
  | enqueue => simp [Session.enqueue]
  | closeAnswered => simp
  | writeClose => exact writeDeferredClose_history env s
  | policyClose live first committed =>
    unfold policyClose
    rw [if_neg (by simp [live, first, committed])]
    exact beginClose_history env s.stopAutoClose _ _
  | disconnect => exact connectionClosed_history s
  | settle => exact settlePending_history s _
  | rename => exact List.prefix_rfl
  | install => exact List.prefix_rfl
  | startLane => exact startLane_history env s _ _
  | opened => exact List.prefix_rfl
  | openFailed => exact List.prefix_rfl

theorem startDeferred_history (env : Env) (fuel : Nat) (s : Session) :
    s.history <+: (startDeferred env fuel s).history := by
  refine startDeferred_keeps env (I := fun t => s.history <+: t.history) ?_ fuel s List.prefix_rfl
  intro t r rest h _ _
  refine h.trans (List.IsPrefix.trans ?_ (issue_history env _ _))
  simp [Session.pop]

theorem turn_history (h : Turn env got s t) : s.history <+: t.history := by
  cases h with
  | move h => exact move_history h
  | drain h =>
    refine List.IsPrefix.trans ?_ (startDeferred_history env _ _)
    cases h with
    | failed => simp
    | refused =>
      refine List.IsPrefix.trans ?_ (List.prefix_append _ _)
      unfold refusedByWorker
      split <;> simp [refuseRun_history]
    | ready =>
      refine List.IsPrefix.trans ?_ (quiet_history (respond_quiet _ _ _ _ _))
      unfold armDeadline endRun
      simp only
      split
      · split <;> simp
      · simp

end

/-! ## A queue waits for a run -/

/-- Deliveries are queued only behind a current run. -/
def Waiting (s : Session) : Prop := s.deferredDeliveries ≠ [] → s.runID ≠ ""

section
variable {env : Env} {got : Option InFrame} {s t : Session}

theorem beginClose_deferred (env : Env) (s : Session) (r : RoutedRequest)
    (p : SessionCloseRequest) : (s.beginClose env r p).deferredDeliveries = [] := by
  unfold beginClose
  rw [settleDeferredDeliveries_eq]
  generalize hs₁ : holdClose _ r p.forget = s₁
  have hq : s₁.deferredDeliveries = [] := by simp [← hs₁]
  have h := writeDeferredClose_closed env s₁
  generalize s₁.writeDeferredClose env = t at h ⊢
  cases h <;> simpa using hq

theorem wrote_deferred {r : RoutedRequest} {c : Command} (h : Wrote env s r c t) :
    t.deferredDeliveries = s.deferredDeliveries := by
  cases h with
  | sent => simp
  | unsent =>
    split
    · unfold refuseRun
      split <;> simp
    · simp

theorem issue_deferred (env : Env) (s : Session) (r : RoutedRequest) :
    (s.issue env r).deferredDeliveries = s.deferredDeliveries ∨
    (s.issue env r).deferredDeliveries = [] := by
  have h := issue_issued env s r
  generalize s.issue env r = t at h ⊢
  cases h with
  | refused => simp
  | closing => exact .inr (beginClose_deferred env s r _)
  | written _ prepared wrote =>
    rw [wrote_deferred wrote]
    cases prepared <;> simp

theorem startDeferred_waiting (env : Env) (fuel : Nat) (s : Session)
    (h : s.deferredDeliveries.length ≤ fuel) : Waiting (startDeferred env fuel s) := by
  induction fuel generalizing s with
  | zero =>
    intro hne
    exact absurd (List.length_eq_zero_iff.mp (Nat.le_zero.mp h)) hne
  | succ fuel ih =>
    unfold startDeferred
    split
    · rename_i hq
      exact fun hne => absurd hq hne
    · rename_i r rest hq
      split
      · refine ih _ ?_
        rw [hq] at h
        rcases issue_deferred env ((s.setDeferred rest).act (.started r)) r with hd | hd <;>
          rw [hd] <;> simp at h ⊢
        exact h
      · rename_i hrun
        exact fun _ => hrun

/-- A request that starts a run finds the lane idle, so nothing is queued behind it. -/
theorem issue_waiting (h : Base env s) (hw : Waiting s) {r : RoutedRequest} (hr : FromClient r) :
    Waiting (s.issue env r) := by
  have hissued := issue_issued env s r
  generalize s.issue env r = t at hissued ⊢
  cases hissued with
  | refused => exact hw
  | closing => exact fun hne => absurd (beginClose_deferred env s r _) hne
  | written adm prepared wrote =>
    have hqueue := wrote_deferred wrote
    cases prepared with
    | plain =>
      have hrun : t.runID = s.runID := by
        cases wrote with
        | sent => rfl
        | unsent => rw [if_neg (by simp [hr.idle])]; rfl
      intro hne
      rw [hrun]
      exact hw (hqueue ▸ hne)
    | execute call =>
      have hexec : issuedMethod r.call = .execute := by
        rcases call with ⟨hcall, -⟩ | ⟨hcall, -⟩ <;> rw [hcall] <;> rfl
      have hidle := h.execute_idle adm hexec
      intro hne
      rw [hqueue] at hne
      exact absurd hidle (hw hne)
    | seed call lane idle =>
      intro hne
      rw [hqueue] at hne
      exact absurd idle (hw hne)

theorem recordAcknowledgment_queue (s : Session) (ref : RunRef) :
    (s.recordAcknowledgment ref).deferredDeliveries = s.deferredDeliveries ∧
      (s.recordAcknowledgment ref).runID = s.runID := by
  unfold recordAcknowledgment
  split
  · exact ⟨rfl, rfl⟩
  · split
    · exact ⟨rfl, rfl⟩
    · split <;> exact ⟨rfl, rfl⟩

theorem move_waiting (h : Base env s) (hw : Waiting s) (hm : Move env got s t) : Waiting t := by
  cases hm with
  | quiet hq =>
    unfold Waiting
    rw [hq.core]
    exact hw
  | numbered => exact hw
  | turnedAway => exact hw
  | issue hs =>
    obtain ⟨h₀, hr⟩ := h.source hs
    refine issue_waiting h₀ ?_ hr
    cases hs <;> exact hw
  | answer => exact hw
  | acknowledge =>
    unfold Waiting
    simp only [answerRouted_toSessionCore, recordAcknowledgment_queue]
    exact hw
  | enqueue _ _ _ _ running _ => exact fun _ => running
  | closeAnswered => exact hw
  | writeClose =>
    have hc := writeDeferredClose_closed env s
    generalize s.writeDeferredClose env = u at hc ⊢
    cases hc <;> exact hw
  | policyClose live first committed =>
    unfold policyClose
    rw [if_neg (by simp [live, first, committed])]
    exact fun hne => absurd (beginClose_deferred env _ _ _) hne
  | disconnect _ hopen =>
    have hb := (h.disconnect hopen).core.closedEmpty
    refine fun hne => absurd (hb ?_) hne
    unfold connectionClosed
    rw [if_neg (by simp [hopen]), settlePending_eq]
    unfold detach
    split
    · split <;> simp
    · simp
  | settle _ hpeer => simp [h.core.lane] at hpeer
  | rename hnone => exact absurd hnone (by simp [h.core.launch, h.core.identity])
  | install hnone => exact absurd hnone (by simp [h.core.launch, h.core.identity])
  | startLane _ hnone => exact absurd hnone h.core.identity
  | opened hid => exact absurd h.core.opened hid
  | openFailed hid => exact absurd h.core.opened hid

/-- What holds between events. -/
structure Between (env : Env) (s : Session) : Prop where
  base : Base env s
  waiting : Waiting s

theorem Between.turn (h : Between env s) (ht : Turn env got s t)
    (honest : NeverRefusesAcknowledged t.history) : Between env t := by
  cases ht with
  | move hm => exact ⟨h.base.move hm, move_waiting h.base h.waiting hm⟩
  | drain he =>
    rename_i u
    have hu : NeverRefusesAcknowledged u.history := honest.of_prefix (startDeferred_history env _ u)
    refine ⟨?_, startDeferred_waiting env _ _ le_rfl⟩
    exact startDeferred_keeps env (fun _ _ _ hb hq hidle => hb.pop hq hidle) _ _
      (h.base.ending he hu)

theorem Between.turns (h : Between env s) (ht : Turns env got s t)
    (honest : NeverRefusesAcknowledged t.history) : Between env t := by
  induction ht with
  | refl => exact h
  | tail _ hstep ih =>
    exact (ih (honest.of_prefix (turn_history hstep))).turn hstep honest

theorem handleEvent_history (env : Env) (s : Session) (e : Event) :
    s.history <+: (s.handleEvent env e).history := by
  by_cases he : e = .written
  · subst he
    exact List.prefix_rfl
  · have h := handleEvent_turns env s e he
    generalize s.handleEvent env e = t at h ⊢
    induction h with
    | refl => exact List.prefix_rfl
    | tail _ hstep ih => exact ih.trans (turn_history hstep)

theorem Between.handleEvent (h : Between env s) (e : Event)
    (honest : NeverRefusesAcknowledged (s.handleEvent env e).history) :
    Between env (s.handleEvent env e) := by
  by_cases he : e = .written
  · subst he
    exact ⟨h.base.plain (l := []) rfl le_rfl (by simp [Session.handleEvent]) (by simp), h.waiting⟩
  · exact h.turns (handleEvent_turns env s e he) honest

theorem handleEvents_history (env : Env) (s : Session) (events : List Event) :
    s.history <+: (s.handleEvents env events).history := by
  induction events generalizing s with
  | nil => exact List.prefix_rfl
  | cons e events ih => exact (handleEvent_history env s e).trans (ih _)

theorem Between.handleEvents (h : Between env s) (events : List Event)
    (honest : NeverRefusesAcknowledged (s.handleEvents env events).history) :
    Between env (s.handleEvents env events) := by
  induction events generalizing s with
  | nil => exact h
  | cons e events ih =>
    exact ih (h.handleEvent e (honest.of_prefix (handleEvents_history env _ events))) honest

end

/-! ## The promise -/

/-- A lane right after its launch was committed. -/
structure FreshLane (s : Session) : Prop where
  launch : s.launch ≠ none
  identity : s.identity ≠ none
  committed : s.committed = true
  lane : s.item.peer = false
  opened : s.openID = 0
  attached : s.item.attachment = some s.self
  live : s.closed = false
  idle : s.runID = ""
  unused : s.runSequence = 0 ∧ s.acknowledgedSequence = 0
  calls : s.pending = ∅
  queue : s.deferredDeliveries = []
  history : s.history = []

theorem FreshLane.between {env : Env} {s : Session} (h : FreshLane s) : Between env s := by
  have hno : ∀ {P : Prop} id p, s.pending.lookup id = some p → P := by
    intro P id p hp
    rw [h.calls] at hp
    simp at hp
  refine ⟨⟨?_, fun hrun => absurd h.idle hrun, ?_⟩, fun hne => absurd h.queue hne⟩
  · exact {
      launch := h.launch
      identity := h.identity
      committed := h.committed
      lane := h.lane
      opened := h.opened
      attached := fun _ => h.attached
      detached := fun hc => by simp [h.live] at hc
      running := fun _ hrun => absurd h.idle hrun
      closedEmpty := fun _ => h.queue
      room := by simp [h.queue, h.calls, openCalls]
      acked := by simp [h.unused]
      capacity := by simp [h.queue, h.unused]
      openQueue := fun hne => absurd h.queue hne
      noClose := fun _ id p hp => hno id p hp
      fresh := fun id p hp => hno id p hp
      numbered := fun hrun => absurd h.idle hrun
      shaped := fun id p hp => hno id p hp
      deliveries := fun r hr => by simp [h.queue] at hr }
  · rw [h.history, h.queue]
    exact .nil env

/-- Every frame encodes; an open result would fail the launch. -/
def openEnv : Env where
  encodes := fun _ _ => true
  encodesAnswer := fun _ _ _ => true
  opened := fun _ => .failed (.code .internal) true

def newLane : Session where
  self := 1
  identity := some 2
  item := { row := { sessionID := "w", product := "p", name := "lane" }, attachment := some 1 }
  launch := some 3
  committed := true

def hello : DeliveryRequest :=
  { messageID := "m", source := { sessionID := "s", product := "p", groups := ["g"] },
    body := "hello" }

def queuedDelivery : List Event :=
  [.routed
    { destination := some 2, call := .run { sessionID := "w", input := "work" }, reply := 1 },
    .routed { destination := some 2, call := .deliver hello, reply := 2 },
    .frame (.response ⟨2, by decide⟩ (.error { code := .notRunning })),
    .frame
    (.request ⟨1, by decide⟩
      (.ready { sessionID := "w", runID := "run-/1", state := .unavailable "lost" }))]

theorem newLane_fresh : FreshLane newLane where
  launch := by simp [newLane]
  identity := by simp [newLane]
  committed := rfl
  lane := rfl
  opened := rfl
  attached := rfl
  live := rfl
  idle := rfl
  unused := ⟨rfl, rfl⟩
  calls := rfl
  queue := rfl
  history := rfl

/-- `hasRunCapacity` compares the true number of acknowledged runs with the limit. -/
theorem capacity_true (env : Env) (s : Session) (events : List Event) (fresh : FreshLane s)
    (honest : NeverRefusesAcknowledged (s.handleEvents env events).history) :
    ∀ earlier later, events = earlier ++ later →
      let t := s.handleEvents env earlier
      t.acknowledgedSequence ≤ t.runSequence ∧
        (t.hasRunCapacity = true ↔
          t.runSequence - t.acknowledgedSequence + t.deferredDeliveries.length <
          maxOperations) := by
  intro earlier later hevents t
  have hprefix : t.history <+: (s.handleEvents env events).history := by
    have happend : s.handleEvents env events = t.handleEvents env later := by
      rw [hevents]
      exact List.foldl_append
    rw [happend]
    exact handleEvents_history env t later
  have hbetween : Between env t := fresh.between.handleEvents earlier (honest.of_prefix hprefix)
  have hacked : t.acknowledgedSequence ≤ t.runSequence := hbetween.base.core.acked
  refine ⟨hacked, (hasRunCapacity_iff hbetween.base.core).trans ?_⟩
  omega

theorem capacity_true_queuedDelivery :
    let t := newLane.handleEvents openEnv queuedDelivery
    t.acknowledgedSequence ≤ t.runSequence ∧
      (t.hasRunCapacity = true ↔
        t.runSequence - t.acknowledgedSequence + t.deferredDeliveries.length < maxOperations) :=
  capacity_true openEnv newLane queuedDelivery newLane_fresh (.of_none (by decide +kernel))
    queuedDelivery [] (by simp)

/-- A client acknowledges a run, the worker confirms that and then refuses the run. -/
def refusedAfterAck : List Event :=
  [.routed
    { destination := some 2, call := .run { sessionID := "w", input := "work" }, reply := 1 },
    .routed { destination := some 2, call := .ack { sessionID := "w", runID := "run-/1" },
              reply := 2 },
    .frame (.response ⟨2, by decide⟩ (.result .empty)),
    .frame (.response ⟨1, by decide⟩ (.error { code := .internal }))]

def nextRun : Routed :=
  { destination := some 2, call := .run { sessionID := "w", input := "work" }, reply := 3 }

/-- No run is left, yet the lane has no capacity and answers the next run `busy`. -/
theorem refusedAfterAck_wraps :
    let t := newLane.handleEvents openEnv refusedAfterAck
    t.runSequence < t.acknowledgedSequence ∧ t.deferredDeliveries = [] ∧ t.runID = "" ∧
      t.hasRunCapacity = false ∧
      (t.handleEvent openEnv (.routed nextRun)).history.getLast? =
        some (.answered nextRun.request (.code .busy)) := by
  decide +kernel

end Sessionbus.Session
