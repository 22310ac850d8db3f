import Sessionbus.Session.Promise

/-!
# The run slot and the auto-close deadline

A reservation takes the run slot of a lane and puts the auto-close deadline away; a refusal
gives both back, and `turn.ready` arms a new deadline. The slot at rest is the slot of an
idle lane, or the one from before the current run was reserved. Only `turn.ready` changes
it, so however many reservations are refused, each gives back what it took.
-/

namespace Sessionbus.Session

/-- What a reservation takes and a refusal gives back. -/
structure RunSlot where
  deadline : Option Nat
  sequence : Nat
  runID : String
  fromTrace : Bool
  fromCompletion : Bool
  running : Bool
deriving DecidableEq, Repr

def slot (s : Session) : RunSlot :=
  ⟨s.deadline, s.runSequence, s.runID, s.runFromTrace, s.runFromCompletion, s.item.running⟩

/-- The slot from before the current run was reserved. -/
def slotBefore (s : Session) : RunSlot :=
  ⟨s.previousDeadline, s.runSequence - 1, "", false, false, false⟩

def resting (s : Session) : RunSlot := if s.runID = "" then s.slot else s.slotBefore

theorem resting_idle {s : Session} (h : s.runID = "") : s.resting = s.slot := if_pos h

/-- The running mark and the timer follow the run slot. Only a session that is stopping has a
deadline and no timer. -/
structure Timed (s : Session) : Prop where
  running : s.runID ≠ "" → s.deadline = none ∧ s.autoClose = false ∧ s.item.running = true
  idle : s.runID = "" → s.item.running = false ∧ s.runFromTrace = false ∧
    s.runFromCompletion = false
  armed : s.autoClose = true → s.deadline.isSome = true
  timer : s.stopping = false → s.autoClose = s.deadline.isSome

/-- A committed lane that, while it is not closing, has the slot `x` at rest. -/
structure Keeping (x : RunSlot) (s : Session) : Prop where
  launch : s.launch ≠ none
  identity : s.identity ≠ none
  committed : s.committed = true
  lane : s.item.peer = false
  opened : s.openID = 0
  queue : ∀ r ∈ s.deferredDeliveries, r.runID = ""
  attached : s.closed = false → s.item.attachment = some s.self
  timed : s.closed = false → s.closeCall = none → Timed s
  rests : s.closed = false → s.closeCall = none → s.resting = x

/-- The same lane on the same connection. -/
structure SameLane (s t : Session) : Prop where
  self : t.self = s.self
  launch : t.launch = s.launch
  identity : t.identity = s.identity
  committed : t.committed = s.committed
  peer : t.item.peer = s.item.peer
  attachment : t.item.attachment = s.item.attachment
  openID : t.openID = s.openID
  closed : t.closed = s.closed

theorem SameLane.refl (s : Session) : SameLane s s := ⟨rfl, rfl, rfl, rfl, rfl, rfl, rfl, rfl⟩

/-- The deadline that `turn.ready` arms. -/
def readyDeadline (s : Session) : ReadyState → Option Nat
  | .done _ =>
    let policy := s.item.row.policy.getD {}
    if policy.autoCloseMS > 0 then some (s.clock + policy.autoCloseMS) else none
  | .unavailable _ => none

/-- The slot that the ready of the current run leaves. -/
def readySlot (s : Session) (value : TurnReady) : RunSlot :=
  ⟨s.readyDeadline value.state, s.runSequence, "", false, false, false⟩

/-- The ready frame that ends the current run. -/
def endsRun (s : Session) : Event → Option TurnReady
  | .frame (.request id (.ready value)) =>
    if s.stopping = false ∧ s.lastIn < id ∧ s.current = true ∧ s.readyMatches value = true then
      some value
    else none
  | _ => none

/-- The slot at rest after an event. -/
def restingAfter (s : Session) (e : Event) : RunSlot :=
  match s.endsRun e with
  | some value => s.readySlot value
  | none => s.resting

namespace Keeping

variable {env : Env} {x y : RunSlot} {s t : Session}

theorem next (h : Keeping x s) (lane : SameLane s t)
    (queue : ∀ r ∈ t.deferredDeliveries, r.runID = "")
    (slot : t.closed = false → t.closeCall = none → Timed t ∧ t.resting = y) : Keeping y t where
  launch := lane.launch ▸ h.launch
  identity := lane.identity ▸ h.identity
  committed := lane.committed ▸ h.committed
  lane := lane.peer ▸ h.lane
  opened := lane.openID ▸ h.opened
  queue := queue
  attached := by
    rw [lane.closed, lane.attachment, lane.self]
    exact h.attached
  timed := fun hopen hcall => (slot hopen hcall).1
  rests := fun hopen hcall => (slot hopen hcall).2

theorem same (h : Keeping x s) {pending queue lastIn acknowledgedSequence}
    (core : t.toSessionCore = { s.toSessionCore with
      pending, deferredDeliveries := queue, lastIn, acknowledgedSequence })
    (unseeded : ∀ r ∈ queue, r.runID = "") (stopping : s.stopping = true → t.stopping = true)
    (timer : t.autoClose = s.autoClose ∨ t.autoClose = false ∧
      (t.stopping = true ∨ t.closeCall ≠ none)) :
    Keeping x t := by
  refine h.next (by constructor <;> simp only [core]) (by simpa only [core] using unseeded) ?_
  intro hopen hcall
  have hopen' : s.closed = false := by simpa only [core] using hopen
  have hcall' : s.closeCall = none := by simpa only [core] using hcall
  have hs := h.timed hopen' hcall'
  have hoff : s.autoClose = false → t.autoClose = false := by
    intro hs
    rcases timer with heq | ⟨hoff, -⟩
    · rw [heq, hs]
    · exact hoff
  refine ⟨⟨?_, ?_, ?_, ?_⟩, ?_⟩
  · intro hrun
    simp only [core] at hrun ⊢
    obtain ⟨hd, ha, hr⟩ := hs.running hrun
    exact ⟨hd, hoff ha, hr⟩
  · simpa only [core] using hs.idle
  · intro hon
    simp only [core]
    refine hs.armed ?_
    by_contra hnot
    simp [hoff (by simpa using hnot)] at hon
  · intro hlive
    have hlive' : s.stopping = false := by
      by_contra hstop
      simp [stopping (by simpa using hstop)] at hlive
    rcases timer with heq | ⟨-, hstop | hclose⟩
    · rw [heq, core]
      exact hs.timer hlive'
    · simp [hstop] at hlive
    · exact absurd hcall hclose
  · have hrest : t.resting = s.resting := by simp only [resting, slot, slotBefore, core]
    rw [hrest]
    exact h.rests hopen' hcall'

theorem quiet (h : Keeping x s) (hq : Quiet s t) : Keeping x t := by
  refine h.same hq.core h.queue hq.stopping (hq.autoClose.imp_right fun hoff => ⟨hoff.1, ?_⟩)
  rcases hoff.2 with hstop | hclose | huncommitted
  · exact .inl hstop
  · exact .inr hclose
  · simp [hq.core, h.committed] at huncommitted

theorem answerRouted (h : Keeping x s) (r : RoutedRequest) (a : Answer) :
    Keeping x (s.answerRouted r a) :=
  h.same rfl h.queue (fun hs => hs) (.inl rfl)

theorem take (h : Keeping x s) (id : Nat) : Keeping x (s.take id) :=
  h.same rfl h.queue (fun hs => hs) (.inl rfl)

theorem acknowledge (h : Keeping x s) (ref : RunRef) : Keeping x (s.recordAcknowledgment ref) := by
  unfold recordAcknowledgment
  split
  · exact h
  · split
    · exact h
    · split
      · exact h.same rfl h.queue (fun hs => hs) (.inl rfl)
      · exact h

theorem enqueue (h : Keeping x s) {r : RoutedRequest} (hr : r.runID = "") :
    Keeping x (s.enqueue r) := by
  refine h.same rfl ?_ (fun hs => hs) (.inl rfl)
  intro q hq
  rcases List.mem_append.mp hq with hq | hq
  · exact h.queue q hq
  · rw [List.mem_singleton.mp hq]
    exact hr

theorem closing (h : Keeping x s) (lane : SameLane s t)
    (queue : ∀ r ∈ t.deferredDeliveries, r.runID = "") (call : t.closeCall ≠ none) : Keeping x t :=
  h.next lane queue fun _ hnone => absurd hnone call

theorem writeDeferredClose (h : Keeping x s) : Keeping x (s.writeDeferredClose env) := by
  have hclosed := writeDeferredClose_closed env s
  generalize s.writeDeferredClose env = t at hclosed ⊢
  cases hclosed with
  | waits => exact h
  | sent call => exact h.closing ⟨rfl, rfl, rfl, rfl, rfl, rfl, rfl, rfl⟩ h.queue (by simp [call])
  | unsent call => exact h.closing ⟨rfl, rfl, rfl, rfl, rfl, rfl, rfl, rfl⟩ h.queue (by simp [call])

theorem beginClose (h : Keeping x s) (lane : SameLane s t) (r : RoutedRequest)
    (p : SessionCloseRequest) : Keeping x (t.beginClose env r p) := by
  unfold Session.beginClose
  refine writeDeferredClose ?_
  rw [settleDeferredDeliveries_eq]
  exact h.closing ⟨lane.self, lane.launch, lane.identity, lane.committed, lane.peer,
    lane.attachment, lane.openID, lane.closed⟩ (by simp) (Option.some_ne_none r)

/-! ### Reservations -/

theorem idle_of_admitted (h : Keeping x s) (hopen : s.closed = false) (hcall : s.closeCall = none)
    (hentry : s.admits .execute = none) : s.runID = "" := by
  by_contra hrun
  obtain ⟨-, -, hrunning⟩ := (h.timed hopen hcall).running hrun
  simp [admits, Session.attached, h.attached hopen, hrunning] at hentry

/-- The slot before a reservation is the one the idle lane had. -/
theorem slotBefore_reserved (h : Timed s) (hidle : s.runID = "") {s₁ : Session}
    (hs : Reserves s s₁) : s₁.slotBefore = s.resting := by
  obtain ⟨hrunning, htrace, hcompletion⟩ := h.idle hidle
  cases hs <;> simp [slotBefore, resting, slot, hidle, hrunning, htrace, hcompletion]

theorem reservedSent (h : Keeping x s) {s₁ : Session} (hs : Reserves s s₁)
    (hidle : s.closed = false → s.closeCall = none → s.runID = "")
    {r : RoutedRequest} (hr : r.runID ≠ "") (c : Command) :
    Keeping x (s₁.sent r c (s₁.runningItem r)) := by
  have hrun : s₁.runID ≠ "" := by cases hs <;> exact runText_ne _ _
  have hlane : SameLane s (s₁.sent r c (s₁.runningItem r)) := by cases hs <;> constructor <;> rfl
  have hcore : s₁.closed = s.closed ∧ s₁.closeCall = s.closeCall ∧
      s₁.deferredDeliveries = s.deferredDeliveries ∧ s₁.deadline = none ∧ s₁.autoClose = false := by
    cases hs <;> exact ⟨rfl, rfl, rfl, rfl, rfl⟩
  obtain ⟨hclosed, hclose, hqueue, hdeadline, htimer⟩ := hcore
  refine h.next hlane ?_ ?_
  · simpa [hqueue] using h.queue
  intro hopen hcall
  simp only [sent_toSessionCore, hclosed, hclose] at hopen hcall
  refine ⟨⟨?_, ?_, ?_, ?_⟩, ?_⟩
  · simp [hdeadline, htimer, runningItem, hr]
  · simp [hrun]
  · simp [htimer]
  · simp [hdeadline, htimer]
  · have hrest : (s₁.sent r c (s₁.runningItem r)).resting = s₁.slotBefore := by
      simp [resting, slotBefore, hrun]
    rw [hrest, slotBefore_reserved (h.timed hopen hcall) (hidle hopen hcall) hs]
    exact h.rests hopen hcall

/-- A refusal gives back the slot from before the run, whether or not the entry was marked. -/
theorem refused (h : Keeping y s) (lane : SameLane s t)
    (queue : ∀ r ∈ t.deferredDeliveries, r.runID = "")
    (before : t.closed = false → t.closeCall = none → t.slotBefore = x) :
    Keeping x (t.refuseRun t.runID) := by
  have hback :
      t.refuseRun t.runID = (t.clearRun (t.runSequence - 1)).finishRun.setDeadline
      t.previousDeadline := by
    simp [refuseRun]
  rw [hback]
  refine h.next ⟨lane.self, lane.launch, lane.identity, lane.committed, lane.peer, lane.attachment,
    lane.openID, lane.closed⟩ queue ?_
  intro hopen hcall
  have hopen : t.closed = false := hopen
  have hattached : t.attached = true := by
    simp [Session.attached, lane.attachment, lane.self, h.attached (lane.closed ▸ hopen)]
  have hmark : (t.clearRun (t.runSequence - 1)).attached = true := hattached
  have hslot : ((t.clearRun (t.runSequence - 1)).finishRun.setDeadline t.previousDeadline).resting =
      t.slotBefore := by
    simp [resting, slot, slotBefore, hmark]
  refine ⟨⟨fun hrun => absurd rfl hrun, fun _ => ⟨?_, rfl, rfl⟩, fun hon => hon, fun _ => rfl⟩, ?_⟩
  · simp [hmark]
  · rw [hslot]
    exact before hopen hcall

theorem reservedUnsent (h : Keeping x s) {s₁ : Session} (hs : Reserves s s₁)
    (hidle : s.closed = false → s.closeCall = none → s.runID = "")
    (c : Command) (wire : Wire) (encoded : Bool) :
    Keeping x ((s₁.notSent c wire encoded).refuseRun s₁.runID) := by
  have hlane : SameLane s (s₁.notSent c wire encoded) := by cases hs <;> constructor <;> rfl
  have hcore : s₁.closed = s.closed ∧ s₁.closeCall = s.closeCall ∧
      s₁.deferredDeliveries = s.deferredDeliveries := by
    cases hs <;> exact ⟨rfl, rfl, rfl⟩
  obtain ⟨hclosed, hclose, hqueue⟩ := hcore
  refine h.refused hlane (by simpa [hqueue] using h.queue) ?_
  intro hopen hcall
  simp only [notSent_toSessionCore, hclosed, hclose] at hopen hcall
  calc (s₁.notSent c wire encoded).slotBefore = s₁.slotBefore := rfl
    _ = s.resting := slotBefore_reserved (h.timed hopen hcall) (hidle hopen hcall) hs
    _ = x := h.rests hopen hcall

theorem ran (h : Keeping x s) {s₁ : Session} (hs : Reserves s s₁)
    (hidle : s.closed = false → s.closeCall = none → s.runID = "") {r : RoutedRequest}
    (hr : r.runID = s₁.runID) {c : Command} (hw : Wrote env s₁ r c t) : Keeping x t := by
  have hrun : r.runID ≠ "" := by
    rw [hr]
    cases hs <;> exact runText_ne _ _
  cases hw with
  | sent => exact h.reservedSent hs hidle hrun c
  | unsent =>
    rw [if_pos hrun, hr]
    exact (h.reservedUnsent hs hidle c _ _).answerRouted _ _

theorem wrotePlain (h : Keeping x s) {r : RoutedRequest} (hr : r.runID = "") {c : Command}
    (hw : Wrote env s r c t) : Keeping x t := by
  cases hw with
  | sent =>
    have hitem : s.runningItem r = s.item := by simp [runningItem, hr]
    rw [hitem]
    exact h.same rfl h.queue (fun hs => hs) (.inl rfl)
  | unsent =>
    rw [if_neg (by simp [hr])]
    refine Keeping.answerRouted ?_ _ _
    exact h.same rfl h.queue (fun hs => hs) (.inl rfl)

theorem issue (h : Keeping x s) {r : RoutedRequest} (hr : r.runID = "") :
    Keeping x (s.issue env r) := by
  have hissued := issue_issued env s r
  generalize s.issue env r = t at hissued ⊢
  cases hissued with
  | refused => exact h.answerRouted _ _
  | closing => exact h.beginClose (.refl s) _ _
  | written admitted prepared wrote =>
    cases prepared with
    | plain => exact h.wrotePlain hr wrote
    | execute call room =>
      have hentry := admitted.entry
      refine h.ran .run (fun hopen hcall => h.idle_of_admitted hopen hcall ?_) rfl wrote
      rcases call with ⟨hcall, -⟩ | ⟨hcall, -⟩ <;> simpa only [hcall, issuedMethod] using hentry
    | seed call lane idle => exact h.ran (.seed r) (fun _ _ => idle) rfl wrote

/-! ### Moves -/

theorem source {got : Option InFrame} {s₀ : Session} {r : RoutedRequest} (h : Keeping x s)
    (hs : Source got s r s₀) : Keeping x s₀ ∧ r.runID = "" := by
  cases hs with
  | inbox => exact ⟨h, rfl⟩
  | refused _ _ _ retains => exact ⟨h.take _, retains.ordinary⟩
  | collect => exact ⟨h.take _, rfl⟩

theorem disconnect (h : Keeping x s) (hopen : s.closed = false) : Keeping x s.connectionClosed := by
  unfold connectionClosed
  rw [if_neg (by simp [hopen]), settlePending_eq, detach]
  have hattached : (s.markClosed.act .disconnected).attached = true := by
    simp [Session.attached, h.attached hopen]
  rw [if_pos hattached, if_neg (by simp [h.lane])]
  refine ⟨h.launch, h.identity, h.committed, h.lane, h.opened, by simp, ?_, ?_, ?_⟩
  all_goals
    intro hclosed
    cases hclosed

theorem move {got : Option InFrame} (h : Keeping x s) (hm : Move env got s t) : Keeping x t := by
  cases hm with
  | quiet hq => exact h.quiet hq
  | numbered => exact h.same rfl h.queue (fun hs => hs) (.inl rfl)
  | turnedAway => exact h.answerRouted _ _
  | issue hs =>
    obtain ⟨h₀, hr⟩ := h.source hs
    exact h₀.issue hr
  | answer => exact (h.take _).answerRouted _ _
  | acknowledge => exact ((h.take _).acknowledge _).answerRouted _ _
  | enqueue _ _ _ retains => exact (h.take _).enqueue retains.ordinary
  | closeAnswered => exact h.take _
  | writeClose => exact h.writeDeferredClose
  | policyClose live first committed =>
    unfold policyClose
    rw [if_neg (by simp [live, first, committed])]
    exact h.beginClose ⟨rfl, rfl, rfl, rfl, rfl, rfl, rfl, rfl⟩ _ _
  | disconnect _ hopen => exact h.disconnect hopen
  | settle _ hpeer => simp [h.lane] at hpeer
  | rename hnone => exact absurd hnone (by simp [h.launch, h.identity])
  | install hnone => exact absurd hnone (by simp [h.launch, h.identity])
  | startLane _ hnone => exact absurd hnone h.identity
  | opened hid => exact absurd h.opened hid
  | openFailed hid => exact absurd h.opened hid

theorem refusedByWorker (h : Keeping x s) {id : String} (hid : id ≠ "") :
    Keeping x (s.refusedByWorker id) := by
  unfold Session.refusedByWorker
  split
  · exact h
  · rename_i hsame
    have hsame : s.runID = id := not_not.mp hsame
    subst hsame
    refine h.refused (t := s.act (.refused s.runSequence))
      ⟨rfl, rfl, rfl, rfl, rfl, rfl, rfl, rfl⟩ h.queue ?_
    intro hopen hcall
    rw [← h.rests hopen hcall, resting, if_neg hid]
    rfl

theorem startDeferredDelivery (h : Keeping x s) : Keeping x (s.startDeferredDelivery env) := by
  refine startDeferred_keeps env ?_ _ s h
  intro t r rest ht hqueue _
  have hr : r.runID = "" := ht.queue r (by simp [hqueue])
  refine Keeping.issue ?_ hr
  refine ht.same rfl (fun q hq => ht.queue q ?_) (fun hs => hs) (.inl rfl)
  simp [hqueue, hq]

theorem turn {got : Option InFrame} (h : Keeping x s)
    (hready : ∀ id value, got ≠ some (.request id (.ready value))) (ht : Turn env got s t) :
    Keeping x t := by
  cases ht with
  | move hm => exact h.move hm
  | drain he =>
    refine startDeferredDelivery ?_
    cases he with
    | failed => exact (h.take _).answerRouted _ _
    | refused _ _ _ _ run => exact ((h.take _).refusedByWorker run).answerRouted _ _
    | ready request => exact absurd request (hready _ _)

theorem turns {got : Option InFrame} (h : Keeping x s)
    (hready : ∀ id value, got ≠ some (.request id (.ready value))) (ht : Turns env got s t) :
    Keeping x t := by
  induction ht with
  | refl => exact h
  | tail _ step ih => exact ih.turn hready step

/-! ### `turn.ready` -/

theorem armDeadline_cases (s : Session) (state : ReadyState) :
    s.armDeadline state = s.setDeadline (s.readyDeadline state) ∨
      s.armDeadline state = s ∧ (s.closeCall = none → s.readyDeadline state = none) := by
  cases state with
  | unavailable message => exact .inr ⟨rfl, fun _ => rfl⟩
  | done value =>
    unfold armDeadline readyDeadline
    extract_lets policy
    by_cases hms : policy.autoCloseMS > 0
    · cases hcall : s.closeCall with
      | none => exact .inl (by simp [hms])
      | some r => exact .inr (by simp)
    · exact .inr (by simp [hms])

theorem ended (h : Keeping x s) (hrun : s.runID ≠ "") (value : TurnReady) :
    Keeping (s.readySlot value) (s.endRun.armDeadline value.state) := by
  have hlane : SameLane s (s.endRun.armDeadline value.state) ∧
      (s.endRun.armDeadline value.state).deferredDeliveries = s.deferredDeliveries ∧
      (s.endRun.armDeadline value.state).closeCall = s.closeCall := by
    rcases armDeadline_cases s.endRun value.state with heq | ⟨heq, -⟩ <;> rw [heq] <;>
      exact ⟨⟨rfl, rfl, rfl, rfl, rfl, rfl, rfl, rfl⟩, rfl, rfl⟩
  refine h.next hlane.1 (by rw [hlane.2.1]; exact h.queue) ?_
  rw [hlane.1.closed, hlane.2.2]
  intro hopen hcall
  obtain ⟨hdeadline, htimer, -⟩ := (h.timed hopen hcall).running hrun
  have hmark : (s.clearRun s.runSequence).attached = true := by
    simp [Session.attached, h.attached hopen]
  have hready : s.endRun.readyDeadline value.state = s.readyDeadline value.state := by
    cases value.state <;> rfl
  rcases armDeadline_cases s.endRun value.state with heq | ⟨heq, hnone⟩
  · rw [heq, hready]
    refine ⟨⟨fun hne => absurd rfl hne, fun _ => ⟨?_, rfl, rfl⟩, fun hon => hon, fun _ => rfl⟩, ?_⟩
    · simp [endRun, hmark]
    · simp [resting, slot, readySlot, endRun, hmark]
  · rw [heq]
    rw [hready] at hnone
    refine ⟨⟨fun hne => absurd rfl hne, fun _ => ⟨?_, rfl, rfl⟩, ?_, ?_⟩, ?_⟩
    · simp [endRun, hmark]
    · simp [endRun, htimer]
    · simp [endRun, htimer, hdeadline]
    · simp [resting, slot, readySlot, endRun, hmark, hdeadline, hnone hcall]

theorem ready (h : Keeping x s) (id : Nat) (value : TurnReady)
    (hmatch : s.readyMatches value = true) :
    Keeping (s.readySlot value) (s.turnReady env id value) := by
  have hrun : s.runID ≠ "" := by
    simp only [readyMatches, Bool.and_eq_true, bne_iff_ne] at hmatch
    exact hmatch.1.2
  unfold turnReady
  rw [if_pos hmatch]
  refine Keeping.quiet ?_ (notifyCompletion_quiet _ _ _ _)
  refine startDeferredDelivery ?_
  exact (h.ended hrun value).quiet (respond_quiet _ _ _ _ _)

theorem handleReady_eq (h : Keeping x s) (id : ℕ+) (value : TurnReady) :
    s.handleEvent env (.frame (.request id (.ready value))) =
      if s.stopping then s
      else if (id : Nat) ≤ s.lastIn then s.reject true id .invalidFrame
      else if !s.current then { s with lastIn := (id : Nat) }.supersede env
      else { s with lastIn := (id : Nat) }.turnReady env id value := by
  have hid : ¬ s.identity.isNone = true := by simpa using h.identity
  have hcommitted : ¬ (({ s with lastIn := (id : Nat) }).launch.isSome &&
      !({ s with lastIn := (id : Nat) }).committed) = true := by simp [h.committed]
  show (if s.stopping then s else s.handleFrame env (.request id (.ready value))) = _
  unfold handleFrame
  rw [if_neg hid]
  show (if s.stopping then s else s.handleRequest env id (.ready value)) = _
  unfold handleRequest
  show (if s.stopping then s else if (id : Nat) ≤ s.lastIn then s.reject true id .invalidFrame else
    if ({ s with lastIn := (id : Nat) }).launch.isSome &&
        !({ s with lastIn := (id : Nat) }).committed then _ else _) = _
  rw [if_neg hcommitted]
  rfl

theorem handleReady (h : Keeping s.resting s) (id : ℕ+) (value : TurnReady) :
    Keeping (s.restingAfter (.frame (.request id (.ready value))))
      (s.handleEvent env (.frame (.request id (.ready value)))) := by
  have hnum : Keeping s.resting { s with lastIn := (id : Nat) } :=
    h.same rfl h.queue (fun hs => hs) (.inl rfl)
  have hrest :
      ¬ (s.stopping = false ∧ s.lastIn < id ∧ s.current = true ∧ s.readyMatches value = true) →
      s.restingAfter (.frame (.request id (.ready value))) = s.resting := by
    intro hnone
    simp only [restingAfter, endsRun, if_neg hnone]
  rw [h.handleReady_eq]
  split
  · rename_i hstop
    rw [hrest (by simp [hstop])]
    exact h
  · rename_i hlive
    split
    · rename_i hold
      rw [hrest fun hends => absurd hends.2.1 (not_lt.mpr hold)]
      exact h.quiet (reject_quiet _ _ _ _)
    · rename_i hnew
      split
      · rename_i hstale
        rw [hrest fun hends => by simp [hends.2.2.1] at hstale]
        exact hnum.quiet (supersede_quiet _ _)
      · rename_i hcurrent
        by_cases hmatch : s.readyMatches value = true
        · have hends : s.stopping = false ∧ s.lastIn < id ∧ s.current = true ∧
              s.readyMatches value = true :=
            ⟨by simpa using hlive, not_le.mp hnew, by simpa using hcurrent, hmatch⟩
          simp only [restingAfter, endsRun, if_pos hends]
          exact hnum.ready id value hmatch
        · rw [hrest fun hends => hmatch hends.2.2.2]
          have hreject : { s with lastIn := (id : Nat) }.turnReady env id value =
              { s with lastIn := (id : Nat) }.reject true id .invalidFrame := if_neg hmatch
          rw [hreject]
          exact hnum.quiet (reject_quiet _ _ _ _)

theorem handleEvent (h : Keeping s.resting s) (e : Event) :
    Keeping (s.restingAfter e) (s.handleEvent env e) := by
  by_cases hready : ∃ id value, e = .frame (.request id (.ready value))
  · obtain ⟨id, value, rfl⟩ := hready
    exact h.handleReady id value
  · have hother : ∀ id value, e.received ≠ some (.request id (.ready value)) := by
      intro id value heq
      cases e <;> simp only [Event.received, reduceCtorEq, Option.some.injEq] at heq
      exact hready ⟨id, value, by rw [heq]⟩
    have hrest : s.restingAfter e = s.resting := by
      unfold restingAfter endsRun
      split <;> rename_i heq <;> split at heq
      · exact absurd ⟨_, _, rfl⟩ hready
      · cases heq
      · rfl
      · rfl
    rw [hrest]
    by_cases hwritten : e = .written
    · subst hwritten
      exact h.same rfl h.queue (fun hs => hs) (.inl rfl)
    · exact h.turns hother (handleEvent_turns env s e hwritten)

theorem handleEvents (h : Keeping x s) (events : List Event) :
    ∃ y, Keeping y (s.handleEvents env events) := by
  induction events generalizing s x with
  | nil => exact ⟨x, h⟩
  | cons e events ih =>
    have hs : Keeping s.resting s := { h with rests := fun _ _ => rfl }
    exact ih (hs.handleEvent e)

end Keeping

/-! ## What a refusal gives back -/

/-- It answers the request that seeded the current run, and leaves no doubt of its outcome. -/
structure RefusesRun (s : Session) (id : ℕ+) (p : Pending) (e : RPCError) : Prop where
  reading : s.stopping = false
  found : s.pending.lookup (id : Nat) = some p
  live : s.Live p
  current : s.runID ≠ ""
  run : p.request.runID = s.runID
  method : p.command.method ≠ .close
  refusal : p.command.method = .execute ∨ e.code ≠ .internal

theorem writeDeferredClose_closeCall (env : Env) (s : Session) :
    (s.writeDeferredClose env).closeCall = s.closeCall := by
  have h := writeDeferredClose_closed env s
  generalize s.writeDeferredClose env = t at h ⊢
  cases h <;> rfl

theorem receiveError_refused {env : Env} {s : Session} {id : ℕ+} {p : Pending} {e : RPCError}
    (h : RefusesRun s id p e) :
    (s.take id).receiveMatched env p (.error e) =
      (((s.take id).refusedByWorker s.runID).answerRouted p.request
        (.error e)).startDeferredDelivery env := by
  have hcurrent : (s.take id).current = true := h.live.2
  have hdest : p.request.destination = (s.take id).identity := h.live.1
  have hrun : p.request.runID ≠ "" := h.run ▸ h.current
  unfold receiveMatched
  rw [if_neg (by simp [hcurrent, hdest]), if_neg h.method]
  show (s.take id).receiveError env p e = _
  unfold receiveError
  rw [if_neg (by simp [hrun]), if_pos ⟨hrun, h.refusal⟩, h.run]

theorem Keeping.handleError_eq {env : Env} {x : RunSlot} {s : Session} (hs : Keeping x s) {id : ℕ+}
    {p : Pending} {e : RPCError} (h : RefusesRun s id p e) :
    s.handleEvent env (.frame (.response id (.error e))) =
      let t := (s.take id).receiveMatched env p (.error e)
      if p.command.method = .execute ∧ p.request.collect then t.writeDeferredClose env else t := by
  have hid : ¬ s.identity.isNone = true := by simpa using hs.identity
  have hopen : ¬ (s.launch.isSome && (id : Nat) == s.openID) = true := by
    have hpos : (id : Nat) ≠ 0 := Nat.pos_iff_ne_zero.mp id.2
    simp [hs.opened, hpos]
  show (if s.stopping then s else s.handleFrame env (.response id (.error e))) = _
  rw [if_neg (by simp [h.reading])]
  unfold handleFrame
  rw [if_neg hid]
  show (if s.launch.isSome && (id : Nat) == s.openID then _
    else s.receiveResponse env id (.error e)) = _
  rw [if_neg hopen]
  unfold receiveResponse
  rw [h.found]

theorem refusal_gives_back {env : Env} {x : RunSlot} {s : Session} (hs : Keeping x s) {id : ℕ+}
    {p : Pending} {e : RPCError} (h : RefusesRun s id p e) (hopen : s.closed = false)
    (hcall : s.closeCall = none)
    (hlast : (s.handleEvent env (.frame (.response id (.error e)))).closeCall = none) :
    ∃ v : Session, v.slot = s.resting ∧
      s.handleEvent env (.frame (.response id (.error e))) = v.startDeferredDelivery env := by
  refine ⟨((s.take id).refusedByWorker s.runID).answerRouted p.request (.error e), ?_, ?_⟩
  · have hback : (s.take id).refusedByWorker s.runID =
        ((((s.take id).act (.refused s.runSequence)).clearRun
          (s.runSequence - 1)).finishRun).setDeadline
          s.previousDeadline := by simp [refusedByWorker, refuseRun]
    have hv := ((hs.take id).refusedByWorker h.current).answerRouted p.request (.error e)
    rw [hback] at hv ⊢
    exact (resting_idle rfl).symm.trans ((hv.rests hopen hcall).trans (hs.rests hopen hcall).symm)
  · rw [hs.handleError_eq h] at hlast ⊢
    rw [receiveError_refused h] at hlast ⊢
    generalize (((s.take id).refusedByWorker s.runID).answerRouted p.request
      (.error e)).startDeferredDelivery env = w at hlast ⊢
    extract_lets at hlast ⊢
    split at hlast
    · rename_i hcollect
      rw [writeDeferredClose_closeCall] at hlast
      rw [if_pos hcollect, Session.writeDeferredClose, hlast]
    · rename_i hother
      rw [if_neg hother]

/-! ## The deadline over every run -/

/-- A lane whose session was just committed: no run was reserved on its connection. -/
structure UnusedLane (s : Session) : Prop extends FreshLane s where
  unarmed : s.deadline = none ∧ s.autoClose = false
  unmarked : s.item.running = false
  origin : s.runFromTrace = false ∧ s.runFromCompletion = false

theorem UnusedLane.keeping {s : Session} (h : UnusedLane s) : Keeping s.resting s where
  launch := h.launch
  identity := h.identity
  committed := h.committed
  lane := h.lane
  opened := h.opened
  queue := by simp [h.queue]
  attached := fun _ => h.attached
  timed := fun _ _ =>
    ⟨fun hrun => absurd h.idle hrun, fun _ => ⟨h.unmarked, h.origin⟩, by simp [h.unarmed],
    by simp [h.unarmed]⟩
  rests := fun _ _ => rfl

/-- While a lane is not closing, a current run has no deadline and marks the entry, and an idle lane
is unmarked. The slot at rest is changed by the ready of the current run alone, to the deadline that
its state and the policy ask for; a refusal leaves it as it was. -/
theorem auto_close_deadline (env : Env) (s : Session) (events : List Event) (fresh : UnusedLane s) :
    let t := s.handleEvents env events
    t.closed = false → t.closeCall = none → Timed t ∧ ∀ e,
      let u := t.handleEvent env e
      u.closed = false → u.closeCall = none →
        u.resting = t.restingAfter e ∧
        ∀ id p err, e = .frame (.response id (.error err)) → RefusesRun t id p err →
          ∃ v : Session, v.slot = t.resting ∧ u = v.startDeferredDelivery env := by
  intro t hopen hcall
  obtain ⟨x, hx⟩ : ∃ x, Keeping x t := fresh.keeping.handleEvents events
  refine ⟨hx.timed hopen hcall, ?_⟩
  intro e u hopen' hcall'
  have ht : Keeping t.resting t := { hx with rests := fun _ _ => rfl }
  refine ⟨(ht.handleEvent e).rests hopen' hcall', ?_⟩
  intro id p err he hrefuses
  have hu : u = t.handleEvent env (.frame (.response id (.error err))) := by simp only [u, he]
  rw [hu] at hcall' ⊢
  exact refusal_gives_back ht hrefuses hopen hcall hcall'

/-! A run ends and arms the deadline, the next one is reserved twice and refused twice. -/

def timedLane : Session := { newLane with
  item := { newLane.item with
    row := { newLane.item.row with policy := some { autoCloseMS := 50 } } }, clock := 7 }

def refusedTwice : List Event :=
  [.routed
    { destination := some 2, call := .run { sessionID := "w", input := "again" }, reply := 1 },
    .frame
    (.request ⟨1, Nat.one_pos⟩
      (.ready { sessionID := "w", runID := "run-/1", state := .done .completed })),
    .routed { destination := some 2, call := .run { sessionID := "w", input := "again" },
              reply := 2 },
    .frame (.response ⟨2, Nat.two_pos⟩ (.error { code := .busy })),
    .routed { destination := some 2, call := .run { sessionID := "w", input := "again" },
              reply := 3 }]

theorem timedLane_unused : UnusedLane timedLane where
  toFreshLane := { newLane_fresh with }
  unarmed := ⟨rfl, rfl⟩
  unmarked := rfl
  origin := ⟨rfl, rfl⟩

def refusedAgain : Event := .frame (.response ⟨3, by decide⟩ (.error { code := .busy }))

theorem auto_close_deadline_refusedTwice :
    let t := timedLane.handleEvents openEnv refusedTwice
    Timed t ∧ t.runID = "run-/2" ∧
      (t.handleEvent openEnv refusedAgain).resting = t.restingAfter refusedAgain ∧
      (t.handleEvent openEnv refusedAgain).slot = ⟨some 57, 1, "", false, false, false⟩ := by
  have h := auto_close_deadline openEnv timedLane refusedTwice timedLane_unused (by decide +kernel)
      (by decide +kernel)
  exact ⟨h.1, by decide +kernel, (h.2 refusedAgain (by decide +kernel) (by decide +kernel)).1,
    by decide +kernel⟩

end Sessionbus.Session
