import Sessionbus.Session.Queue

/-!
# The invariant behind the queue promise

Two bounds, the run slot and the close in progress hold together between events. Inside an
event the current run may have ended while deliveries are queued; the queue is then started
before the event is over.
-/

namespace Sessionbus

open Trace

/-- The written calls that are no close. -/
def openCalls (pending : Map Nat Pending) : Nat :=
  pending.values.countP fun p => p.command.method != .close

theorem openCalls_insert {m : Map Nat Pending} {k : Nat} {p : Pending} (h : k ∉ m) :
    openCalls (m.insert k p) = openCalls m + if p.command.method = .close then 0 else 1 := by
  unfold openCalls
  rw [AList.values_insert_of_notMem h, List.countP_cons]
  by_cases hp : p.command.method = .close <;> simp [hp]

theorem openCalls_erase {m : Map Nat Pending} {k : Nat} {p : Pending} (h : m.lookup k = some p) :
    openCalls m = openCalls (m.erase k) + if p.command.method = .close then 0 else 1 := by
  unfold openCalls
  rw [(AList.values_erase_perm h).countP_eq, List.countP_cons]
  by_cases hp : p.command.method = .close <;> simp [hp]

theorem openCalls_le (m : Map Nat Pending) : openCalls m ≤ m.entries.length := by
  have := List.countP_le_length (p := fun p : Pending => p.command.method != .close) (l := m.values)
  simpa [openCalls, AList.values] using this

theorem openCalls_eq {m : Map Nat Pending}
    (h : ∀ k p, m.lookup k = some p → p.command.method ≠ .close) :
    openCalls m = m.entries.length := by
  have hall : ∀ p ∈ m.values, (p.command.method != .close) = true := by
    intro p hp
    obtain ⟨k, hk⟩ := AList.mem_values.mp hp
    simpa using h k p hk
  have := List.countP_eq_length.mpr hall
  simpa [openCalls, AList.values] using this

/-- The act neither touches the queue nor reserves a run. -/
def Act.plain : Act → Bool
  | .reserved _ => false
  | a => a.offQueue

theorem Act.offQueue_of_plain {a : Act} (h : a.plain = true) : a.offQueue = true := by
  cases a <;> simp_all [Act.plain, Act.offQueue]

theorem Act.plain_of_quiet {a : Act} (h : a.quiet = true) : a.plain = true := by
  cases a <;> simp_all [Act.plain, Act.offQueue, Act.quiet]

def Act.isRefused : Act → Bool
  | .refused _ => true
  | _ => false

namespace Session

theorem answerAct_plain (r : RoutedRequest) (a : Answer) : (answerAct r a).plain = true := by
  unfold answerAct
  split <;> rfl

/-- The worker never acknowledges a run that it later refuses. -/
def NeverRefusesAcknowledged (h : List Act) : Prop :=
  Everywhere (fun a x _ => ∀ n, x = .refused n →
    ∀ a₁ a₂, a = a₁ ++ .acknowledged n :: a₂ → Act.reserved n ∈ a₂) h

theorem NeverRefusesAcknowledged.of_prefix {h h' : List Act} (honest : NeverRefusesAcknowledged h')
    (hpre : h <+: h') : NeverRefusesAcknowledged h := by
  obtain ⟨l, rfl⟩ := hpre
  exact Everywhere.of_append honest

theorem NeverRefusesAcknowledged.of_none {h : List Act} (hnone : h.any Act.isRefused = false) :
    NeverRefusesAcknowledged h := by
  refine .of_forall fun x hx a b n hn => ?_
  have := List.any_eq_false.mp hnone x hx
  simp [hn, Act.isRefused] at this

/-- A delivery as the directory routed it. -/
structure Ordinary (r : RoutedRequest) : Prop where
  unscheduled : r.scheduled = false
  direct : r.collect = false
  idle : r.runID = ""
  delivery : ∃ p, r.call = .deliver p ∧ p.runID = ""

/-- What a request looks like when it comes from a client. -/
structure FromClient (r : RoutedRequest) : Prop where
  idle : r.runID = ""
  delivery : ∀ p, r.call = .deliver p → Ordinary r
  collects : r.collect = true → ∃ p, r.call = .wait p

structure LaneCore (c : SessionCore) (nextOut : Nat) : Prop where
  launch : c.launch ≠ none
  identity : c.identity ≠ none
  committed : c.committed = true
  lane : c.item.peer = false
  opened : c.openID = 0
  attached : c.closed = false → c.item.attachment = some c.self
  detached : c.closed = true → c.item.attachment = none
  running : c.closed = false → c.runID ≠ "" → c.item.running = true
  closedEmpty : c.closed = true → c.deferredDeliveries = []
  room : openCalls c.pending + c.deferredDeliveries.length ≤ maxPendingCalls
  acked : c.acknowledgedSequence ≤ c.runSequence
  capacity : c.runSequence + c.deferredDeliveries.length ≤ c.acknowledgedSequence + maxOperations
  openQueue : c.deferredDeliveries ≠ [] → c.closeCall = none
  noClose : c.closeCall = none → ∀ id p, c.pending.lookup id = some p → p.command.method ≠ .close
  fresh : ∀ id p, c.pending.lookup id = some p → id ≤ nextOut
  numbered : c.runID ≠ "" → 1 ≤ c.runSequence
  shaped : ∀ id p, c.pending.lookup id = some p → p.command.method = .deliver →
    p.request.runID = "" → Ordinary p.request
  deliveries : ∀ r ∈ c.deferredDeliveries, r.scheduled = true ∧ r.collect = false ∧
    ∃ p, r.call = .deliver p

/-- What holds inside an event. -/
structure Base (env : Env) (s : Session) : Prop where
  core : LaneCore s.toSessionCore s.nextOut
  confirmed : s.runID ≠ "" → s.acknowledgedSequence = s.runSequence →
    ∃ a b, s.history = a ++ .acknowledged s.runSequence :: b ∧ Act.reserved s.runSequence ∉ b
  trace : QueueTrace env s.history s.deferredDeliveries

namespace Base

variable {env : Env} {s t : Session}

theorem plain (h : Base env s) (hcore : t.toSessionCore = s.toSessionCore)
    (hnext : s.nextOut ≤ t.nextOut) {l : List Act} (hhist : t.history = s.history ++ l)
    (hl : ∀ a ∈ l, a.plain = true) : Base env t := by
  refine ⟨?_, ?_, ?_⟩
  · rw [hcore]
    exact { h.core with fresh := fun id p hp => (h.core.fresh id p hp).trans hnext }
  · rw [hcore, hhist]
    intro hrun heq
    obtain ⟨a, b, hab, hb⟩ := h.confirmed hrun heq
    refine ⟨a, b ++ l, by simp [hab], ?_⟩
    simp only [List.mem_append, not_or]
    exact ⟨hb, fun hmem => by simpa [Act.plain] using hl _ hmem⟩
  · rw [hcore, hhist]
    exact h.trace.offQueue fun a ha => Act.offQueue_of_plain (hl a ha)

theorem quiet (h : Base env s) (hq : Quiet s t) : Base env t := by
  obtain ⟨l, hl, hquiet⟩ := hq.history
  exact h.plain hq.core hq.nextOut hl fun a ha => Act.plain_of_quiet (hquiet a ha)

theorem act (h : Base env s) {a : Act} (ha : a.plain = true) : Base env (s.act a) :=
  h.plain rfl le_rfl rfl (by simpa using ha)

theorem answerRouted (h : Base env s) (r : RoutedRequest) (a : Answer) :
    Base env (s.answerRouted r a) :=
  h.act (answerAct_plain r a)

theorem take (h : Base env s) {id : Nat} {p : Pending} (hp : s.pending.lookup id = some p) :
    Base env (s.take id) := by
  have hsub : ∀ {k q}, (s.pending.erase id).lookup k = some q → s.pending.lookup k = some q :=
    fun hk => (AList.lookup_erase_iff.mp hk).2
  refine ⟨{ h.core with
    room := ?_
    noClose := fun hc k q hk => h.core.noClose hc k q (hsub hk)
    fresh := fun k q hk => h.core.fresh k q (hsub hk)
    shaped := fun k q hk => h.core.shaped k q (hsub hk) }, h.confirmed, h.trace⟩
  have hroom := h.core.room
  rw [openCalls_erase hp] at hroom
  exact le_trans (by simp [Session.take, setPending]) hroom

theorem acknowledge (h : Base env s) (ref : RunRef) : Base env (s.recordAcknowledgment ref) := by
  unfold recordAcknowledgment
  split
  · exact h
  · split
    · exact h
    · split
      · rename_i n _ hn
        obtain ⟨-, -, hle, hlt⟩ := hn
        refine ⟨{ h.core with acked := hle, capacity := ?_ }, ?_, ?_⟩
        · have := h.core.capacity
          show s.runSequence + s.deferredDeliveries.length ≤ n + maxOperations
          omega
        · intro hrun heq
          have heq : n = s.runSequence := heq
          exact ⟨s.history, [], by simp [heq], by simp⟩
        · exact h.trace.offQueue (by simp [Act.offQueue])
      · exact h

theorem enqueue (h : Base env s) {r : RoutedRequest} (hr : Ordinary r) (hclose : s.closeCall = none)
    (hopen : s.closed = false)
    (hroom : openCalls s.pending + s.deferredDeliveries.length < maxPendingCalls)
    (hcap : s.runSequence + s.deferredDeliveries.length < s.acknowledgedSequence + maxOperations) :
    Base env (s.enqueue r) := by
  have hacts : answerAct r (.value (.receipt .queuedForNextTurn)) =
      .answered r (.value (.receipt .queuedForNextTurn)) := by simp [answerAct, hr.unscheduled]
  refine ⟨{ h.core with
    closedEmpty := fun hc => by simp [Session.enqueue, hopen] at hc
    room := ?_
    capacity := ?_
    openQueue := fun _ => hclose
    deliveries := ?_ }, ?_, ?_⟩
  · simp [Session.enqueue]
    omega
  · simp [Session.enqueue]
    omega
  · intro q hq
    simp only [Session.enqueue, act_toSessionCore, setDeferred_toSessionCore,
      answerRouted_toSessionCore, List.mem_append, List.mem_singleton] at hq
    rcases hq with hq | rfl
    · exact h.core.deliveries q hq
    · obtain ⟨p, hp, -⟩ := hr.delivery
      exact ⟨rfl, hr.direct, p, hp⟩
  · intro hrun heq
    obtain ⟨a, b, hab, hb⟩ := h.confirmed hrun heq
    refine ⟨a, b ++ [.answered r (.value (.receipt .queuedForNextTurn)),
      .queued { r with scheduled := true, reply := .none }], ?_, ?_⟩
    · simp [Session.enqueue, hacts, hab]
    · show Act.reserved s.runSequence ∉ _
      simpa using hb
  · have ht := h.trace.queued r
    simpa [Session.enqueue, hacts] using ht

end Base

/-! ## Runs -/

theorem hasRunCapacity_iff {s : Session} {n : Nat} (h : LaneCore s.toSessionCore n) :
    s.hasRunCapacity = true ↔
      s.runSequence + s.deferredDeliveries.length < s.acknowledgedSequence + maxOperations := by
  have hack := h.acked
  have hcap := h.capacity
  simp only [maxOperations] at hcap
  unfold hasRunCapacity
  rw [decide_eq_true_eq, Int.emod_eq_of_lt (by omega) (by omega)]
  simp only [maxOperations]
  omega

theorem runText_ne (generation : String) (sequence : Nat) : runText generation sequence ≠ "" := by
  intro h
  have := congrArg String.toList h
  simp [runText] at this

/-- The two states a run is started from differ in what the run came from. -/
inductive Reserves (s : Session) : Session → Prop
  | run : Reserves s s.reserveRun
  | seed (r : RoutedRequest) : Reserves s (s.seedState r)

namespace LaneCore

variable {s : Session}

theorem notMem_next {c : SessionCore} {n : Nat} (h : LaneCore c n) : n + 1 ∉ c.pending := by
  intro hmem
  obtain ⟨p, hp⟩ := Option.isSome_iff_exists.mp (AList.lookup_isSome.mpr hmem)
  have := h.fresh _ p hp
  omega

theorem sentPlain (h : LaneCore s.toSessionCore s.nextOut) {r : RoutedRequest} {c : Command}
    (item : Entry)
    (hroom : s.pending.entries.length + s.deferredDeliveries.length < maxPendingCalls)
    (hc : c.method ≠ .close) (hr : c.method = .deliver → r.runID = "" → Ordinary r)
    (hitem : item.peer = s.item.peer ∧ item.attachment = s.item.attachment ∧
      (s.item.running = true → item.running = true)) :
    LaneCore (s.sent r c item).toSessionCore (s.sent r c item).nextOut where
  launch := h.launch
  identity := h.identity
  committed := h.committed
  lane := hitem.1.trans h.lane
  opened := h.opened
  attached := fun hc => hitem.2.1.trans (h.attached hc)
  detached := fun hc => hitem.2.1.trans (h.detached hc)
  running := fun hc hrun => hitem.2.2 (h.running hc hrun)
  closedEmpty := h.closedEmpty
  room := by
    have := openCalls_le s.pending
    show openCalls (s.pending.insert (s.nextOut + 1) ⟨r, c⟩) + s.deferredDeliveries.length ≤
      maxPendingCalls
    rw [openCalls_insert h.notMem_next, if_neg hc]
    omega
  acked := h.acked
  capacity := h.capacity
  openQueue := h.openQueue
  noClose := by
    intro hnone id p hp
    rcases AList.lookup_insert_iff.mp hp with ⟨-, rfl⟩ | ⟨-, hp⟩
    · exact hc
    · exact h.noClose hnone id p hp
  fresh := by
    intro id p hp
    rcases AList.lookup_insert_iff.mp hp with ⟨rfl, -⟩ | ⟨-, hp⟩
    · exact le_rfl
    · exact (h.fresh id p hp).trans (Nat.le_succ _)
  numbered := h.numbered
  shaped := by
    intro id p hp hm hrun
    rcases AList.lookup_insert_iff.mp hp with ⟨-, rfl⟩ | ⟨-, hp⟩
    · exact hr hm hrun
    · exact h.shaped id p hp hm hrun
  deliveries := h.deliveries

theorem reserved (h : LaneCore s.toSessionCore s.nextOut)
    (hcap : s.runSequence + s.deferredDeliveries.length < s.acknowledgedSequence + maxOperations)
    {s₁ : Session} (hs₁ : Reserves s s₁) :
    LaneCore { s₁.toSessionCore with item := { s.item with running := true } } s.nextOut := by
  have hack := h.acked
  have hnew : s.acknowledgedSequence ≤ s.runSequence + 1 := by omega
  have hfull : s.runSequence + 1 + s.deferredDeliveries.length ≤ s.acknowledgedSequence +
      maxOperations := by omega
  cases hs₁
  all_goals exact { h with
    running := fun _ _ => rfl
    acked := hnew
    capacity := hfull
    numbered := fun _ => Nat.le_add_left 1 _ }

/-- The current run is over, and its number may have been given back. -/
structure Idle (s : Session) (sequence : Nat) (c : SessionCore) : Prop where
  launch : c.launch = s.launch
  identity : c.identity = s.identity
  committed : c.committed = s.committed
  openID : c.openID = s.openID
  closed : c.closed = s.closed
  self : c.self = s.self
  peer : c.item.peer = s.item.peer
  attachment : c.item.attachment = s.item.attachment
  pending : c.pending = s.pending
  queue : c.deferredDeliveries = s.deferredDeliveries
  closeCall : c.closeCall = s.closeCall
  acknowledged : c.acknowledgedSequence = s.acknowledgedSequence
  runID : c.runID = ""
  sequence : c.runSequence = sequence

theorem cleared (h : LaneCore s.toSessionCore s.nextOut) (sequence : Nat) {n : Nat}
    (hn : s.nextOut ≤ n) {c : SessionCore} (hack : s.acknowledgedSequence ≤ sequence)
    (hle : sequence ≤ s.runSequence) (hc : Idle s sequence c) : LaneCore c n := by
  have hcap := h.capacity
  have hnone : ¬ c.runID ≠ "" := by simp [hc.runID]
  constructor <;> simp only [hc.launch, hc.identity, hc.committed, hc.openID, hc.closed,
    hc.self, hc.peer, hc.attachment, hc.pending, hc.queue, hc.closeCall, hc.acknowledged,
    hc.sequence]
  · exact h.launch
  · exact h.identity
  · exact h.committed
  · exact h.lane
  · exact h.opened
  · exact h.attached
  · exact h.detached
  · exact fun _ hrun => absurd hrun hnone
  · exact h.closedEmpty
  · exact h.room
  · exact hack
  · omega
  · exact h.openQueue
  · exact h.noClose
  · exact fun id p hp => (h.fresh id p hp).trans hn
  · exact fun hrun => absurd hrun hnone
  · exact h.shaped
  · exact h.deliveries

end LaneCore

namespace Base

variable {env : Env} {s t : Session}

theorem confirmed_idle (h : s.runID = "") : s.runID ≠ "" → s.acknowledgedSequence = s.runSequence →
    ∃ a b, s.history = a ++ .acknowledged s.runSequence :: b ∧ Act.reserved s.runSequence ∉ b :=
  fun hrun => absurd h hrun

theorem refuse (h : Base env s) (hrun : s.runID ≠ "")
    (honest : NeverRefusesAcknowledged (s.history ++ [.refused s.runSequence])) :
    Base env ((s.act (.refused s.runSequence)).refuseRun s.runID) := by
  have hlt : s.acknowledgedSequence < s.runSequence := by
    refine lt_of_le_of_ne h.core.acked fun heq => ?_
    obtain ⟨a, b, hab, hb⟩ := h.confirmed hrun heq
    exact hb (honest s.history _ [] rfl _ rfl a b hab)
  rw [refuseRun, if_neg (by simp)]
  refine ⟨?_, confirmed_idle rfl, h.trace.offQueue (by simp [Act.offQueue])⟩
  refine h.core.cleared (s.runSequence - 1) le_rfl (by omega) (by omega) ?_
  exact ⟨rfl, rfl, rfl, rfl, rfl, rfl, rfl, rfl, rfl, rfl, rfl, rfl, rfl, rfl⟩

theorem plainCommand_method {r : RoutedRequest} {c : Command} (h : s.plainCommand r.call = some c) :
    c.method = r.call.method ∧ c.method ≠ .close := by
  cases hcall : r.call <;> rw [hcall] at h <;> simp only [plainCommand, reduceCtorEq] at h
  · cases h; exact ⟨rfl, by simp [Command.method]⟩
  · cases h; exact ⟨rfl, by simp [Command.method]⟩
  · cases h; exact ⟨rfl, by simp [Command.method]⟩
  · cases h; exact ⟨rfl, by simp [Command.method]⟩
  · split at h
    · cases h
    · cases h; exact ⟨rfl, by simp [Command.method]⟩

theorem wrotePlain (h : Base env s) {r : RoutedRequest} {c : Command} (hr : FromClient r)
    (adm : Admitted s r) (hc : s.plainCommand r.call = some c) (hw : Wrote env s r c t) :
    Base env t := by
  obtain ⟨hmethod, hclose⟩ := plainCommand_method hc
  cases hw with
  | sent =>
    refine ⟨h.core.sentPlain _ adm.room hclose ?_ ⟨rfl, rfl, ?_⟩, ?_,
      h.trace.offQueue (by simp [Act.offQueue])⟩
    · intro hm _
      obtain ⟨p, hp⟩ : ∃ p, r.call = .deliver p := by
        rw [hmethod] at hm
        cases hcall : r.call <;> rw [hcall] at hm <;> simp [Call.method] at hm
        exact ⟨_, rfl⟩
      exact hr.delivery p hp
    · simp [runningItem, hr.idle]
    · exact (h.act (a := .wrote (s.nextOut + 1) c) rfl).confirmed
  | unsent =>
    rename_i wire encoded why
    have hidle : ¬ r.runID ≠ "" := by simp [hr.idle]
    rw [if_neg hidle]
    refine Base.answerRouted ?_ _ _
    exact h.plain rfl (Nat.le_succ _) rfl (by simp [Act.plain, Act.offQueue])

end Base

/-- What is left of an attempt to start a run. -/
inductive RunActs (env : Env) (s : Session) (r : RoutedRequest) (c : Command) : List Act → Prop
  | wrote : RunActs env s r c [.wrote (s.nextOut + 1) c]
  | unsent {encoded} (h : env.encodes (s.nextOut + 1) c = encoded) :
      RunActs env s r c [.unsent (s.nextOut + 1) c encoded, answerAct r (.code .notConnected)]

structure Ran (env : Env) (s : Session) (r : RoutedRequest) (c : Command) (t : Session) : Prop where
  core : LaneCore t.toSessionCore t.nextOut
  queue : t.deferredDeliveries = s.deferredDeliveries
  idle : t.runID ≠ "" → t.acknowledgedSequence ≠ t.runSequence
  history : ∃ l, RunActs env s r c l ∧ t.history = s.history ++ .reserved (s.runSequence + 1) :: l

theorem RunActs.plain {env : Env} {s : Session} {r : RoutedRequest} {c : Command} {l : List Act}
    (h : RunActs env s r c l) : ∀ a ∈ l, a.plain = true := by
  cases h with
  | wrote => simp [Act.plain, Act.offQueue]
  | unsent =>
    intro a ha
    rcases List.mem_cons.mp ha with rfl | ha
    · rfl
    · rw [List.mem_singleton.mp ha]
      exact answerAct_plain _ _

theorem LaneCore.ran {env : Env} {s s₁ t : Session} {r : RoutedRequest} {c : Command}
    (h : LaneCore s.toSessionCore s.nextOut)
    (hroom : s.pending.entries.length + s.deferredDeliveries.length < maxPendingCalls)
    (hcap : s.runSequence + s.deferredDeliveries.length < s.acknowledgedSequence + maxOperations)
    (hs₁ : Reserves s s₁) (hc : c.method ≠ .close)
    (hr : r.runID = s.reserveRun.runID) (hw : Wrote env s₁ r c t) : Ran env s r c t := by
  have hne : r.runID ≠ "" := hr ▸ runText_ne _ _
  have hack := h.acked
  cases hw with
  | sent =>
    have hres := h.reserved hcap hs₁
    have hsent := LaneCore.sentPlain (s := { s₁ with item := { s.item with running := true } })
        (r := r) (c := c)
      (by cases hs₁ <;> exact hres) { s.item with running := true }
      (by cases hs₁ <;> exact hroom) hc (fun _ hidle => absurd hidle hne) ⟨rfl, rfl, fun h => h⟩
    have hitem : s₁.runningItem r = { s.item with running := true } := by
      cases hs₁ <;> simp [runningItem, hne]
    rw [hitem]
    refine ⟨hsent, ?_, ?_, ?_⟩
    · cases hs₁ <;> simp
    · cases hs₁ <;> simp <;> omega
    · refine ⟨_, .wrote, ?_⟩
      cases hs₁ <;> simp
  | unsent why =>
    rename_i wire encoded
    have hrun : s₁.runID = r.runID := by cases hs₁ <;> simp [hr]
    have henc : env.encodes (s.nextOut + 1) c = encoded := by
      cases hs₁ <;> simpa using why.encoded
    rw [if_pos hne, refuseRun, if_neg (by simpa using hrun)]
    refine ⟨?_, ?_, ?_, ?_⟩
    · refine h.cleared s.runSequence ?_ hack le_rfl ?_
      · cases hs₁ <;> simp
      · cases hs₁ <;> constructor <;> simp
    · cases hs₁ <;> simp
    · cases hs₁ <;> simp
    · refine ⟨_, .unsent henc, ?_⟩
      cases hs₁ <;> simp

namespace Base

variable {env : Env} {s t : Session}

theorem ran (h : Base env s) {r : RoutedRequest} {c : Command} (hr : Ran env s r c t) :
    Base env t := by
  obtain ⟨l, hl, hhist⟩ := hr.history
  refine ⟨hr.core, fun hrun heq => absurd heq (hr.idle hrun), ?_⟩
  rw [hr.queue, hhist]
  refine h.trace.offQueue fun a ha => ?_
  rcases List.mem_cons.mp ha with rfl | ha
  · rfl
  · exact Act.offQueue_of_plain (hl.plain a ha)

/-- The head of the queue is issued, and never refused. -/
theorem pop (h : Base env s) {r : RoutedRequest} {rest : List RoutedRequest}
    (hq : s.deferredDeliveries = r :: rest) (hidle : s.runID = "") :
    Base env ((s.pop r rest).issue env r) := by
  obtain ⟨hsch, hcol, p, hcall⟩ := h.core.deliveries r (by simp [hq])
  have hopen : s.closeCall = none := h.core.openQueue (by simp [hq])
  have hlive : s.closed = false := by
    cases hc : s.closed with
    | false => rfl
    | true => simp [h.core.closedEmpty hc] at hq
  have hroom := h.core.room
  have hcap := h.core.capacity
  rw [openCalls_eq (h.core.noClose hopen), hq, List.length_cons] at hroom
  rw [hq, List.length_cons] at hcap
  have hcore : LaneCore (s.pop r rest).toSessionCore (s.pop r rest).nextOut :=
    { h.core with
      closedEmpty := fun hc => absurd hc (by simp [Session.pop, hlive])
      room := by
        have := openCalls_le s.pending
        show openCalls s.pending + rest.length ≤ maxPendingCalls
        omega
      capacity := by
        show s.runSequence + rest.length ≤ s.acknowledgedSequence + maxOperations; omega
      openQueue := fun _ => hopen
      deliveries := fun q hmem => h.core.deliveries q
        (by rw [hq]; exact List.mem_cons_of_mem _ hmem) }
  have hlt : s.runSequence + rest.length < s.acknowledgedSequence + maxOperations := by omega
  have hcapacity : (s.pop r rest).hasRunCapacity = true := (hasRunCapacity_iff hcore).mpr hlt
  have hissued := issue_issued env (s.pop r rest) r
  generalize (s.pop r rest).issue env r = t at hissued ⊢
  cases hissued with
  | refused why =>
    exfalso
    cases why with
    | closing hclose => simp [Session.pop, hopen] at hclose
    | crowded hfull =>
      simp only [Session.pop, act_toSessionCore, setDeferred_toSessionCore] at hfull
      omega
    | notAdmitted hcode =>
      have hatt := h.core.attached hlive
      simp [Session.pop, admits, attached, hatt, hcall, issuedMethod, Call.method] at hcode
    | noCapacity hfull => simp [hcapacity] at hfull
    | seedClosing hclose => simp [Session.pop, hopen] at hclose
  | closing hclose => simp [hcall] at hclose
  | written adm prepared wrote =>
    cases prepared with
    | plain hplain => simp [hcall, plainCommand, Session.pop, h.core.lane, hidle] at hplain
    | execute hrun => simp [hcall] at hrun
    | seed hcall' lane idle room openCall =>
      rename_i q
      rw [hcall] at hcall'
      cases hcall'
      have hran := hcore.ran adm.room hlt (.seed r) (by simp [Command.method]) rfl wrote
      obtain ⟨l, hl, hhist⟩ := hran.history
      refine ⟨hran.core, fun hrun heq => absurd heq (hran.idle hrun), ?_⟩
      rw [hran.queue, hhist]
      have htrace := h.trace
      rw [hq] at htrace
      have hstart := htrace.start (l := l) (s.runSequence + 1)
        (fun a ha => Act.offQueue_of_plain (hl.plain a ha)) ?_
      · simpa [Session.pop] using hstart
      · refine ⟨p, s.nextGeneration, s.runSequence + 1, s.nextOut + 1, [], hcall, ?_⟩
        cases hl with
        | wrote => exact .inl rfl
        | unsent henc =>
          refine .inr ⟨_, henc, ?_⟩
          simp only [answerAct, hsch, if_true]
          rfl

/-! ## Close, loss and the end of a run -/

theorem settledActs_reserved (code : Code) (l : List RoutedRequest) (n : Nat) :
    Act.reserved n ∉ settledActs code l := by
  intro hmem
  simp only [settledActs, List.mem_flatMap, List.mem_cons, List.not_mem_nil, or_false] at hmem
  obtain ⟨r, -, h | h⟩ := hmem
  · cases h
  · have := answerAct_plain r (.code code)
    rw [← h] at this
    cases this

theorem confirmed_append (h : Base env s) {l : List Act} (hl : ∀ n, Act.reserved n ∉ l)
    (hhist : t.history = s.history ++ l) (hrun : t.runID = s.runID)
    (hseq : t.runSequence = s.runSequence)
    (hack : t.acknowledgedSequence = s.acknowledgedSequence) :
    t.runID ≠ "" → t.acknowledgedSequence = t.runSequence →
      ∃ a b, t.history = a ++ .acknowledged t.runSequence :: b ∧
        Act.reserved t.runSequence ∉ b := by
  rw [hrun, hseq, hack, hhist]
  intro hne heq
  obtain ⟨a, b, hab, hb⟩ := h.confirmed hne heq
  refine ⟨a, b ++ l, by simp [hab], ?_⟩
  simp only [List.mem_append, not_or]
  exact ⟨hb, hl _⟩

theorem writeDeferredClose (h : Base env s) : Base env (s.writeDeferredClose env) := by
  have hw := writeDeferredClose_closed env s
  generalize s.writeDeferredClose env = t at hw ⊢
  cases hw with
  | waits => exact h
  | sent call params live free encodes =>
    rename_i r p
    have hclose : s.closeCall ≠ none := by simp [call]
    have hnew := h.core.notMem_next
    refine ⟨{ h.core with
      room := ?_
      noClose := fun hnone => absurd hnone hclose
      fresh := ?_
      shaped := ?_ }, (h.act (a := .wrote (s.nextOut + 1) (.close p)) rfl).confirmed, ?_⟩
    · show openCalls (s.pending.insert (s.nextOut + 1) ⟨r, .close p⟩) + _ ≤ _
      rw [openCalls_insert hnew]
      simpa [Command.method] using h.core.room
    · intro id q hq
      rcases AList.lookup_insert_iff.mp hq with ⟨rfl, -⟩ | ⟨-, hq⟩
      · exact le_rfl
      · exact (h.core.fresh id q hq).trans (Nat.le_succ _)
    · intro id q hq hm
      rcases AList.lookup_insert_iff.mp hq with ⟨-, rfl⟩ | ⟨-, hq⟩
      · simp [Command.method] at hm
      · exact h.core.shaped id q hq hm
    · exact h.trace.offQueue (by simp [Act.offQueue])
  | unsent =>
    rename_i r p wire encoded _ _ _
    exact h.plain (l := [.unsent (s.nextOut + 1) (.close p) encoded]) (by simp) (by simp) (by simp)
      (by simp [Act.plain, Act.offQueue])

theorem beginClose (h : Base env s) (r : RoutedRequest) (p : SessionCloseRequest) :
    Base env (s.beginClose env r p) := by
  have hack := h.core.acked
  have hcap := h.core.capacity
  have hroom := h.core.room
  refine writeDeferredClose ⟨?_, ?_, ?_⟩
  · rw [settleDeferredDeliveries_eq]
    exact { h.core with
      closedEmpty := fun _ => rfl
      room := by simp; omega
      capacity := by simp; omega
      openQueue := fun hne => absurd rfl hne
      noClose := fun hnone => by simp at hnone
      deliveries := fun q hq => by simp at hq }
  · refine h.confirmed_append (l := .closing :: settledActs .busy s.deferredDeliveries)
      ?_ ?_ ?_ ?_ ?_
    · exact fun n => by simp [settledActs_reserved]
    all_goals simp [settleDeferredDeliveries_eq]
  · have := h.trace.settle (.inl ⟨rfl, rfl⟩)
    simpa [settleDeferredDeliveries_eq] using this

theorem disconnect (h : Base env s) (hopen : s.closed = false) : Base env s.connectionClosed := by
  have hatt := h.core.attached hopen
  have hdetach : (s.markClosed.act .disconnected).detach = { s.markClosed.act .disconnected with
      item := { s.item with attachment := none, running := false, done := true, claimed := true }
        } := by
    simp [Session.detach, Session.attached, hatt, h.core.lane]
  have hack := h.core.acked
  have hcap := h.core.capacity
  unfold connectionClosed
  rw [if_neg (by simp [hopen]), hdetach, settlePending_eq]
  refine ⟨?_, ?_, ?_⟩
  · exact { h.core with
      attached := fun hc => by simp at hc
      detached := fun _ => rfl
      running := fun hc => by simp at hc
      closedEmpty := fun _ => rfl
      room := by simp [openCalls]
      capacity := by simp; omega
      openQueue := fun hne => absurd rfl hne
      noClose := fun _ id p hp => by simp at hp
      fresh := fun id p hp => by simp at hp
      shaped := fun id p hp => by simp at hp
      deliveries := fun q hq => by simp at hq }
  · refine h.confirmed_append
      (l := .disconnected :: (settledActs .notConnected s.deferredDeliveries ++
        s.settledBy.map fun p => answerAct p.request (.code .notConnected))) ?_ ?_ ?_ ?_ ?_
    · intro n hmem
      simp only [List.mem_cons, reduceCtorEq, List.mem_append, List.mem_map, false_or] at hmem
      rcases hmem with hmem | ⟨p, -, hp⟩
      · exact settledActs_reserved _ _ _ hmem
      · have := answerAct_plain p.request (.code .notConnected)
        rw [hp] at this
        cases this
    all_goals simp [settledBy]
  · have ht := (h.trace.settle (.inr ⟨rfl, rfl⟩)).offQueue
      (l := s.settledBy.map fun p => answerAct p.request (.code .notConnected)) ?_
    · simpa [settledBy] using ht
    · intro a ha
      obtain ⟨p, -, rfl⟩ := List.mem_map.mp ha
      exact answerAct_offQueue _ _

theorem settleTurn (h : Base env s) (id : Nat) (value : TurnReady) :
    Base env (s.settleTurn env id value) := by
  have hidle : LaneCore.Idle s s.runSequence (s.endRun.armDeadline value.state).toSessionCore := by
    unfold armDeadline endRun
    simp only
    split
    · split <;> constructor <;> simp
    · constructor <;> simp
  have hrest : (s.endRun.armDeadline value.state).nextOut = s.nextOut ∧
      (s.endRun.armDeadline value.state).history = s.history := by
    unfold armDeadline endRun
    simp only
    split
    · split <;> simp
    · simp
  have hbase : Base env (s.endRun.armDeadline value.state) := by
    refine ⟨h.core.cleared _ hrest.1.ge h.core.acked le_rfl hidle, confirmed_idle hidle.runID, ?_⟩
    rw [hrest.2, hidle.queue]
    exact h.trace
  exact hbase.quiet (respond_quiet _ _ _ _ _)

end Base

end Session

end Sessionbus
