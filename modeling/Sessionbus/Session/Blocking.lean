import Sessionbus.Frame

/-!
# A blocking run and a close

While the execute of a blocking run is unanswered, a close that was requested is parked:
`session.close` is not written and the entry is not claimed. The answer of the execute is
followed by the read of the run and only then by the close.
-/

namespace Sessionbus

/-! ## Closes in the trace -/

/-- `session.close` is written. -/
def Act.asksClose : Act → Bool
  | .wrote _ (.close _) => true
  | _ => false

def Act.isClosing : Act → Bool
  | .closing => true
  | _ => false

/-- The act neither requests a close nor writes one. -/
def Act.noClose (a : Act) : Prop := a.asksClose = false ∧ a.isClosing = false

/-- The writes of `session.close`. -/
def closesOf (h : List Act) : List Act := h.filter Act.asksClose

/-- The requests for a close that were accepted. -/
def closingsOf (h : List Act) : List Act := h.filter Act.isClosing

theorem closesOf_append {h l : List Act} (hl : ∀ a ∈ l, a.noClose) :
    closesOf (h ++ l) = closesOf h := by
  have none : l.filter Act.asksClose = [] := List.filter_eq_nil_iff.mpr fun a ha => by
    simp [(hl a ha).1]
  rw [closesOf, List.filter_append, none, List.append_nil, closesOf]

theorem closingsOf_append {h l : List Act} (hl : ∀ a ∈ l, a.noClose) :
    closingsOf (h ++ l) = closingsOf h := by
  have none : l.filter Act.isClosing = [] := List.filter_eq_nil_iff.mpr fun a ha => by
    simp [(hl a ha).2]
  rw [closingsOf, List.filter_append, none, List.append_nil, closingsOf]

theorem Act.noClose_of_quiet {a : Act} (h : a.quiet = true) : a.noClose := by
  cases a with
  | wrote id c => cases c <;> first | exact ⟨rfl, rfl⟩ | cases h
  | closing => cases h
  | _ => exact ⟨rfl, rfl⟩

namespace Session

theorem answerAct_noClose (r : RoutedRequest) (a : Answer) : (answerAct r a).noClose := by
  unfold answerAct
  split <;> exact ⟨rfl, rfl⟩

theorem settledActs_noClose {code : Code} {l : List RoutedRequest} {a : Act}
    (h : a ∈ settledActs code l) : a.noClose := by
  obtain ⟨q, -, hq⟩ := List.mem_flatMap.mp h
  rcases List.mem_cons.mp hq with rfl | hq
  · exact ⟨rfl, rfl⟩
  · rw [List.mem_singleton.mp hq]
    exact answerAct_noClose _ _

/-! ## What leaves the calls alone -/

/-- The written calls, the queue, the close and the entry's claim are the same. -/
structure SameCalls (s t : Session) : Prop where
  launch : t.launch = s.launch
  identity : t.identity = s.identity
  committed : t.committed = s.committed
  openID : t.openID = s.openID
  listed : t.listed = s.listed
  self : t.self = s.self
  closed : t.closed = s.closed
  row : t.item.row = s.item.row
  peer : t.item.peer = s.item.peer
  claimed : t.item.claimed = s.item.claimed
  attachment : t.item.attachment = s.item.attachment
  pending : t.pending = s.pending
  queue : t.deferredDeliveries = s.deferredDeliveries
  closeCall : t.closeCall = s.closeCall
  stopping : s.stopping = true → t.stopping = true
  nextOut : s.nextOut ≤ t.nextOut
  acts : ∃ l, t.history = s.history ++ l ∧ ∀ a ∈ l, a.noClose

namespace SameCalls

variable {s t u : Session}

theorem refl (s : Session) : SameCalls s s :=
  ⟨rfl, rfl, rfl, rfl, rfl, rfl, rfl, rfl, rfl, rfl, rfl, rfl, rfl, rfl, fun h => h, le_rfl, [],
    by simp, by simp⟩

theorem trans (h : SameCalls s t) (h' : SameCalls t u) : SameCalls s u := by
  obtain ⟨l, hl, hn⟩ := h.acts
  obtain ⟨l', hl', hn'⟩ := h'.acts
  exact {
    launch := h'.launch.trans h.launch
    identity := h'.identity.trans h.identity
    committed := h'.committed.trans h.committed
    openID := h'.openID.trans h.openID
    listed := h'.listed.trans h.listed
    self := h'.self.trans h.self
    closed := h'.closed.trans h.closed
    row := h'.row.trans h.row
    peer := h'.peer.trans h.peer
    claimed := h'.claimed.trans h.claimed
    attachment := h'.attachment.trans h.attachment
    pending := h'.pending.trans h.pending
    queue := h'.queue.trans h.queue
    closeCall := h'.closeCall.trans h.closeCall
    stopping := h'.stopping ∘ h.stopping
    nextOut := h.nextOut.trans h'.nextOut
    acts := by
      refine ⟨l ++ l', by rw [hl', hl, List.append_assoc], fun a ha => ?_⟩
      rcases List.mem_append.mp ha with ha | ha
      · exact hn a ha
      · exact hn' a ha }

theorem quiet (h : Quiet s t) : SameCalls s t := by
  obtain ⟨l, hl, hq⟩ := h.history
  have hcore := h.core
  constructor <;> try rw [hcore]
  · exact h.stopping
  · exact h.nextOut
  · exact ⟨l, hl, fun a ha => Act.noClose_of_quiet (hq a ha)⟩

theorem act (s : Session) {a : Act} (ha : a.noClose) : SameCalls s (s.act a) :=
  { refl s with acts := ⟨[a], rfl, by simpa using ha⟩ }

theorem answerRouted (s : Session) (r : RoutedRequest) (a : Answer) :
    SameCalls s (s.answerRouted r a) :=
  act s (answerAct_noClose r a)

theorem setDeadline (s : Session) (at_ : Option Nat) : SameCalls s (s.setDeadline at_) :=
  { refl s with }

theorem finishRun (s : Session) : SameCalls s s.finishRun := { refl s with }

theorem clearRun (s : Session) (n : Nat) : SameCalls s (s.clearRun n) := { refl s with }

theorem refuseRun (s : Session) (id : String) : SameCalls s (s.refuseRun id) := by
  unfold Session.refuseRun
  split
  · exact refl s
  · exact ((clearRun s _).trans (finishRun _)).trans (setDeadline _ _)

theorem refusedByWorker (s : Session) (id : String) : SameCalls s (s.refusedByWorker id) := by
  unfold Session.refusedByWorker
  split
  · exact refl s
  · exact (act s ⟨rfl, rfl⟩).trans (refuseRun _ _)

theorem recordAcknowledgment (s : Session) (ref : RunRef) :
    SameCalls s (s.recordAcknowledgment ref) := by
  unfold Session.recordAcknowledgment
  split
  · exact refl s
  · split
    · exact refl s
    · split
      · exact { refl s with
          acts := ⟨[_], rfl, by simp [Act.noClose, Act.asksClose, Act.isClosing]⟩ }
      · exact refl s

theorem reserveRun (s : Session) : SameCalls s s.reserveRun :=
  { refl s with acts := ⟨[_], rfl, by simp [Act.noClose, Act.asksClose, Act.isClosing]⟩ }

theorem seedState (s : Session) (r : RoutedRequest) : SameCalls s (s.seedState r) :=
  { reserveRun s with }

theorem notSent (s : Session) (c : Command) (wire : Wire) (encoded : Bool) :
    SameCalls s (s.notSent c wire encoded) :=
  { refl s with
    nextOut := Nat.le_succ _
    acts := ⟨[_], rfl, by simp [Act.noClose, Act.asksClose, Act.isClosing]⟩ }

theorem settleTurn (env : Env) (s : Session) (id : Nat) (value : TurnReady) :
    SameCalls s (s.settleTurn env id value) := by
  have ended : SameCalls s s.endRun := (clearRun s _).trans (finishRun _)
  have armed : SameCalls s (s.endRun.armDeadline value.state) := by
    refine ended.trans ?_
    unfold Session.armDeadline
    simp only
    split
    · split
      · exact setDeadline _ _
      · exact refl _
    · exact refl _
  exact armed.trans (quiet (respond_quiet env _ _ _ _))

end SameCalls

/-! ## The invariant -/

/-- What holds of a lane from its commit on; `asks` and `closings` are the closes in its trace. -/
structure ParkedCore (env : Env) (c : SessionCore) (nextOut : Nat) (stopping : Bool)
    (asks closings : List Act) : Prop where
  launch : c.launch ≠ none
  identity : c.identity ≠ none
  committed : c.committed = true
  opened : c.openID = 0
  listed : c.listed = true
  lane : c.item.peer = false
  attached : c.closed = false → c.item.attachment = some c.self
  detached : c.closed = true → c.item.attachment = none
  closedEmpty : c.closed = true → c.pending = ∅ ∧ c.deferredDeliveries = []
  halted : c.closed = true → stopping = true
  room : openCalls c.pending + c.deferredDeliveries.length ≤ maxPendingCalls
  fresh : ∀ id p, c.pending.lookup id = some p → id ≤ nextOut
  addressed : ∀ id p, c.pending.lookup id = some p → p.request.destination = c.identity
  collects : ∀ id p, c.pending.lookup id = some p → p.request.collect = true →
    p.command.method = .execute ∨ p.command.method = .wait
  executes : ∀ id p q, c.pending.lookup id = some p → p.command = .execute q →
    env.encodes id (.execute q) = true ∧ q.sessionID = c.item.row.sessionID ∧
    q.runID = p.request.runID
  shaped : ∀ id p, c.pending.lookup id = some p → p.command.method ≠ .close →
    ∀ q, p.request.call ≠ .close q
  queue : ∀ r ∈ c.deferredDeliveries, r.collect = false ∧ r.destination = c.identity ∧
    ∀ q, r.call ≠ .close q
  closer : ∀ r ∈ c.closeCall, r.destination = c.identity ∧ r.collect = false
  requested : closings.length = if c.closeCall = none then 0 else 1
  once : asks.length ≤ 1
  asked : asks ≠ [] → c.closeCall ≠ none
  unasked : asks = [] → ∀ id p, c.pending.lookup id = some p → p.command.method ≠ .close
  unclaimed : asks = [] → c.closed = false → c.item.claimed = false
  blocked : asks ≠ [] → ∀ id p, c.pending.lookup id = some p → p.command.method = .execute →
    p.request.collect = false

abbrev Parked (env : Env) (s : Session) : Prop :=
  ParkedCore env s.toSessionCore s.nextOut s.stopping (closesOf s.history) (closingsOf s.history)

/-- A request that `issue` gets: only the read of a blocking run is issued during a close. -/
structure Reissued (s : Session) (r : RoutedRequest) : Prop where
  addressed : r.destination = s.identity
  collects : r.collect = true → ∃ p, r.call = .wait p

namespace Parked

variable {env : Env} {s t : Session}

theorem same (h : Parked env s) (hc : SameCalls s t) : Parked env t := by
  obtain ⟨l, hl, hn⟩ := hc.acts
  have hcloses : closesOf t.history = closesOf s.history := by rw [hl, closesOf_append hn]
  have hclosings : closingsOf t.history = closingsOf s.history := by rw [hl, closingsOf_append hn]
  constructor <;> simp only [hc.launch, hc.identity, hc.committed, hc.openID, hc.listed, hc.self,
    hc.closed, hc.row, hc.peer, hc.claimed, hc.attachment, hc.pending, hc.queue, hc.closeCall,
    hcloses, hclosings]
  · exact h.launch
  · exact h.identity
  · exact h.committed
  · exact h.opened
  · exact h.listed
  · exact h.lane
  · exact h.attached
  · exact h.detached
  · exact h.closedEmpty
  · exact fun closed => hc.stopping (h.halted closed)
  · exact h.room
  · exact fun id p hp => (h.fresh id p hp).trans hc.nextOut
  · exact h.addressed
  · exact h.collects
  · exact h.executes
  · exact h.shaped
  · exact h.queue
  · exact h.closer
  · exact h.requested
  · exact h.once
  · exact h.asked
  · exact h.unasked
  · exact h.unclaimed
  · exact h.blocked

theorem quiet (h : Parked env s) (hq : Quiet s t) : Parked env t := h.same (.quiet hq)

theorem take (h : Parked env s) {id : Nat} {p : Pending} (hp : s.pending.lookup id = some p) :
    Parked env (s.take id) := by
  have sub : ∀ {k q}, (s.pending.erase id).lookup k = some q → s.pending.lookup k = some q :=
    fun hk => (AList.lookup_erase_iff.mp hk).2
  exact { h with
    closedEmpty := fun hc => absurd hp (by simp [(h.closedEmpty hc).1])
    room := by
      have room := h.room
      rw [openCalls_erase hp] at room
      exact le_trans (by simp [Session.take, setPending]) room
    fresh := fun k q hk => h.fresh k q (sub hk)
    addressed := fun k q hk => h.addressed k q (sub hk)
    collects := fun k q hk => h.collects k q (sub hk)
    executes := fun k q e hk => h.executes k q e (sub hk)
    shaped := fun k q hk => h.shaped k q (sub hk)
    unasked := fun none k q hk => h.unasked none k q (sub hk)
    blocked := fun some k q hk => h.blocked some k q (sub hk) }

theorem notMem_next (h : Parked env s) : s.nextOut + 1 ∉ s.pending := by
  intro hmem
  obtain ⟨p, hp⟩ := Option.isSome_iff_exists.mp (AList.lookup_isSome.mpr hmem)
  have := h.fresh _ p hp
  omega

theorem sent (h : Parked env s) {r : RoutedRequest} {c : Command} (hopen : s.closed = false)
    (room : s.pending.entries.length + s.deferredDeliveries.length < maxPendingCalls)
    (plain : c.method ≠ .close) (addressed : r.destination = s.identity)
    (shaped : ∀ c, r.call ≠ .close c)
    (collects : r.collect = true → c.method = .execute ∨ c.method = .wait)
    (executes : ∀ q, c = .execute q →
      env.encodes (s.nextOut + 1) (.execute q) = true ∧ q.sessionID = s.item.row.sessionID ∧
      q.runID = r.runID)
    (free : closesOf s.history ≠ [] → c.method = .execute → r.collect = false) :
    Parked env (s.sent r c (s.runningItem r)) := by
  have acts : ∀ a ∈ [Act.wrote (s.nextOut + 1) c], a.noClose := by
    intro a ha
    rw [List.mem_singleton.mp ha]
    cases c <;> first | exact ⟨rfl, rfl⟩ | exact absurd rfl plain
  have hcloses : closesOf (s.sent r c (s.runningItem r)).history = closesOf s.history :=
    closesOf_append acts
  have hclosings : closingsOf (s.sent r c (s.runningItem r)).history = closingsOf s.history :=
    closingsOf_append acts
  have found : ∀ {id p}, (s.pending.insert (s.nextOut + 1) ⟨r, c⟩).lookup id = some p →
      id = s.nextOut + 1 ∧ p = ⟨r, c⟩ ∨ s.pending.lookup id = some p := by
    intro id p hp
    rcases AList.lookup_insert_iff.mp hp with ⟨hid, hp⟩ | ⟨-, hp⟩
    · exact .inl ⟨hid, hp⟩
    · exact .inr hp
  unfold Parked
  rw [hcloses, hclosings]
  exact { h with
    closedEmpty := fun hc => absurd hc (by simp [hopen])
    room := by
      have all := openCalls_le s.pending
      show openCalls (s.pending.insert (s.nextOut + 1) ⟨r, c⟩) + s.deferredDeliveries.length ≤
        maxPendingCalls
      rw [openCalls_insert h.notMem_next, if_neg plain]
      omega
    fresh := by
      intro id p hp
      rcases found hp with ⟨rfl, -⟩ | hp
      · exact le_rfl
      · exact (h.fresh id p hp).trans (Nat.le_succ _)
    addressed := by
      intro id p hp
      rcases found hp with ⟨-, rfl⟩ | hp
      · exact addressed
      · exact h.addressed id p hp
    collects := by
      intro id p hp
      rcases found hp with ⟨-, rfl⟩ | hp
      · exact collects
      · exact h.collects id p hp
    executes := by
      intro id p q hp hq
      rcases found hp with ⟨rfl, rfl⟩ | hp
      · exact executes q hq
      · exact h.executes id p q hp hq
    shaped := by
      intro id p hp
      rcases found hp with ⟨-, rfl⟩ | hp
      · exact fun _ => shaped
      · exact h.shaped id p hp
    unasked := by
      intro none id p hp
      rcases found hp with ⟨-, rfl⟩ | hp
      · exact plain
      · exact h.unasked none id p hp
    blocked := by
      intro some id p hp
      rcases found hp with ⟨-, rfl⟩ | hp
      · exact free some
      · exact h.blocked some id p hp }

theorem wrote (h : Parked env s) {r : RoutedRequest} {c : Command} (hw : Wrote env s r c t)
    (hopen : s.closed = false)
    (room : s.pending.entries.length + s.deferredDeliveries.length < maxPendingCalls)
    (plain : c.method ≠ .close) (addressed : r.destination = s.identity)
    (shaped : ∀ c, r.call ≠ .close c)
    (collects : r.collect = true → c.method = .execute ∨ c.method = .wait)
    (executes : ∀ q, c = .execute q → q.sessionID = s.item.row.sessionID ∧ q.runID = r.runID)
    (free : closesOf s.history ≠ [] → c.method = .execute → r.collect = false) : Parked env t := by
  cases hw with
  | sent encodes =>
    refine h.sent hopen room plain addressed shaped collects ?_ free
    rintro q rfl
    exact ⟨encodes, executes q rfl⟩
  | unsent =>
    refine (h.same ?_).same (.answerRouted _ _ _)
    split
    · exact (SameCalls.notSent _ _ _ _).trans (.refuseRun _ _)
    · exact .notSent _ _ _ _

/-! ## Closing -/

/-- A close is written once at most: either none was before, or one is still unanswered. -/
theorem writeDeferredClose (h : Parked env s) (first : closesOf s.history = []) :
    Parked env (s.writeDeferredClose env) := by
  have hw := writeDeferredClose_closed env s
  generalize s.writeDeferredClose env = t at hw ⊢
  cases hw with
  | waits => exact h
  | unsent => exact (h.same (.notSent _ _ _ _)).quiet (recordStop_quiet _ _)
  | sent call params live free encodes =>
    rename_i r p
    have hopen : s.closed = false := by
      cases hc : s.closed with
      | false => rfl
      | true => simp [h.halted hc] at live
    have unblocked : ∀ id q, s.pending.lookup id = some q → q.command.method = .execute →
        q.request.collect = false := by
      intro id q hq execute
      have none := List.any_eq_false.mp free q (AList.mem_values.mpr ⟨id, hq⟩)
      simpa [execute] using none
    have written : closesOf (s.sent r (.close p) { s.item with claimed := true }).history =
        closesOf s.history ++ [.wrote (s.nextOut + 1) (.close p)] := by
      simp [closesOf, Act.asksClose]
    have hclosings : closingsOf (s.sent r (.close p) { s.item with claimed := true }).history =
        closingsOf s.history := by
      simp [closingsOf, Act.isClosing]
    have found : ∀ {id q}, (s.pending.insert (s.nextOut + 1) ⟨r, .close p⟩).lookup id = some q →
        id = s.nextOut + 1 ∧ q = ⟨r, .close p⟩ ∨ s.pending.lookup id = some q := by
      intro id q hq
      rcases AList.lookup_insert_iff.mp hq with ⟨hid, hq⟩ | ⟨-, hq⟩
      · exact .inl ⟨hid, hq⟩
      · exact .inr hq
    have closer := h.closer r call
    unfold Parked
    rw [written, hclosings, first, List.nil_append]
    exact { h with
      closedEmpty := fun hc => absurd hc (by simp [hopen])
      room := by
        show openCalls (s.pending.insert (s.nextOut + 1) ⟨r, .close p⟩) + _ ≤ _
        rw [openCalls_insert h.notMem_next]
        simpa [Command.method] using h.room
      fresh := by
        intro id q hq
        rcases found hq with ⟨rfl, -⟩ | hq
        · exact le_rfl
        · exact (h.fresh id q hq).trans (Nat.le_succ _)
      addressed := by
        intro id q hq
        rcases found hq with ⟨-, rfl⟩ | hq
        · exact closer.1
        · exact h.addressed id q hq
      collects := by
        intro id q hq
        rcases found hq with ⟨-, rfl⟩ | hq
        · exact fun collect => absurd collect (by simp [closer.2])
        · exact h.collects id q hq
      executes := by
        intro id q e hq he
        rcases found hq with ⟨-, rfl⟩ | hq
        · cases he
        · exact h.executes id q e hq he
      shaped := by
        intro id q hq
        rcases found hq with ⟨-, rfl⟩ | hq
        · exact fun plain => absurd rfl plain
        · exact h.shaped id q hq
      once := le_rfl
      asked := fun _ => by simp [call]
      unasked := fun none => absurd none (by simp)
      unclaimed := fun none => absurd none (by simp)
      blocked := by
        intro _ id q hq
        rcases found hq with ⟨-, rfl⟩ | hq
        · exact fun execute => absurd execute (by simp [Command.method])
        · exact unblocked id q hq }

theorem beginClose (h : Parked env s) (first : s.closeCall = none) {r : RoutedRequest}
    (addressed : r.destination = s.identity) (direct : r.collect = false)
    (p : SessionCloseRequest) : Parked env (s.beginClose env r p) := by
  have none : closesOf s.history = [] := by
    by_contra some
    exact h.asked some first
  have acts : ∀ a ∈ settledActs .busy s.deferredDeliveries, a.noClose := fun a ha =>
      settledActs_noClose ha
  unfold Session.beginClose
  rw [settleDeferredDeliveries_eq]
  generalize ht : holdClose _ r p.forget = t
  have hhist : t.history = s.history ++ .closing :: settledActs .busy s.deferredDeliveries := by
    simp [← ht]
  have hcore :
      t.toSessionCore = { s.toSessionCore with deferredDeliveries := [], closeCall := some r } := by
    simp [← ht]
  have hcloses : closesOf t.history = [] := by
    rw [hhist, ← List.singleton_append, ← List.append_assoc, closesOf_append acts]
    simpa [closesOf, Act.asksClose] using none
  have hclosings : (closingsOf t.history).length = 1 := by
    have requested := h.requested
    rw [if_pos first] at requested
    have more : closingsOf (s.history ++ [.closing]) = closingsOf s.history ++ [.closing] := by
      simp [closingsOf, Act.isClosing]
    rw [hhist, ← List.singleton_append, ← List.append_assoc, closingsOf_append acts, more,
      List.length_append, requested]
    rfl
  have hstop : t.stopping = s.stopping := by simp [← ht]
  have hnext : t.nextOut = s.nextOut := by simp [← ht]
  refine writeDeferredClose ?_ hcloses
  constructor <;> simp only [hcore, hcloses, hclosings, hstop, hnext]
  · exact h.launch
  · exact h.identity
  · exact h.committed
  · exact h.opened
  · exact h.listed
  · exact h.lane
  · exact h.attached
  · exact h.detached
  · exact fun hc => ⟨(h.closedEmpty hc).1, trivial⟩
  · exact h.halted
  · exact le_trans (by simp) h.room
  · exact h.fresh
  · exact h.addressed
  · exact h.collects
  · exact h.executes
  · exact h.shaped
  · simp
  · rintro q hq
    cases hq
    exact ⟨addressed, direct⟩
  · rfl
  · simp
  · simp
  · exact fun _ => h.unasked none
  · exact fun _ => h.unclaimed none
  · simp

theorem policyClose (h : Parked env s) : Parked env (s.policyClose env) := by
  unfold Session.policyClose
  split
  · exact h
  next open_ =>
    have first : s.closeCall = none := by
      simp only [Bool.or_eq_true, not_or, Bool.not_eq_true, Option.isSome_eq_false_iff,
        Option.isNone_iff_eq_none] at open_
      exact open_.1.2
    exact beginClose (h.same { SameCalls.refl s with }) first rfl rfl _

/-! ## Requests -/

theorem issue (h : Parked env s) {r : RoutedRequest} (hr : Reissued s r) :
    Parked env (s.issue env r) := by
  have hissued := issue_issued env s r
  generalize s.issue env r = t at hissued ⊢
  cases hissued with
  | refused => exact h.same (.answerRouted _ _ _)
  | closing call admitted =>
    have direct : r.collect = false := by
      cases hc : r.collect with
      | false => rfl
      | true =>
        obtain ⟨p, hp⟩ := hr.collects hc
        simp [call] at hp
    have first : s.closeCall = none := by
      by_contra some
      simp [admitted.open_ some] at direct
    exact h.beginClose first hr.addressed direct _
  | written admitted prepared wrote =>
    have hopen : s.closed = false := by
      cases hc : s.closed with
      | false => rfl
      | true =>
        have entry := admitted.entry
        simp [admits, Session.attached, h.detached hc] at entry
    have during : closesOf s.history ≠ [] → ∃ p, r.call = .wait p :=
      fun some => hr.collects (admitted.open_ (h.asked some))
    cases prepared with
    | plain hplain =>
      obtain ⟨method, plain⟩ := Base.plainCommand_method hplain
      refine h.wrote wrote hopen admitted.room plain hr.addressed ?_ ?_ ?_ ?_
      · intro p hp
        simp [hp, plainCommand] at hplain
      · intro collect
        obtain ⟨p, hp⟩ := hr.collects collect
        rw [method, hp]
        exact .inr rfl
      · rintro q rfl
        cases hcall : r.call <;> simp [hcall, plainCommand] at hplain
      · intro _ execute
        cases hcall : r.call <;> simp [method, hcall, Call.method] at execute
    | execute call room =>
      refine (h.same (.reserveRun s)).wrote wrote hopen admitted.room
        (by simp [Command.method]) hr.addressed ?_ ?_ ?_ ?_
      · rcases call with ⟨hcall, -⟩ | ⟨hcall, -⟩ <;> simp [hcall]
      · exact fun _ => .inl rfl
      · rintro q ⟨⟩
        exact ⟨rfl, rfl⟩
      · intro some
        obtain ⟨l, hl, hn⟩ := (SameCalls.reserveRun s).acts
        rw [hl, closesOf_append hn] at some
        obtain ⟨p, hp⟩ := during some
        rcases call with ⟨hcall, -⟩ | ⟨hcall, -⟩ <;> simp [hcall] at hp
    | seed call lane idle room openCall =>
      refine (h.same (.seedState s r)).wrote wrote hopen admitted.room
        (by simp [Command.method]) hr.addressed ?_ ?_ ?_ ?_
      · simp [call]
      · intro collect
        obtain ⟨p, hp⟩ := hr.collects collect
        simp [call] at hp
      · rintro q ⟨⟩
      · exact fun _ execute => absurd execute (by simp [Command.method])

theorem pop (h : Parked env s) {r : RoutedRequest} {rest : List RoutedRequest}
    (hq : s.deferredDeliveries = r :: rest) : Parked env ((s.pop r rest).issue env r) := by
  obtain ⟨direct, addressed, -⟩ := h.queue r (by simp [hq])
  have acts : ∀ a ∈ [Act.started r], a.noClose := by
    intro a ha
    rw [List.mem_singleton.mp ha]
    exact ⟨rfl, rfl⟩
  have hcloses : closesOf (s.pop r rest).history = closesOf s.history := closesOf_append acts
  have hclosings : closingsOf (s.pop r rest).history = closingsOf s.history :=
    closingsOf_append acts
  have popped : Parked env (s.pop r rest) := by
    unfold Parked
    rw [hcloses, hclosings]
    exact { h with
      closedEmpty := fun hc => absurd (h.closedEmpty hc).2 (by simp [hq])
      room := by
        have room := h.room
        rw [hq, List.length_cons] at room
        show openCalls s.pending + rest.length ≤ maxPendingCalls
        omega
      queue := fun q hmem => h.queue q (by rw [hq]; exact List.mem_cons_of_mem _ hmem) }
  exact popped.issue ⟨addressed, fun collect => absurd collect (by simp [direct])⟩

theorem startDeferredDelivery (h : Parked env s) : Parked env (s.startDeferredDelivery env) :=
  startDeferred_keeps env (fun _ _ _ h hq _ => h.pop hq) _ s h

theorem enqueue (h : Parked env s) (hopen : s.closed = false) {r : RoutedRequest}
    (room : openCalls s.pending + s.deferredDeliveries.length < maxPendingCalls)
    (direct : r.collect = false) (addressed : r.destination = s.identity)
    (shaped : ∀ c, r.call ≠ .close c) : Parked env (s.enqueue r) := by
  have acts :
      ∀ a ∈ [answerAct r (.value (.receipt .queuedForNextTurn)),
        .queued { r with scheduled := true, reply := .none }],
      a.noClose := by
    intro a ha
    rcases List.mem_cons.mp ha with rfl | ha
    · exact answerAct_noClose _ _
    · rw [List.mem_singleton.mp ha]
      exact ⟨rfl, rfl⟩
  have hhist : (s.enqueue r).history =
      s.history ++
      [answerAct r (.value (.receipt .queuedForNextTurn)),
        .queued { r with scheduled := true, reply := .none }] := by
    simp [Session.enqueue]
  have hcloses : closesOf (s.enqueue r).history = closesOf s.history := by
    rw [hhist, closesOf_append acts]
  have hclosings : closingsOf (s.enqueue r).history = closingsOf s.history := by
    rw [hhist, closingsOf_append acts]
  unfold Parked
  rw [hcloses, hclosings]
  exact { h with
    closedEmpty := fun hc => absurd hc (by simp [Session.enqueue, hopen])
    room := by
      simp only [Session.enqueue, act_toSessionCore, setDeferred_toSessionCore,
        answerRouted_toSessionCore, List.length_append, List.length_singleton]
      omega
    queue := by
      intro q hq
      simp only [Session.enqueue, act_toSessionCore, setDeferred_toSessionCore,
        answerRouted_toSessionCore, List.mem_append, List.mem_singleton] at hq
      rcases hq with hq | rfl
      · exact h.queue q hq
      · exact ⟨direct, addressed, shaped⟩ }

theorem disconnect (h : Parked env s) (hopen : s.closed = false) :
    Parked env s.connectionClosed := by
  have detached : (s.markClosed.act .disconnected).detach = { s.markClosed.act .disconnected with
      item := { s.item with attachment := none, running := false, done := true, claimed := true }
        } := by
    simp [Session.detach, Session.attached, h.attached hopen, h.lane]
  have acts : ∀ a ∈ .disconnected :: (settledActs .notConnected s.deferredDeliveries ++
      s.settledBy.map fun p => answerAct p.request (.code .notConnected)), a.noClose := by
    intro a ha
    simp only [List.mem_cons, List.mem_append, List.mem_map] at ha
    rcases ha with rfl | ha | ⟨p, -, rfl⟩
    · exact ⟨rfl, rfl⟩
    · exact settledActs_noClose ha
    · exact answerAct_noClose _ _
  unfold Session.connectionClosed
  rw [if_neg (by simp [hopen]), detached, settlePending_eq]
  generalize ht : Session.setRequests _ _ = t
  have hhist : t.history = s.history ++
      .disconnected :: (settledActs .notConnected s.deferredDeliveries ++
        s.settledBy.map fun p => answerAct p.request (.code .notConnected)) := by
    simp [← ht, settledBy]
  have hcore : t.toSessionCore = { s.toSessionCore with
      closed := true, pending := ∅, deferredDeliveries := []
      item := { s.item with attachment := none, running := false, done := true, claimed := true }
        } := by simp [← ht]
  have hstop : t.stopping = true := by simp [← ht]
  have none : ∀ {P : Prop} id p, (∅ : Map Nat Pending).lookup id = some p → P := by simp
  unfold Parked
  rw [hhist, closesOf_append acts, closingsOf_append acts, hstop, hcore]
  exact { h with
    attached := fun hc => absurd hc (by simp)
    detached := fun _ => rfl
    closedEmpty := fun _ => ⟨rfl, rfl⟩
    halted := fun _ => rfl
    room := by simp [openCalls]
    fresh := fun id p hp => none id p hp
    addressed := fun id p hp => none id p hp
    collects := fun id p hp => none id p hp
    executes := fun id p q hp => none id p hp
    shaped := fun id p hp => none id p hp
    queue := by simp
    unasked := fun _ id p hp => none id p hp
    unclaimed := fun _ hc => absurd hc (by simp)
    blocked := fun _ id p hp => none id p hp }

end Parked

/-! ## Responses -/

theorem SameCalls.closes {s t : Session} (h : SameCalls s t) :
    closesOf t.history = closesOf s.history := by
  obtain ⟨l, hl, hn⟩ := h.acts
  rw [hl, closesOf_append hn]

theorem Wrote.closes {env : Env} {s t : Session} {r : RoutedRequest} {c : Command}
    (h : Wrote env s r c t) (plain : c.method ≠ .close) :
    closesOf t.history = closesOf s.history := by
  cases h with
  | sent =>
    rw [sent_history]
    refine closesOf_append fun a ha => ?_
    rw [List.mem_singleton.mp ha]
    cases c <;> first | exact ⟨rfl, rfl⟩ | exact absurd rfl plain
  | unsent =>
    refine SameCalls.closes (.trans ?_ (.answerRouted _ _ _))
    split
    · exact (SameCalls.notSent _ _ _ _).trans (.refuseRun _ _)
    · exact .notSent _ _ _ _

theorem issue_closes (env : Env) (s : Session) {r : RoutedRequest} (hr : ∀ q, r.call ≠ .close q) :
    closesOf (s.issue env r).history = closesOf s.history := by
  have hissued := issue_issued env s r
  generalize s.issue env r = t at hissued ⊢
  cases hissued with
  | refused => exact (SameCalls.answerRouted s r _).closes
  | closing call => exact absurd call (hr _)
  | written admitted prepared wrote =>
    cases prepared with
    | plain hplain => exact wrote.closes (Base.plainCommand_method hplain).2
    | execute =>
      exact (wrote.closes (by simp [Command.method])).trans (SameCalls.reserveRun s).closes
    | seed => exact (wrote.closes (by simp [Command.method])).trans (SameCalls.seedState s r).closes

theorem refuseRun_closeTimer (s : Session) (id : String) :
    (s.refuseRun id).closeTimer = s.closeTimer := by
  unfold refuseRun
  split <;> rfl

theorem refusedByWorker_closeTimer (s : Session) (id : String) :
    (s.refusedByWorker id).closeTimer = s.closeTimer := by
  unfold refusedByWorker
  split
  · rfl
  · exact refuseRun_closeTimer _ _

theorem recordAcknowledgment_closeTimer (s : Session) (ref : RunRef) :
    (s.recordAcknowledgment ref).closeTimer = s.closeTimer := by
  unfold recordAcknowledgment
  split
  · rfl
  · split
    · rfl
    · split <;> rfl

theorem Wrote.closeTimer {env : Env} {s t : Session} {r : RoutedRequest} {c : Command}
    (h : Wrote env s r c t) : t.closeTimer = s.closeTimer := by
  cases h with
  | sent => rfl
  | unsent =>
    show Session.closeTimer (if _ then _ else _) = _
    split
    · exact refuseRun_closeTimer _ _
    · rfl

theorem issue_closeTimer (env : Env) (s : Session) {r : RoutedRequest}
    (hr : ∀ q, r.call ≠ .close q) : (s.issue env r).closeTimer = s.closeTimer := by
  have hissued := issue_issued env s r
  generalize s.issue env r = t at hissued ⊢
  cases hissued with
  | refused => rfl
  | closing call => exact absurd call (hr _)
  | written admitted prepared wrote => cases prepared <;> exact wrote.closeTimer

theorem writeDeferredClose_closeTimer (env : Env) (s : Session) :
    (s.writeDeferredClose env).closeTimer = s.closeTimer := by
  have hw := writeDeferredClose_closed env s
  generalize s.writeDeferredClose env = t at hw ⊢
  cases hw <;> rfl

/-- `t` comes from `s`: between them no close was written and the close timer was not set. -/
structure Later (env : Env) (s t : Session) : Prop where
  parked : Parked env t
  closes : closesOf t.history = closesOf s.history
  timer : t.closeTimer = s.closeTimer

/-- What `receiveMatched` may use of the call it took from the table. -/
structure Taken (s : Session) (p : Pending) : Prop where
  addressed : p.request.destination = s.identity
  collects : p.request.collect = true → p.command.method = .execute ∨ p.command.method = .wait
  room : p.command.method ≠ .close →
    openCalls s.pending + s.deferredDeliveries.length < maxPendingCalls
  shaped : p.command.method ≠ .close → ∀ q, p.request.call ≠ .close q

namespace Parked

variable {env : Env} {s t : Session} {p : Pending}

theorem taken (h : Parked env s) {id : Nat} (hp : s.pending.lookup id = some p) :
    Taken (s.take id) p where
  addressed := h.addressed id p hp
  collects := h.collects id p hp
  room := by
    intro plain
    have room := h.room
    rw [openCalls_erase hp, if_neg plain] at room
    simp only [Session.take, setPending_toSessionCore]
    omega
  shaped := h.shaped id p hp

theorem later (h : Parked env s) (hc : SameCalls s t) (timer : t.closeTimer = s.closeTimer) :
    Later env s t :=
  ⟨h.same hc, hc.closes, timer⟩

theorem issue_later (h : Parked env s) {r : RoutedRequest} (hr : Reissued s r)
    (shaped : ∀ q, r.call ≠ .close q) : Later env s (s.issue env r) :=
  ⟨h.issue hr, issue_closes env s shaped, issue_closeTimer env s shaped⟩

theorem drain_later (h : Parked env s) : Later env s (s.startDeferredDelivery env) := by
  refine startDeferred_keeps env (I := Later env s) ?_ _ s ⟨h, rfl, rfl⟩
  intro u r rest ⟨hu, closes, timer⟩ hq _
  have shaped := (hu.queue r (by simp [hq])).2.2
  refine ⟨hu.pop hq, (issue_closes env _ shaped).trans ?_,
    (issue_closeTimer env _ shaped).trans timer⟩
  refine Eq.trans (closesOf_append (l := [.started r]) ?_) closes
  intro a ha
  rw [List.mem_singleton.mp ha]
  exact ⟨rfl, rfl⟩

theorem open_of_current (h : Parked env s) (current : s.current = true) : s.closed = false := by
  cases hc : s.closed with
  | false => rfl
  | true => simp [Session.current, Session.attached, h.detached hc] at current

theorem retain_later (h : Parked env s) (hp : Taken s p) (deliver : p.command.method = .deliver)
    (current : s.current = true) : Later env s (s.retain env p.request) := by
  have plain : p.command.method ≠ .close := by simp [deliver]
  have direct : p.request.collect = false := by
    cases hc : p.request.collect with
    | false => rfl
    | true => rcases hp.collects hc with hm | hm <;> simp [deliver] at hm
  unfold Session.retain
  split
  · exact h.issue_later ⟨hp.addressed, fun collect => absurd collect (by simp [direct])⟩
      (hp.shaped plain)
  · split
    · exact h.later (.answerRouted _ _ _) rfl
    · refine ⟨h.enqueue (h.open_of_current current) (hp.room plain) direct hp.addressed
        (hp.shaped plain), ?_, rfl⟩
      simp only [Session.enqueue, act_history, setDeferred_history, answerRouted_history,
        List.append_assoc]
      refine closesOf_append fun a ha => ?_
      rcases List.mem_cons.mp ha with rfl | ha
      · exact answerAct_noClose _ _
      · rw [List.mem_singleton.mp ha]
        exact ⟨rfl, rfl⟩

theorem receiveError_later (h : Parked env s) (hp : Taken s p) (current : s.current = true)
    (e : RPCError) : Later env s (s.receiveError env p e) := by
  unfold Session.receiveError
  split
  next retains => exact h.retain_later hp retains.2.1 current
  · extract_lets t
    have same : SameCalls s (t.answerRouted p.request (.error e)) := by
      refine .trans ?_ (.answerRouted _ _ _)
      unfold t
      split
      · exact .refusedByWorker _ _
      · exact .refl s
    have timer : t.closeTimer = s.closeTimer := by
      unfold t
      split
      · exact refusedByWorker_closeTimer _ _
      · rfl
    obtain ⟨hdrain, closes, kept⟩ := (h.same same).drain_later
    exact ⟨hdrain, closes.trans same.closes, kept.trans timer⟩

theorem receiveValue_later (h : Parked env s) (hp : Taken s p) (value : Value) :
    Later env s (s.receiveValue env p value) := by
  unfold Session.receiveValue
  split
  · split
    · exact h.later ((SameCalls.quiet (close_quiet s)).trans (.answerRouted _ _ _)) rfl
    · split
      · exact h.issue_later ⟨hp.addressed, fun _ => ⟨_, rfl⟩⟩ (by simp)
      · exact h.later (.answerRouted _ _ _) rfl
  · exact h.later ((SameCalls.recordAcknowledgment s _).trans (.answerRouted _ _ _))
      (recordAcknowledgment_closeTimer s _)
  · exact h.later (.answerRouted _ _ _) rfl

theorem receiveMatched_later (h : Parked env s) (hp : Taken s p) (plain : p.command.method ≠ .close)
    (body : Body) : Later env s (s.receiveMatched env p body) := by
  unfold Session.receiveMatched
  split
  · exact h.later (.answerRouted _ _ _) rfl
  next live =>
    have current : s.current = true := by
      simp only [Bool.or_eq_true, not_or, Bool.not_eq_true'] at live
      simpa using live.2
    split
    · exact h.receiveError_later hp current _
    · split
      · exact h.later ((SameCalls.quiet (close_quiet s)).trans (.answerRouted _ _ _)) rfl
      · exact h.receiveValue_later hp _

theorem receiveMatched (h : Parked env s) (hp : Taken s p) (body : Body) :
    Parked env (s.receiveMatched env p body) := by
  by_cases plain : p.command.method = .close
  · unfold Session.receiveMatched
    rw [if_pos plain]
    split
    · exact h.same (.answerRouted _ _ _)
    · exact h.quiet (finishCloseResponse_quiet _ _)
  · exact (h.receiveMatched_later hp plain body).parked

theorem receiveResponse (h : Parked env s) (id : Nat) (body : Body) :
    Parked env (s.receiveResponse env id body) := by
  unfold Session.receiveResponse
  split
  · exact h.quiet (.of_wire rfl (fun _ => rfl) rfl (Wire.grows_close _ _) rfl)
  next p found =>
    extract_lets t
    split
    next blocking =>
      have later := (h.take found).receiveMatched_later (h.taken found) (by simp [blocking.1]) body
      refine later.parked.writeDeferredClose (later.closes.trans ?_)
      by_contra some
      simp [h.blocked some id p found blocking.1] at blocking
    · exact (h.take found).receiveMatched (h.taken found) body

/-! ## Events -/

theorem handleRequest (h : Parked env s) (id : Nat) (value : InRequest) :
    Parked env (s.handleRequest env id value) := by
  unfold Session.handleRequest
  split
  · exact h.quiet (reject_quiet _ _ _ _)
  · extract_lets t
    have numbered : Parked env t := { h with }
    have launched : t.launch.isSome = true := Option.isSome_iff_ne_none.mpr numbered.launch
    clear_value t
    simp only [launched, numbered.committed, if_true, Bool.not_true, Bool.and_false,
      Bool.false_eq_true, if_false]
    split
    · exact numbered.quiet (reject_quiet _ _ _ _)
    · exact numbered.quiet (reject_quiet _ _ _ _)
    · split <;> exact numbered.quiet (reject_quiet _ _ _ _)
    · split
      · exact numbered.quiet (supersede_quiet _ _)
      · unfold Session.turnReady
        split
        · refine quiet (startDeferredDelivery ?_) (notifyCompletion_quiet _ _ _ _)
          exact numbered.same (.settleTurn env _ _ _)
        · exact numbered.quiet (reject_quiet _ _ _ _)
    · exact numbered.quiet (clientRequest_quiet _ _ _ _ _)

theorem handleFrame (h : Parked env s) (frame : InFrame) :
    Parked env (s.handleFrame env frame) := by
  unfold Session.handleFrame
  rw [if_neg (by simpa using h.identity)]
  split
  · exact h.quiet (reject_quiet _ _ _ _)
  next id body =>
    rw [if_neg (by simp [h.opened])]
    exact h.receiveResponse _ _
  · exact h.handleRequest _ _

theorem handleClosed (h : Parked env s) : Parked env s.handleClosed := by
  have closed : Parked env s.connectionClosed := by
    by_cases hc : s.closed = true
    · unfold Session.connectionClosed
      rw [if_pos hc]
      exact h
    · exact h.disconnect (by simpa using hc)
  unfold Session.handleClosed
  extract_lets t u
  split
  · refine quiet ?_ (orderlyStop_quiet _)
    unfold u
    split
    · exact closed.quiet (abortLaunch_quiet _ _)
    · exact closed
  · exact closed

theorem handleRouted (h : Parked env s) (q : Routed) :
    Parked env (s.handleRouted env q.request) := by
  unfold Session.handleRouted
  split
  · exact h.same (.answerRouted _ _ _)
  next live =>
    refine h.issue ⟨?_, fun collect => by simp [Routed.request] at collect⟩
    simp only [Bool.or_eq_true, decide_eq_true_eq, not_or, not_not] at live
    exact live.1.2

theorem handleEvent (h : Parked env s) (e : Event) : Parked env (s.handleEvent env e) := by
  cases e with
  | ownerEnd owner ended =>
    show Parked env (s.ownerEnded env owner ended)
    unfold Session.ownerEnded
    split
    · exact h
    · split
      · exact h.policyClose
      · exact h
  | frame value =>
    show Parked env (if s.stopping = true then s else s.handleFrame env value)
    split
    · exact h
    · exact h.handleFrame value
  | closed => exact h.handleClosed
  | routed q => exact h.handleRouted q
  | autoCloseFired =>
    show Parked env
      (if s.autoClose = true then { s with autoClose := false }.policyClose env else s)
    split
    · exact policyClose { h with }
    · exact h
  | written => exact { h with }
  | reply requestID leg answer => exact h.quiet (consumeReply_quiet _ _ _ _ _)
  | supersede => exact h.quiet (supersede_quiet _ _)
  | processStarted launch child => exact h.quiet (processStarted_quiet _ _ _)
  | processExited launch error => exact h.quiet (handleExit_quiet _ _ _)
  | spawnTimeout launch =>
    show Parked env (if (s.launch = some launch && !s.committed) = true then s.spawnTimedOut else s)
    rw [if_neg (by simp [h.committed])]
    exact h
  | closeTimerFired =>
    show Parked env (if s.closeTimer = true then { s with closeTimer := false }.hardStop else s)
    split
    · exact quiet (s := { s with closeTimer := false }) { h with } (recordStop_quiet _ _)
    · exact h
  | shutdown =>
    refine quiet ?_ (orderlyStop_quiet _)
    split
    · exact h.quiet (abortLaunch_quiet _ _)
    · exact h
  | readEnded => exact { h with }
  | clock now => exact { h with }

theorem handleEvents (h : Parked env s) (events : List Event) :
    Parked env (s.handleEvents env events) := by
  induction events generalizing s with
  | nil => exact h
  | cons e events ih => exact ih (h.handleEvent e)

end Parked

end Session

end Sessionbus
