import Sessionbus.Session.Issue
import Sessionbus.Session.Loop

/-!
# Every routed request is answered once

A request the directory posted waits in one place at a time: the inbox, the pending table,
or as the close in progress, until a value is put on its channel. The queue of deferred
deliveries holds no channel: a delivery is answered when it is queued. `tally` counts the
places of one channel inside the session, and what the session does with an event keeps it.
-/

namespace Sessionbus

def Act.answersOn (k : Nat) : Act → Bool
  | .answered request _ => request.reply == .chan k
  | _ => false

theorem Act.answersOn_of_quiet {a : Act} (h : a.quiet = true) (k : Nat) :
    a.answersOn k = false := by
  cases a <;> first | rfl | cases h

/-- A written request that its response, or the end of the connection, will answer. -/
def Pending.owes (k : Nat) (p : Pending) : Bool :=
  p.command.method != .close && p.request.reply == .chan k

/-- The answers channel `k` is still to get from the request. -/
def RoutedRequest.due (r : RoutedRequest) (k : Nat) : Nat := if r.reply = .chan k then 1 else 0

/-- The event is a request to be answered on channel `k`. -/
def Event.asks (k : Nat) : Event → Bool
  | .routed q => q.reply == k
  | _ => false

def Event.due (e : Event) (k : Nat) : Nat := if e.asks k then 1 else 0

/-- Where requests wait in a session, and which identity they wait for. -/
structure Books (c : SessionCore) (nextOut : Nat) (stopping : Bool) : Prop where
  fresh : ∀ id p, c.pending.lookup id = some p → id ≤ nextOut
  scheduled : ∀ id p, c.pending.lookup id = some p → p.request.scheduled = true →
    p.request.reply = .none
  closing : ∀ id p, c.pending.lookup id = some p → p.command.method = .close →
    c.closeCall = some p.request
  plain : ∀ id p, c.pending.lookup id = some p → p.command.method ≠ .close →
    ∀ q, p.request.call ≠ .close q
  queue : ∀ r ∈ c.deferredDeliveries, r.reply = .none ∧ r.scheduled = true ∧ ∀ q, r.call ≠ .close q
  call : ∀ r, c.closeCall = some r →
    r.destination = c.identity ∧ c.committed = true ∧ (r.scheduled = true → r.reply = .none)
  lane : c.launch.isSome = true → c.identity.isSome = true ∧ c.item.peer = false
  committed : c.committed = true → c.launch.isSome = true
  live : c.committed = true → c.closed = false → c.listed = true ∧ c.item.attachment = some c.self
  opening : c.openID ≠ 0 → c.launch.isSome = true ∧ c.committed = false
  attached : c.item.attachment = some c.self → c.item.peer = true ∨ c.committed = true
  closed : c.closed = true →
    stopping = true ∧ c.item.attachment ≠ some c.self ∧ c.pending = ∅ ∧ c.deferredDeliveries = []

namespace Session

abbrev Ledger (s : Session) : Prop := Books s.toSessionCore s.nextOut s.stopping

def tally (s : Session) (k : Nat) : Nat :=
  s.history.countP (Act.answersOn k) + s.pending.values.countP (Pending.owes k) +
    s.closeCall.toList.countP fun r => r.reply == .chan k

/-- The session took on requests for which the channels are owed `due`. -/
structure Takes (due : Nat → Nat) (s t : Session) : Prop where
  books : t.Ledger
  tally : ∀ k, t.tally k = s.tally k + due k
  closed : t.closed = s.closed
  launch : s.launch.isSome = true → t.launch.isSome = true
  identity : s.launch.isSome = true → t.identity = s.identity

/-- The session kept every channel's count. -/
abbrev Balances (s t : Session) : Prop := Takes (fun _ => 0) s t

variable {env : Env} {got : Option InFrame} {s t u : Session}

theorem tally_congr (hhist : t.history = s.history) (hpend : t.pending = s.pending)
    (hcall : t.closeCall = s.closeCall) (k : Nat) : t.tally k = s.tally k := by
  simp only [tally, hhist, hpend, hcall]

theorem tally_append {l : List Act} (hhist : t.history = s.history ++ l)
    (hl : ∀ a ∈ l, ∀ k, a.answersOn k = false) (hpend : t.pending = s.pending)
    (hcall : t.closeCall = s.closeCall) (k : Nat) : t.tally k = s.tally k := by
  have hzero : l.countP (Act.answersOn k) = 0 := List.countP_eq_zero.mpr fun a ha => by
    simp [hl a ha k]
  simp only [tally, hhist, hpend, hcall, List.countP_append, hzero, Nat.add_zero]

theorem tally_answerRouted (s : Session) {r : RoutedRequest} (a : Answer)
    (hr : r.scheduled = true → r.reply = .none) (k : Nat) :
    (s.answerRouted r a).tally k = s.tally k + r.due k := by
  unfold tally RoutedRequest.due
  rw [answerRouted_history, List.countP_append]
  by_cases hs : r.scheduled = true
  · simp [answerAct, hs, hr hs, Act.answersOn]
  · by_cases hk : r.reply = .chan k
    · simp [answerAct, hs, hk, Act.answersOn]
      omega
    · simp [answerAct, hs, hk, Act.answersOn]

namespace Takes

theorem refl (h : s.Ledger) : Balances s s := ⟨h, fun _ => rfl, rfl, fun h => h, fun _ => rfl⟩

theorem trans {d d' : Nat → Nat} (h : Takes d s t) (h' : Takes d' t u) :
    Takes (fun k => d k + d' k) s u where
  books := h'.books
  tally k := by rw [h'.tally, h.tally, Nat.add_assoc]
  closed := h'.closed.trans h.closed
  launch := h'.launch ∘ h.launch
  identity hl := (h'.identity (h.launch hl)).trans (h.identity hl)

theorem after {d : Nat → Nat} (h : Balances s t) (h' : Takes d t u) : Takes d s u :=
  { h.trans h' with tally := fun k => by rw [h'.tally, h.tally, Nat.add_zero] }

theorem before {d : Nat → Nat} (h : Takes d s t) (h' : Balances t u) : Takes d s u :=
  { h.trans h' with tally := fun k => by rw [h'.tally, h.tally, Nat.add_zero] }

theorem same (h : t.Ledger) {l : List Act} (hhist : t.history = s.history ++ l)
    (hl : ∀ a ∈ l, ∀ k, a.answersOn k = false) (hpend : t.pending = s.pending)
    (hcall : t.closeCall = s.closeCall) (hclosed : t.closed = s.closed)
    (hlaunch : t.launch = s.launch) (hid : t.identity = s.identity) : Balances s t :=
  ⟨h, tally_append hhist hl hpend hcall, hclosed, fun h => hlaunch ▸ h, fun _ => hid⟩

end Takes

theorem Ledger.answerRouted (h : s.Ledger) (r : RoutedRequest) (a : Answer)
    (hr : r.scheduled = true → r.reply = .none) : Takes r.due s (s.answerRouted r a) :=
  ⟨h, tally_answerRouted s a hr, rfl, fun h => h, fun _ => rfl⟩

theorem Ledger.mono (h : s.Ledger) (hcore : t.toSessionCore = s.toSessionCore)
    (hnext : s.nextOut ≤ t.nextOut) (hstop : s.stopping = true → t.stopping = true) : t.Ledger := by
  unfold Ledger
  rw [hcore]
  exact { h with
    fresh := fun id p hp => le_trans (h.fresh id p hp) hnext
    closed := fun hc => ⟨hstop (h.closed hc).1, (h.closed hc).2⟩ }

theorem Ledger.quiet (h : s.Ledger) (hq : Quiet s t) : Balances s t := by
  obtain ⟨l, hl, hquiet⟩ := hq.history
  have hc := hq.core
  exact .same (h.mono hc hq.nextOut hq.stopping) hl
    (fun a ha k => Act.answersOn_of_quiet (hquiet a ha) k) (by rw [hc]) (by rw [hc]) (by rw [hc])
    (by rw [hc]) (by rw [hc])

/-! ## Issuing -/

/-- A request that `issue` may get: a close comes from the inbox, for the identity of a
committed lane. -/
structure Issuable (s : Session) (r : RoutedRequest) : Prop where
  scheduled : r.scheduled = true → r.reply = .none
  close : ∀ p, r.call = .close p → r.collect = false ∧ r.destination = s.identity ∧
    s.committed = true

theorem pending_new (h : s.Ledger) : s.nextOut + 1 ∉ s.pending := by
  intro hmem
  obtain ⟨p, hp⟩ := Option.isSome_iff_exists.mp (AList.lookup_isSome.mpr hmem)
  have := h.fresh _ p hp
  omega

theorem Ledger.sent (h : s.Ledger) (hopen : s.closed = false) {r : RoutedRequest} {c : Command}
    (item : Entry) (hitem : item.peer = s.item.peer ∧ item.attachment = s.item.attachment)
    (hr : r.scheduled = true → r.reply = .none) (hplain : ∀ q, r.call ≠ .close q)
    (hc : c.method ≠ .close) : Takes r.due s (s.sent r c item) where
  books := { h with
    fresh := by
      intro id p hp
      rcases AList.lookup_insert_iff.mp hp with ⟨rfl, -⟩ | ⟨-, hp⟩
      · exact le_rfl
      · exact le_trans (h.fresh id p hp) (Nat.le_succ _)
    scheduled := by
      intro id p hp
      rcases AList.lookup_insert_iff.mp hp with ⟨-, rfl⟩ | ⟨-, hp⟩
      · exact hr
      · exact h.scheduled id p hp
    closing := by
      intro id p hp
      rcases AList.lookup_insert_iff.mp hp with ⟨-, rfl⟩ | ⟨-, hp⟩
      · exact fun hm => absurd hm hc
      · exact h.closing id p hp
    plain := by
      intro id p hp
      rcases AList.lookup_insert_iff.mp hp with ⟨-, rfl⟩ | ⟨-, hp⟩
      · exact fun _ => hplain
      · exact h.plain id p hp
    lane := fun hl => ⟨(h.lane hl).1, hitem.1.trans (h.lane hl).2⟩
    live := fun hm ho => ⟨(h.live hm ho).1, hitem.2.trans (h.live hm ho).2⟩
    attached := fun ha => by
      rw [sent_toSessionCore] at ha ⊢
      exact (h.attached (hitem.2.symm.trans ha)).imp_left hitem.1.trans
    closed := fun hcl => by
      rw [sent_toSessionCore] at hcl
      exact absurd hcl (by simp [hopen]) }
  tally k := by
    have hv := AList.values_insert_of_notMem (v := (⟨r, c⟩ : Pending)) (pending_new h)
    unfold tally RoutedRequest.due
    rw [sent_history, sent_toSessionCore]
    simp only [hv, List.countP_append, List.countP_cons, Pending.owes, Act.answersOn]
    by_cases hk : r.reply = .chan k
    · simp [hk, hc]
      omega
    · simp [hk]
  closed := rfl
  launch h := h
  identity _ := rfl

theorem Ledger.notSent (h : s.Ledger) (c : Command) (wire : Wire) (encoded : Bool) :
    Balances s (s.notSent c wire encoded) :=
  .same (h.mono rfl (Nat.le_succ _) fun hs => hs) rfl (by simp [Act.answersOn]) rfl rfl rfl rfl rfl

theorem refuseRun_frame (s : Session) (id : String) :
    s.refuseRun id = s ∨ ∃ running, s.refuseRun id =
      ({ s.clearRun (s.runSequence - 1) with item := { s.item with running } }.setDeadline
        s.previousDeadline) := by
  unfold refuseRun
  split
  · exact .inl rfl
  · exact .inr ⟨_, rfl⟩

theorem Ledger.refuseRun (h : s.Ledger) (id : String) : Balances s (s.refuseRun id) := by
  rcases refuseRun_frame s id with heq | ⟨running, heq⟩
  · rw [heq]
    exact .refl h
  · rw [heq]
    exact .same (l := []) { h with lane := h.lane } (by simp) (by simp) rfl rfl rfl rfl rfl

theorem Ledger.wrote (h : s.Ledger) (hopen : s.closed = false) {r : RoutedRequest} {c : Command}
    (hr : r.scheduled = true → r.reply = .none) (hplain : ∀ q, r.call ≠ .close q)
    (hc : c.method ≠ .close) (hw : Wrote env s r c t) : Takes r.due s t := by
  cases hw with
  | sent => exact h.sent hopen _ ⟨rfl, rfl⟩ hr hplain hc
  | unsent why =>
    rename_i wire encoded
    have hn := h.notSent c wire encoded
    split
    · have hrun := hn.books.refuseRun r.runID
      exact hn.after (hrun.after (hrun.books.answerRouted r _ hr))
    · exact hn.after (hn.books.answerRouted r _ hr)

theorem Ledger.prepared (h : s.Ledger) {s₁ : Session} {r r₁ : RoutedRequest} {c : Command}
    (hp : Prepared s r s₁ r₁ c) : Balances s s₁ := by
  cases hp with
  | plain => exact .refl h
  | execute =>
    exact .same (l := [.reserved (s.runSequence + 1)]) { h with lane := h.lane } rfl
      (by simp [Act.answersOn]) rfl rfl rfl
      rfl rfl
  | seed =>
    exact .same (l := [.reserved (s.runSequence + 1)]) { h with lane := h.lane } rfl
      (by simp [Act.answersOn]) rfl rfl rfl
      rfl rfl

theorem Prepared.plainCall {s₁ : Session} {r r₁ : RoutedRequest} {c : Command}
    (hp : Prepared s r s₁ r₁ c) : r₁.reply = r.reply ∧ r₁.scheduled = r.scheduled ∧
    (∀ q, r₁.call ≠ .close q) ∧ c.method ≠ .close := by
  cases hp with
  | plain h =>
    refine ⟨rfl, rfl, fun q hq => (by rw [hq] at h; cases h), ?_⟩
    cases hcall :
      r.call <;> rw [hcall] at h <;> simp only [plainCommand, Option.some.injEq, reduceCtorEq] at h
    case deliver p =>
      split at h
      · cases h
      · cases h
        simp [Command.method]
    all_goals subst h; simp [Command.method]
  | execute call =>
    refine ⟨rfl, rfl, fun q hq => ?_, by simp [Command.method]⟩
    rcases call with ⟨h, -⟩ | ⟨h, -⟩ <;> exact absurd (h.symm.trans hq) (by simp)
  | seed call =>
    exact ⟨rfl, rfl, fun q hq => absurd (call.symm.trans hq) (by simp), by simp [Command.method]⟩

/-! ## Closing -/

theorem settledActs_answer (h : ∀ r ∈ s.deferredDeliveries, r.reply = .none ∧ r.scheduled = true ∧
      ∀ q, r.call ≠ .close q)
    (code : Code) : ∀ a ∈ settledActs code s.deferredDeliveries, ∀ k, a.answersOn k = false := by
  intro a ha k
  obtain ⟨r, hr, ha⟩ := List.mem_flatMap.mp ha
  simp only [answerAct, (h r hr).2.1, if_true, List.mem_cons, List.not_mem_nil, or_false] at ha
  rcases ha with rfl | rfl <;> rfl

theorem Ledger.settleDeferredDeliveries (h : s.Ledger) (code : Code) :
    Balances s (s.settleDeferredDeliveries code) := by
  rw [settleDeferredDeliveries_eq]
  exact .same { h with
    queue := by simp [setDeferred]
    closed := fun hc => ⟨(h.closed hc).1, (h.closed hc).2.1, (h.closed hc).2.2.1, rfl⟩ }
    rfl (settledActs_answer h.queue code) rfl rfl rfl rfl rfl

theorem Ledger.writeDeferredClose (env : Env) (h : s.Ledger) (hopen : s.closed = false) :
    Balances s (s.writeDeferredClose env) := by
  have hc := writeDeferredClose_closed env s
  generalize s.writeDeferredClose env = t at hc ⊢
  cases hc with
  | waits => exact .refl h
  | sent call params =>
    rename_i r p _ _ _
    refine ⟨{ h with
      fresh := ?_, scheduled := ?_, closing := ?_, plain := ?_
      lane := h.lane
      live := h.live
      attached := h.attached
      closed := fun hcl => ?_ }, fun k => ?_, rfl, fun h => h, fun _ => rfl⟩
    · intro id q hq
      rcases AList.lookup_insert_iff.mp hq with ⟨rfl, -⟩ | ⟨-, hq⟩
      · exact le_rfl
      · exact le_trans (h.fresh id q hq) (Nat.le_succ _)
    · intro id q hq
      rcases AList.lookup_insert_iff.mp hq with ⟨-, rfl⟩ | ⟨-, hq⟩
      · exact (h.call r call).2.2
      · exact h.scheduled id q hq
    · intro id q hq
      rcases AList.lookup_insert_iff.mp hq with ⟨-, rfl⟩ | ⟨-, hq⟩
      · exact fun _ => call
      · exact h.closing id q hq
    · intro id q hq
      rcases AList.lookup_insert_iff.mp hq with ⟨-, rfl⟩ | ⟨-, hq⟩
      · exact fun hm => absurd rfl hm
      · exact h.plain id q hq
    · rw [sent_toSessionCore] at hcl
      exact absurd hcl (by simp [hopen])
    · have hv := AList.values_insert_of_notMem (v := (⟨r, .close p⟩ : Pending)) (pending_new h)
      unfold tally
      rw [sent_history, sent_toSessionCore]
      simp [hv, Pending.owes, Act.answersOn, Command.method]
  | unsent =>
    rename_i r p wire encoded _ _ _
    exact (h.notSent _ wire encoded).before
      ((h.notSent _ wire encoded).books.quiet (recordStop_quiet _ _))

theorem Ledger.beginClose (env : Env) (h : s.Ledger) (hopen : s.closed = false) {r : RoutedRequest}
    (p : SessionCloseRequest) (hfirst : s.closeCall = none) (hdest : r.destination = s.identity)
    (hcom : s.committed = true) (hr : r.scheduled = true → r.reply = .none) :
    Takes r.due s (s.beginClose env r p) := by
  unfold Session.beginClose
  have hact : Balances s (s.stopAutoClose.act .closing) :=
    .same h rfl (by simp [Act.answersOn]) rfl rfl rfl rfl rfl
  have hset := hact.after (hact.books.settleDeferredDeliveries .busy)
  generalize hu : (s.stopAutoClose.act .closing).settleDeferredDeliveries .busy = u at hset ⊢
  have hu' : u.closeCall = none ∧ u.identity = s.identity ∧ u.committed = true := by
    rw [← hu, settleDeferredDeliveries_eq]
    exact ⟨hfirst, rfl, hcom⟩
  have hold : Takes r.due u (u.holdClose r p.forget) := by
    refine ⟨{ hset.books with
      closing := ?_
      call := ?_ }, fun k => ?_, rfl, fun h => h, fun _ => rfl⟩
    · intro id q hq hm
      exact absurd (hset.books.closing id q hq hm) (by simp [hu'.1])
    · rintro _ ⟨⟩
      exact ⟨hdest.trans hu'.2.1.symm, hu'.2.2, hr⟩
    · unfold tally RoutedRequest.due
      by_cases hk : r.reply = .chan k <;> simp [holdClose, hu'.1, hk]
  have hw := hold.books.writeDeferredClose env (hold.closed.trans (hset.closed.trans hopen))
  exact (hset.after hold).before hw

theorem Ledger.policyClose (h : s.Ledger) (live : s.stopping = false) (first : s.closeCall = none)
    (hcom : s.committed = true) : Balances s (s.policyClose env) := by
  have hopen : s.closed = false := by
    cases hc : s.closed
    · rfl
    · exact absurd (h.closed hc).1 (by simp [live])
  unfold Session.policyClose
  rw [if_neg (by simp [live, first, hcom])]
  have hb := Ledger.beginClose env (s := s.stopAutoClose)
    (r := { destination := s.identity, call := .close { sessionID := s.item.row.sessionID },
            reply := .own })
    h hopen { sessionID := s.item.row.sessionID } first rfl hcom (by simp)
  exact { hb with tally := fun k => (hb.tally k).trans (by simp [RoutedRequest.due, tally]) }

theorem Ledger.issue (env : Env) (h : s.Ledger) (hopen : s.closed = false) {r : RoutedRequest}
    (hr : Issuable s r) : Takes r.due s (s.issue env r) := by
  have hi := issue_issued env s r
  generalize s.issue env r = t at hi ⊢
  cases hi with
  | refused => exact h.answerRouted r _ hr.scheduled
  | closing call admitted =>
    obtain ⟨hcollect, hdest, hcom⟩ := hr.close _ call
    have hfirst : s.closeCall = none := by
      by_contra hne
      exact absurd (admitted.open_ hne) (by simp [hcollect])
    exact h.beginClose env hopen _ hfirst hdest hcom hr.scheduled
  | written _ prepared wrote =>
    obtain ⟨hreply, hsched, hplain, hc⟩ := prepared.plainCall
    have hp := h.prepared prepared
    have hw := hp.books.wrote (hp.closed.trans hopen) (by rw [hreply, hsched]; exact hr.scheduled)
        hplain hc wrote
    exact hp.after
      { hw with tally := fun k => by rw [hw.tally, RoutedRequest.due, hreply, ← RoutedRequest.due] }

/-! ## Responses -/

theorem Ledger.take (h : s.Ledger) (id : Nat) : (s.take id).Ledger := by
  have hsub : ∀ {k q}, (s.pending.erase id).lookup k = some q →
      s.pending.lookup k = some q := fun hk =>
    (AList.lookup_erase_iff.mp hk).2
  exact { h with
    fresh := fun k q hk => h.fresh k q (hsub hk)
    scheduled := fun k q hk => h.scheduled k q (hsub hk)
    closing := fun k q hk => h.closing k q (hsub hk)
    plain := fun k q hk => h.plain k q (hsub hk)
    closed := fun hc => by
      obtain ⟨hstop, hatt, hpend, hdef⟩ := h.closed hc
      refine ⟨hstop, hatt, ?_, hdef⟩
      rw [take_toSessionCore, hpend]
      rfl }

theorem tally_take {id : Nat} {p : Pending} (found : s.pending.lookup id = some p) (k : Nat) :
    (s.take id).tally k + (if p.owes k then 1 else 0) = s.tally k := by
  have hperm := (AList.values_erase_perm found).countP_eq (Pending.owes k)
  unfold tally
  rw [hperm, List.countP_cons]
  simp only [take_toSessionCore, take_history]
  omega

/-- A response takes its request from the table, and its channel is answered or kept. -/
theorem balances_of_take {id : Nat} {p : Pending} (found : s.pending.lookup id = some p)
    (hc : p.command.method ≠ .close) (ht : Takes p.request.due (s.take id) t) : Balances s t where
  books := ht.books
  tally k := by
    rw [ht.tally, ← tally_take found k, Pending.owes, RoutedRequest.due]
    by_cases hk : p.request.reply = .chan k <;> simp [hk, hc]
  closed := ht.closed
  launch := ht.launch
  identity := ht.identity

theorem Ledger.live_close (h : s.Ledger) (hopen : s.closed = false) {id : Nat} {p : Pending}
    (found : s.pending.lookup id = some p) (hc : p.command.method = .close) : s.Live p := by
  obtain ⟨hdest, hcom, -⟩ := h.call _ (h.closing id p found hc)
  obtain ⟨hlisted, hatt⟩ := h.live hcom hopen
  have hid := (h.lane (h.committed hcom)).1
  exact ⟨hdest, by simp [current, Session.attached, hid, hlisted, hatt]⟩

theorem Ledger.answered (h : s.Ledger) (hopen : s.closed = false) {id : Nat} {p : Pending}
    (found : s.pending.lookup id = some p) (hplain : s.Live p → p.command.method ≠ .close)
    (a : Answer) : Balances s ((s.take id).answerRouted p.request a) := by
  have hc : p.command.method ≠ .close := fun hc => hplain (h.live_close hopen found hc) hc
  exact balances_of_take found hc ((h.take id).answerRouted _ a (h.scheduled id p found))

theorem Ledger.closeAnswered (h : s.Ledger) {id : Nat} {p : Pending}
    (found : s.pending.lookup id = some p) (hc : p.command.method = .close) :
    Balances s (s.take id) :=
  ⟨h.take id, fun k => by rw [← tally_take found k]; simp [Pending.owes, hc], rfl, fun h => h,
    fun _ => rfl⟩

theorem Ledger.recordAcknowledgment (h : s.Ledger) (ref : RunRef) :
    Balances s (s.recordAcknowledgment ref) := by
  unfold Session.recordAcknowledgment
  split
  · exact .refl h
  · split
    · exact .refl h
    · split
      · rename_i n _ _
        exact .same (l := [.acknowledged n]) { h with lane := h.lane } rfl
          (by simp [Act.answersOn]) rfl rfl rfl rfl rfl
      · exact .refl h

theorem Ledger.enqueue (h : s.Ledger) (hopen : s.closed = false) (r : RoutedRequest)
    (hr : r.scheduled = true → r.reply = .none) (hplain : ∀ q, r.call ≠ .close q) :
    Takes r.due s (s.enqueue r) := by
  have ha := h.answerRouted r (.value (.receipt .queuedForNextTurn)) hr
  refine ha.before ?_
  refine .same (l := [.queued { r with scheduled := true, reply := .none }]) { ha.books with
    queue := fun q hq => ?_
    closed := fun hc => absurd (hopen.symm.trans hc) (by simp) } rfl
      (by simp [Act.answersOn]) rfl rfl rfl rfl rfl
  rcases List.mem_append.mp hq with hq | hq
  · exact h.queue q hq
  · rw [List.mem_singleton.mp hq]
    exact ⟨rfl, rfl, hplain⟩

theorem Ledger.refusedByWorker (h : s.Ledger) (id : String) :
    Balances s (s.refusedByWorker id) := by
  unfold Session.refusedByWorker
  split
  · exact .refl h
  · have ha : Balances s (s.act (.refused s.runSequence)) :=
      .same h rfl (by simp [Act.answersOn]) rfl rfl rfl rfl rfl
    exact ha.after (ha.books.refuseRun id)

theorem Ledger.settleTurn (h : s.Ledger) (id : Nat) (value : TurnReady) :
    Balances s (s.settleTurn env id value) := by
  have he : Balances s s.endRun := .same (l := []) { h with lane := h.lane } (by simp [endRun])
      (by simp) rfl rfl rfl rfl rfl
  have ha : Balances s (s.endRun.armDeadline value.state) := by
    unfold armDeadline
    extract_lets policy
    split
    · split
      · exact he.after
          (.same (l := []) { he.books with lane := he.books.lane } (by simp) (by simp) rfl rfl
            rfl rfl rfl)
      · exact he
    · exact he
  exact ha.before (ha.books.quiet (respond_quiet _ _ _ _ _))

theorem Ledger.popped (h : s.Ledger) (hopen : s.closed = false) {r : RoutedRequest}
    {rest : List RoutedRequest} (hq : s.deferredDeliveries = r :: rest) :
    Balances s ((s.pop r rest).issue env r) := by
  obtain ⟨hnone, hsched, hplain⟩ := h.queue r (by rw [hq]; exact List.mem_cons_self)
  have hpop : Balances s (s.pop r rest) :=
    .same (l := [.started r]) { h with
      queue := fun q hr => h.queue q (by rw [hq]; exact List.mem_cons_of_mem _ hr)
      closed := fun hc => absurd (hopen.symm.trans hc) (by simp) } rfl
        (by simp [Act.answersOn]) rfl rfl rfl rfl rfl
  have hi := hpop.books.issue env (hpop.closed.trans hopen) (r := r)
    ⟨fun _ => hnone, fun p hp => absurd hp (hplain p)⟩
  exact hpop.before { hi with tally := fun k => by rw [hi.tally]; simp [RoutedRequest.due, hnone] }

theorem Ledger.startDeferredDelivery (h : s.Ledger) (hopen : s.closed = false) :
    Balances s (s.startDeferredDelivery env) := by
  refine startDeferred_keeps env (I := Balances s) ?_ _ s (.refl h)
  intro t r rest ht hq _
  exact ht.before (ht.books.popped (ht.closed.trans hopen) hq)

/-! ## Settling -/

/-- Settling answers what the table owes. The close in progress, which it passes over, the table
does not owe. -/
theorem tally_settlePending (h : s.Ledger) (once : ∀ k, s.tally k ≤ 1)
    (hpend : u.pending = s.pending) (hdef : u.deferredDeliveries = s.deferredDeliveries)
    (hcall : u.closeCall = s.closeCall) (code : Code) (k : Nat) :
    (u.settlePending code).tally k = u.tally k := by
  have howed : ∀ p ∈ s.pending.values, ((answerAct p.request (.code code)).answersOn k &&
      !s.closeCall.any fun close => close.reply == p.request.reply) = p.owes k := by
    intro p hp
    obtain ⟨id, found⟩ := AList.mem_values.mp hp
    by_cases hm : p.command.method = .close
    · simp [h.closing id p found hm, Pending.owes, hm]
    · by_cases hk : p.request.reply = .chan k
      · have hsched : p.request.scheduled = false := by
          cases hs : p.request.scheduled
          · rfl
          · exact absurd ((h.scheduled id p found hs).symm.trans hk) (by simp)
        have howes : p.owes k = true := by simp [Pending.owes, hm, hk]
        have hpos : 0 < s.pending.values.countP (Pending.owes k) :=
          List.countP_pos_iff.mpr ⟨p, hp, howes⟩
        have hother : (s.closeCall.any fun close => close.reply == p.request.reply) = false := by
          cases hc : s.closeCall with
          | none => rfl
          | some close =>
            have honce := once k
            by_cases hr : close.reply = .chan k
            · simp only [tally, hc, Option.toList_some, hr, List.countP_singleton, beq_self_eq_true,
                if_true] at honce
              omega
            · simp [hk, hr]
        rw [hother, howes]
        simp [answerAct, hsched, Act.answersOn, hk]
      · have hno : p.owes k = false := by simp [Pending.owes, hk]
        unfold answerAct
        split <;> simp [Act.answersOn, hk, hno]
  have hcount : (u.settledBy.map fun p => answerAct p.request (.code code)).countP
      (Act.answersOn k) = u.pending.values.countP (Pending.owes k) := by
    rw [List.countP_map, settledBy, List.countP_filter, hpend, hcall]
    exact List.countP_congr fun p hp => by rw [← howed p hp]; rfl
  have hqueue : (settledActs code u.deferredDeliveries).countP (Act.answersOn k) = 0 := by
    rw [hdef]
    exact List.countP_eq_zero.mpr fun a ha => by simp [settledActs_answer h.queue code a ha k]
  rw [settlePending_eq]
  unfold tally
  simp only [setPending_toSessionCore, setPending_history, setDeferred_toSessionCore,
    setDeferred_history, acts_toSessionCore, acts_history, List.countP_append, hcount, hqueue,
    AList.values_empty, List.countP_nil]
  omega

theorem Ledger.settle (h : s.Ledger) (once : ∀ k, s.tally k ≤ 1) (code : Code) :
    Balances s (s.settlePending code) := by
  have htally := tally_settlePending h once rfl rfl rfl code
  rw [settlePending_eq] at htally ⊢
  exact ⟨{ h with
    fresh := by simp [setPending]
    scheduled := by simp [setPending]
    closing := by simp [setPending]
    plain := by simp [setPending]
    queue := by simp [setPending, setDeferred]
    closed := fun hc => ⟨(h.closed hc).1, (h.closed hc).2.1, rfl, rfl⟩ }, htally, rfl, fun h => h,
      fun _ => rfl⟩

theorem detach_frame (s : Session) : ∃ item listed, s.detach = { s with item, listed } ∧
    item.peer = s.item.peer ∧ item.attachment ≠ some s.self := by
  unfold detach
  split
  · split
    · exact ⟨_, _, rfl, rfl, by simp⟩
    · exact ⟨_, _, rfl, rfl, by simp⟩
  · rename_i h
    exact ⟨_, _, rfl, rfl, by simpa [Session.attached] using h⟩

theorem Ledger.disconnect (h : s.Ledger) (once : ∀ k, s.tally k ≤ 1) :
    s.connectionClosed.Ledger ∧ (∀ k, s.connectionClosed.tally k = s.tally k) ∧
    s.connectionClosed.closed = true ∧
      s.connectionClosed.launch = s.launch ∧ s.connectionClosed.owned = s.owned := by
  unfold connectionClosed
  split
  · rename_i hc
    exact ⟨h, fun _ => rfl, hc, rfl, rfl⟩
  · obtain ⟨item, listed, heq, hpeer, hatt⟩ := detach_frame (s.markClosed.act .disconnected)
    rw [heq]
    have htally := tally_settlePending (u := { s.markClosed.act .disconnected with item, listed }) h
        once rfl rfl rfl
      .notConnected
    have hsame := tally_append (s := s) (t := { s.markClosed.act .disconnected with item, listed })
      (l := [.disconnected]) rfl (by simp [Act.answersOn]) rfl rfl
    refine ⟨?_, fun k => (htally k).trans (hsame k), ?_⟩
    · rw [settlePending_eq]
      exact { h with
        fresh := by simp [setPending]
        scheduled := by simp [setPending]
        closing := by simp [setPending]
        plain := by simp [setPending]
        queue := by simp [setPending, setDeferred]
        lane := fun hl => ⟨(h.lane hl).1, hpeer.trans (h.lane hl).2⟩
        live := fun _ hc =>
          absurd hc (by simp [setRequests, setPending, setDeferred, acts, act, markClosed])
        attached := fun ha => absurd ha hatt
        closed := fun _ => ⟨rfl, hatt, rfl, rfl⟩ }
    · rw [settlePending_eq]
      exact ⟨rfl, rfl, rfl⟩

/-! ## Hellos -/

theorem Ledger.unlaunched (h : s.Ledger) (hid : s.launch = none ∨ s.identity = none) :
    s.launch = none := by
  rcases hid with hl | hid
  · exact hl
  · cases hl : s.launch with
    | none => rfl
    | some _ => exact absurd (h.lane (by rw [hl]; rfl)).1 (by simp [hid])

theorem Ledger.uncommitted (h : s.Ledger) (hl : s.launch = none) : s.committed = false := by
  cases hc : s.committed
  · rfl
  · exact absurd (h.committed hc) (by simp [hl])

theorem Ledger.uncalled (h : s.Ledger) (hc : s.committed = false) : s.closeCall = none := by
  cases hcall : s.closeCall with
  | none => rfl
  | some r => exact absurd (h.call r hcall).2.1 (by simp [hc])

theorem Ledger.install (h : s.Ledger) (hopen : s.closed = false)
    (hid : s.launch = none ∨ s.identity = none) (entry : Ptr) (row : Row) (groups : List String) :
    Balances s (s.installIdentity entry row groups) := by
  have hl := h.unlaunched hid
  have hcom := h.uncommitted hl
  have hcall := h.uncalled hcom
  refine ⟨{ h with
    call := fun r hr => absurd (hcall.symm.trans hr) (by simp)
    lane := fun hs => absurd (hl ▸ hs) (by simp)
    live := fun hs => absurd (hcom.symm.trans hs) (by simp)
    attached := fun _ => .inl rfl
    closed := fun hs => absurd (hopen.symm.trans hs) (by simp) }, tally_congr rfl rfl rfl, rfl,
      fun h => h, fun hs => ?_⟩
  exact absurd (hl ▸ hs) (by simp)

theorem Ledger.startLane (h : s.Ledger) (hopen : s.closed = false) (hid : s.identity = none)
    (start : LaneStart) (id : Nat) : Balances s (s.startLane env start id) := by
  have hl := h.unlaunched (.inr hid)
  have hcom := h.uncommitted hl
  have hcall := h.uncalled hcom
  have hclaim : Balances s (s.claimLane start) := by
    refine ⟨{ h with
      call := fun r hr => absurd (hcall.symm.trans hr) (by simp)
      lane := fun _ => ⟨rfl, rfl⟩
      committed := fun hs => absurd (hcom.symm.trans hs) (by simp)
      live := fun hs => absurd (hcom.symm.trans hs) (by simp)
      opening := fun _ => ⟨rfl, hcom⟩
      attached := fun ha => absurd ha (by simp [claimLane])
      closed := fun hs => absurd (hopen.symm.trans hs) (by simp) }, tally_congr rfl rfl rfl, rfl,
        fun _ => rfl,
      fun hs => absurd (hl ▸ hs) (by simp)⟩
  unfold Session.startLane
  extract_lets s₁ field result
  split
  · exact hclaim.after
      (.same (hclaim.books.mono rfl le_rfl fun _ => rfl) rfl (by simp [Act.answersOn]) rfl rfl
        rfl rfl rfl)
  · have hresp := hclaim.before (hclaim.books.quiet (respond_quiet env _ id .hello (.value .empty)))
    have hframe := (respond_quiet env (s.claimLane start) id .hello (.value .empty)).core
    change Balances s ((s₁.respond env id .hello (.value .empty)).beginOpen env start.fresh)
    generalize hu : s₁.respond env id .hello (.value .empty) = u at hresp ⊢
    have hul : u.launch.isSome = true ∧ u.committed = false := by
      rw [← hu, hframe]
      exact ⟨rfl, hcom⟩
    unfold beginOpen
    extract_lets row resume
    generalize Command.openSession _ = c
    rcases sendCommand_cases env u c with ⟨-, -, -, heq⟩ | ⟨wire, encoded, -, heq⟩
    · rw [heq]
      refine hresp.after
        (.same (l := [.wrote (u.nextOut + 1) c]) ?_ rfl (by simp [Act.answersOn]) rfl rfl
          rfl rfl rfl)
      exact { hresp.books with
        fresh := fun id p hp => le_trans (hresp.books.fresh id p hp) (Nat.le_succ _)
        opening := fun _ => hul }
    · rw [heq]
      have hn := hresp.before (hresp.books.notSent c wire encoded)
      exact hn.before (hn.books.quiet ((abortLaunch_quiet _ _).trans (recordStop_quiet _ _)))

theorem Ledger.opened (h : s.Ledger) (hopen : s.closed = false) (hid : s.openID ≠ 0) (row : Row) :
    Balances s ({ s with openID := 0 }.commit row) := by
  obtain ⟨hl, hcom⟩ := h.opening hid
  have hcall := h.uncalled hcom
  exact ⟨{ h with
    call := fun r hr => absurd (hcall.symm.trans hr) (by simp)
    committed := fun _ => hl
    live := fun _ _ => ⟨rfl, rfl⟩
    opening := fun hne => absurd rfl hne
    attached := fun _ => .inr rfl
    closed := fun hs => absurd (hopen.symm.trans hs) (by simp) }, tally_congr rfl rfl rfl, rfl,
      fun h => h, fun _ => rfl⟩

/-! ## Frames -/

theorem Ledger.issueTaken (h : s.Ledger) (hopen : s.closed = false) {id : Nat} {p : Pending}
    (found : s.pending.lookup id = some p) (hc : p.command.method ≠ .close) {r : RoutedRequest}
    (hreply : r.reply = p.request.reply) (hsched : r.scheduled = p.request.scheduled)
    (hplain : ∀ q, r.call ≠ .close q) : Balances s ((s.take id).issue env r) := by
  have hi := (h.take id).issue env hopen (r := r)
    ⟨by rw [hreply, hsched]; exact h.scheduled id p found, fun q hq => absurd hq (hplain q)⟩
  refine balances_of_take found hc { hi with tally := fun k => ?_ }
  rw [hi.tally, RoutedRequest.due, RoutedRequest.due, hreply]

theorem Ledger.sourced (h : s.Ledger) (hopen : s.closed = false) (hgot : got ≠ none)
    {r : RoutedRequest} {s₀ : Session} (source : Source got s r s₀) :
    Balances s (s₀.issue env r) := by
  cases source with
  | inbox posted => exact absurd posted hgot
  | refused _ found _ retains =>
    have hc : _ ≠ Method.close := fun hm => absurd (retains.method.symm.trans hm) (by simp)
    exact h.issueTaken hopen found hc rfl rfl (h.plain _ _ found hc)
  | collect _ found _ method =>
    exact h.issueTaken hopen found (fun hm => absurd (method.symm.trans hm) (by simp)) rfl
      rfl (by simp)

theorem Ledger.moved (h : s.Ledger) (hopen : s.closed = false) (once : ∀ k, s.tally k ≤ 1)
    (hgot : got ≠ none) (hm : Move env got s t) : Balances s t := by
  cases hm with
  | quiet hq => exact h.quiet hq
  | numbered =>
    exact .same (l := []) { h with lane := h.lane } (by simp) (by simp) rfl rfl rfl rfl rfl
  | turnedAway posted => exact absurd posted hgot
  | issue source => exact h.sourced hopen hgot source
  | answer _ found plain => exact h.answered hopen found plain _
  | acknowledge _ found _ hcmd =>
    rename_i id p _ ref _ _
    have hc : p.command.method ≠ .close := by rw [hcmd]; simp [Command.method]
    have hack := (h.take id).recordAcknowledgment ref
    exact balances_of_take found hc
      (hack.after (hack.books.answerRouted _ _ (h.scheduled _ _ found)))
  | enqueue _ found _ retains =>
    have hc : _ ≠ Method.close := fun hm => absurd (retains.method.symm.trans hm) (by simp)
    exact balances_of_take found hc
      ((h.take _).enqueue hopen _ (h.scheduled _ _ found) (h.plain _ _ found hc))
  | closeAnswered _ found _ hc => exact h.closeAnswered found hc
  | writeClose => exact h.writeDeferredClose env hopen
  | policyClose live first committed => exact h.policyClose live first committed
  | disconnect posted => exact absurd posted hgot
  | settle => exact h.settle once _
  | rename =>
    exact .same (l := []) { h with lane := h.lane } (by simp) (by simp) rfl rfl rfl rfl rfl
  | install hid => exact h.install hopen hid _ _ _
  | startLane _ hid => exact h.startLane hopen hid _ _
  | opened hid => exact h.opened hopen hid _
  | openFailed =>
    exact .same (l := []) { h with opening := fun hne => absurd rfl hne } (by simp)
      (by simp) rfl rfl rfl rfl rfl

theorem Ledger.ended (h : s.Ledger) (hopen : s.closed = false) (he : Ending env got s t) :
    Balances s t := by
  cases he with
  | failed _ found _ _ method => exact h.answered hopen found (fun _ => method) _
  | refused _ found _ method =>
    rename_i id p _ _ _ _ _
    have href := (h.take id).refusedByWorker p.request.runID
    exact balances_of_take found method
      (href.after (href.books.answerRouted _ _ (h.scheduled _ _ found)))
  | ready => exact h.settleTurn _ _

theorem Ledger.turns (h : s.Ledger) (hopen : s.closed = false) (once : ∀ k, s.tally k ≤ 1)
    (hgot : got ≠ none) (ht : Turns env got s t) : Balances s t := by
  induction ht with
  | refl => exact .refl h
  | tail _ turn ih =>
    have hopen' := ih.closed.trans hopen
    refine ih.before ?_
    cases turn with
    | move hm => exact ih.books.moved hopen' (fun k => (ih.tally k).trans_le (once k)) hgot hm
    | drain he =>
      have hend := ih.books.ended hopen' he
      exact hend.before (hend.books.startDeferredDelivery (hend.closed.trans hopen'))

/-! ## Events -/

theorem Ledger.opened_of_live (h : s.Ledger) (live : s.stopping = false) : s.closed = false := by
  cases hc : s.closed
  · rfl
  · exact absurd (h.closed hc).1 (by simp [live])

theorem Ledger.routed (env : Env) (h : s.Ledger) {q : Routed}
    (hq : q.call.method ≠ .deliver → s.launch.isSome = true) :
    Takes q.request.due s (s.handleRouted env q.request) := by
  unfold handleRouted
  split
  · exact h.answerRouted _ _ (by simp [Routed.request])
  · rename_i hguard
    simp only [Bool.or_eq_true, decide_eq_true_eq, Bool.and_eq_true, not_or, not_and, not_not,
      Bool.not_eq_true, Bool.not_eq_true', Bool.not_eq_false] at hguard
    obtain ⟨⟨hlive, hdest⟩, hcom⟩ := hguard
    refine h.issue env (h.opened_of_live hlive)
      ⟨by simp [Routed.request], fun p hp => ⟨rfl, hdest, hcom (hq ?_)⟩⟩
    have hp : q.call = .close p := hp
    simp [hp, Call.method]

theorem policyClose_balances (env : Env) (h : s.Ledger) : Balances s (s.policyClose env) := by
  by_cases hg : s.stopping = false ∧ s.closeCall = none ∧ s.committed = true
  · exact h.policyClose hg.1 hg.2.1 hg.2.2
  · have heq : s.policyClose env = s := by
      unfold Session.policyClose
      rw [if_pos]
      cases hs : s.stopping <;> cases hc : s.closeCall <;> cases hm : s.committed <;> simp_all
    rw [heq]
    exact .refl h

theorem Ledger.handled (env : Env) (h : s.Ledger) (once : ∀ k, s.tally k ≤ 1) (e : Event)
    (he : e ≠ .closed)
    (hq : ∀ q, e = .routed q → q.call.method ≠ .deliver → s.launch.isSome = true) :
    Takes e.due s (s.handleEvent env e) := by
  cases e with
  | ownerEnd owner ended =>
    simp only [handleEvent, ownerEnded]
    split
    · exact .refl h
    · split
      · exact policyClose_balances env h
      · exact .refl h
  | frame value =>
    simp only [handleEvent]
    split
    · exact .refl h
    · rename_i hlive
      exact h.turns (h.opened_of_live (by simpa using hlive)) once (by simp)
        (handleFrame_turns env s value)
  | closed => exact absurd rfl he
  | routed q =>
    have hr := h.routed env (hq q rfl)
    exact { hr with
      tally := fun k => (hr.tally k).trans
        (by simp [RoutedRequest.due, Event.due, Event.asks, Routed.request]) }
  | reply requestID leg answer => exact h.quiet (consumeReply_quiet _ _ _ _ _)
  | supersede => exact h.quiet (supersede_quiet _ _)
  | processStarted launch child => exact h.quiet (processStarted_quiet _ _ _)
  | processExited launch error => exact h.quiet (handleExit_quiet _ _ _)
  | spawnTimeout launch =>
    simp only [handleEvent]
    split
    · exact h.quiet ((abortLaunch_quiet _ _).trans (recordStop_quiet _ _))
    · exact .refl h
  | autoCloseFired =>
    simp only [handleEvent]
    split
    · have hoff : Balances s { s with autoClose := false } :=
        .same (l := []) h (by simp) (by simp) rfl rfl rfl rfl rfl
      exact hoff.after (policyClose_balances env hoff.books)
    · exact .refl h
  | closeTimerFired =>
    simp only [handleEvent]
    split
    · refine h.quiet (Quiet.trans ?_ (recordStop_quiet _ _))
      exact .same rfl rfl rfl rfl rfl rfl
    · exact .refl h
  | shutdown =>
    refine h.quiet (Quiet.trans ?_ (orderlyStop_quiet _))
    split
    · exact abortLaunch_quiet _ _
    · exact .refl _
  | written => exact .same (l := []) h (by simp [handleEvent]) (by simp) rfl rfl rfl rfl rfl
  | readEnded => exact .same (l := []) h (by simp [handleEvent]) (by simp) rfl rfl rfl rfl rfl
  | clock now => exact .same (l := []) h (by simp [handleEvent]) (by simp) rfl rfl rfl rfl rfl

theorem Ledger.handledClosed (h : s.Ledger) (once : ∀ k, s.tally k ≤ 1) :
    s.handleClosed.Ledger ∧ (∀ k, s.handleClosed.tally k = s.tally k) ∧
    s.handleClosed.launch = s.launch := by
  obtain ⟨hbooks, htally, -, hlaunch, -⟩ := h.disconnect once
  unfold handleClosed
  extract_lets s₁ s₂
  split
  · have hq : Quiet s₁ s₂.orderlyStop := by
      refine Quiet.trans ?_ (orderlyStop_quiet s₂)
      simp only [s₂]
      split
      · exact abortLaunch_quiet _ _
      · exact .refl _
    have hb := hbooks.quiet hq
    exact ⟨hb.books, fun k => (hb.tally k).trans (htally k), by rw [hq.core]; exact hlaunch⟩
  · exact ⟨hbooks, htally, hlaunch⟩

theorem Ledger.event (env : Env) (h : s.Ledger) (once : ∀ k, s.tally k ≤ 1) (e : Event)
    (hq : ∀ q, e = .routed q → q.call.method ≠ .deliver → s.launch.isSome = true) :
    (s.handleEvent env e).Ledger ∧ (∀ k, (s.handleEvent env e).tally k = s.tally k + e.due k) ∧
      (s.launch.isSome = true → (s.handleEvent env e).launch.isSome = true) := by
  by_cases he : e = .closed
  · subst he
    obtain ⟨hbooks, htally, hlaunch⟩ := h.handledClosed once
    exact ⟨hbooks, htally, fun hl => by rw [← hlaunch] at hl; exact hl⟩
  · have ht := h.handled env once e he hq
    exact ⟨ht.books, ht.tally, ht.launch⟩

theorem Ledger.events (h : s.Ledger) (inbox : List Event)
    (once : ∀ k, s.tally k + inbox.countP (Event.asks k) ≤ 1)
    (lanes : ∀ q, .routed q ∈ inbox → q.call.method ≠ .deliver → s.launch.isSome = true) :
    (s.handleEvents env inbox).Ledger ∧
      ∀ k, (s.handleEvents env inbox).tally k = s.tally k + inbox.countP (Event.asks k) := by
  induction inbox generalizing s with
  | nil => exact ⟨h, fun _ => rfl⟩
  | cons e rest ih =>
    have hone : ∀ k, s.tally k ≤ 1 := fun k => le_trans (Nat.le_add_right _ _) (once k)
    obtain ⟨hbooks, htally, hlaunch⟩ := h.event env hone e
      fun q hq => lanes q (by rw [hq]; exact List.mem_cons_self)
    have hsum : ∀ k, (s.handleEvent env e).tally k + rest.countP (Event.asks k) =
        s.tally k + (e :: rest).countP (Event.asks k) := by
      intro k
      rw [htally, List.countP_cons, Event.due]
      omega
    obtain ⟨hbooks', htally'⟩ := ih hbooks (fun k => (hsum k).trans_le (once k))
      fun q hq hm => hlaunch (lanes q (List.mem_cons_of_mem _ hq) hm)
    exact ⟨hbooks', fun k => (htally' k).trans (hsum k)⟩

end Session

end Sessionbus
