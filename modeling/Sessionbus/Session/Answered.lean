import Mathlib.Data.PNat.Defs
import Sessionbus.Session.Ledger
import Sessionbus.Session.Promise

/-!
# One answer for every request that was routed

The books of a session hold through every run of its loop: while it runs, each channel that
was handed out is in the inbox or in the session's tally, and when it has returned, each has
its answer.
-/

namespace Sessionbus

namespace Session

variable {env : Env} {s : Session}

/-! ## After the connection is closed -/

theorem respond_owned (env : Env) (s : Session) (id : Nat) (method : Method) (answer : Answer) :
    (s.respond env id method answer).owned = s.owned := by
  unfold respond
  split
  · split <;> rfl
  · rfl

theorem orderlyStop_owned (s : Session) : s.orderlyStop.owned = s.owned := by
  unfold orderlyStop
  extract_lets t
  split <;> rfl

theorem abortLaunch_owned (s : Session) (answer : Answer) :
    (s.abortLaunch answer).owned = s.owned := by
  unfold abortLaunch
  split <;> rfl

theorem finishRequest_owned (env : Env) (s : Session) (id : Nat) (state : RequestState)
    (result : Answer) : (s.finishRequest env id state result).owned = s.owned := by
  have hone : ∀ (t : Session) (id : Nat) (state : RequestState) (result : Answer),
      (t.finishOne env id state result).owned = t.owned := fun t id state result =>
        respond_owned env _ id _ result
  unfold finishRequest
  extract_lets s₁
  split
  · exact hone s id state result
  · split
    · exact hone s id state result
    · exact (hone s₁ _ _ _).trans (hone s id state result)

theorem consumeReply_owned (env : Env) (s : Session) (requestID leg : Nat) (answer : Answer) :
    (s.consumeReply env requestID leg answer).owned = s.owned - 1 := by
  unfold consumeReply
  extract_lets s₁
  split
  · rfl
  · split
    · extract_lets state
      split
      · rfl
      · exact respond_owned env _ _ _ _
    · split
      · split
        · rfl
        · exact finishRequest_owned env _ _ _ _
      · exact finishRequest_owned env _ _ _ _

/-- A session whose connection is closed takes only that its calls and its child have ended. -/
theorem handleEvent_closed (env : Env) (s : Session) (hc : s.closed = true) (hs : s.stopping = true)
    (e : Event) :
    (s.handleEvent env e).toSessionCore = s.toSessionCore ∧ (s.handleEvent env e).stopping = true ∧
      (s.handleEvent env e).owned ≤ s.owned := by
  have hpolicy : ∀ t : Session, t.stopping = true → t.policyClose env = t := fun t ht => by
    unfold policyClose
    rw [if_pos (by simp [ht])]
  cases e with
  | ownerEnd owner ended =>
    simp [handleEvent, ownerEnded, hpolicy s hs, hs]
  | frame value => simp [handleEvent, hs]
  | closed =>
    have heq : s.connectionClosed = s := by rw [connectionClosed, if_pos hc]
    have hq : Quiet s s.handleClosed ∧ s.handleClosed.owned = s.owned := by
      unfold handleClosed
      extract_lets s₁ s₂
      have hs₁ : s₁ = s := heq
      split
      · refine ⟨Quiet.trans ?_ (orderlyStop_quiet s₂), ?_⟩
        · simp only [s₂, hs₁]
          split
          · exact abortLaunch_quiet _ _
          · exact .refl _
        · rw [orderlyStop_owned]
          simp only [s₂, hs₁]
          split
          · exact abortLaunch_owned _ _
          · rfl
      · rw [hs₁]
        exact ⟨.refl s, rfl⟩
    exact ⟨hq.1.core, hq.1.stopping hs, hq.2.le⟩
  | routed q => simp [handleEvent, handleRouted, hs, answerRouted, act]
  | reply requestID leg answer =>
    have hq := consumeReply_quiet env s requestID leg answer
    exact ⟨hq.core, hq.stopping hs, (consumeReply_owned env s requestID leg answer).trans_le
      (Nat.sub_le _ _)⟩
  | supersede => simp [handleEvent, supersede, hs]
  | processStarted launch child =>
    have hq := processStarted_quiet s launch child
    refine ⟨hq.core, hq.stopping hs, ?_⟩
    simp only [handleEvent, processStarted]
    split <;> exact le_rfl
  | processExited launch error =>
    have hq := handleExit_quiet s launch error
    refine ⟨hq.core, hq.stopping hs, ?_⟩
    simp only [handleEvent, handleExit, abortLaunch]
    split_ifs <;> (try split) <;> simp
  | spawnTimeout launch =>
    simp only [handleEvent]
    split
    · unfold spawnTimedOut abortLaunch
      split_ifs <;> exact ⟨rfl, rfl, le_rfl⟩
    · exact ⟨rfl, hs, le_rfl⟩
  | autoCloseFired =>
    simp only [handleEvent]
    split
    · rw [hpolicy { s with autoClose := false } hs]
      exact ⟨rfl, hs, le_rfl⟩
    · exact ⟨rfl, hs, le_rfl⟩
  | closeTimerFired =>
    simp only [handleEvent]
    split <;> exact ⟨rfl, by first | rfl | exact hs, le_rfl⟩
  | shutdown =>
    have hq : Quiet s (s.handleEvent env .shutdown) := by
      refine Quiet.trans ?_ (orderlyStop_quiet _)
      split
      · exact abortLaunch_quiet _ _
      · exact .refl _
    refine ⟨hq.core, hq.stopping hs, le_of_eq ((orderlyStop_owned _).trans ?_)⟩
    split
    · exact abortLaunch_owned _ _
    · rfl
  | written => exact ⟨rfl, hs, le_rfl⟩
  | readEnded => exact ⟨rfl, hs, le_rfl⟩
  | clock now => exact ⟨rfl, hs, le_rfl⟩

theorem handleEvents_closed (env : Env) (s : Session) (hc : s.closed = true)
    (hs : s.stopping = true) (events : List Event) :
    (s.handleEvents env events).toSessionCore = s.toSessionCore ∧
      (s.handleEvents env events).owned ≤ s.owned := by
  induction events generalizing s with
  | nil => exact ⟨rfl, le_rfl⟩
  | cons e rest ih =>
    obtain ⟨hcore, hstop, howned⟩ := handleEvent_closed env s hc hs e
    obtain ⟨hcore', howned'⟩ := ih (s.handleEvent env e) (by rw [hcore]; exact hc) hstop
    exact ⟨hcore'.trans hcore, howned'.trans howned⟩

theorem Ledger.displaced (h : s.Ledger) (hpeer : s.item.peer = true) : Balances s s.detach := by
  obtain ⟨item, listed, heq, hp, hatt⟩ := detach_frame s
  have hl : s.launch.isSome ≠ true := fun hl => absurd (h.lane hl).2 (by simp [hpeer])
  rw [heq]
  refine .same (l := []) { h with
    lane := fun hs => absurd hs hl
    live := fun hc => absurd (h.committed hc) hl
    attached := fun ha => absurd ha hatt
    closed := fun hc => ⟨(h.closed hc).1, hatt, (h.closed hc).2.2⟩ } (by simp)
      (by simp) rfl rfl rfl rfl rfl

theorem deleteRow_frame (s : Session) (deleteError : Option String) :
    (s.deleteRow deleteError).toSessionCore = s.toSessionCore ∧
    (s.deleteRow deleteError).history = s.history := by
  unfold deleteRow
  split <;> exact ⟨rfl, rfl⟩

theorem offline_attachment (s : Session) : s.offline.attached = false := by
  unfold offline
  cases h : s.attached
  · exact h
  · rfl

theorem answerClose_attachment (s : Session) : s.answerClose.attached = s.attached := by
  unfold answerClose
  split <;> rfl

theorem finishLane_attached (s : Session) (deleteError : Option String) (h : s.attached = false) :
    (s.finishLane deleteError).attached = false := by
  unfold finishLane
  rw [answerClose_attachment]
  split
  · exact offline_attachment _
  · exact h

theorem countP_answerClose (s : Session) (k : Nat) :
    s.answerClose.history.countP (Act.answersOn k) =
      s.history.countP (Act.answersOn k) +
        s.closeCall.toList.countP fun r => r.reply == .chan k := by
  unfold answerClose
  cases s.closeCall with
  | none => simp
  | some r => simp [List.countP_cons, Act.answersOn]

theorem Ledger.finished (h : s.Ledger) (hc : s.closed = true)
    (deleteError : Option String) (k : Nat) :
    (if s.launch.isSome then s.finishLane deleteError else s).history.countP (Act.answersOn k) =
      s.tally k := by
  have hpend := (h.closed hc).2.2.1
  obtain ⟨hcore, hhist⟩ := deleteRow_frame s.stopAutoClose deleteError
  split
  · unfold finishLane
    rw [countP_answerClose]
    split
    · simp [offline, hcore, hhist, tally, hpend]
    · simp [tally, hpend]
  · rename_i hl
    have hcall := h.uncalled (h.uncommitted (by simpa using hl))
    simp [tally, hcall, hpend]

end Session

namespace Loop

variable {env : Env} {l : Loop}

/-- A channel that was handed out is in the inbox or in the session's books; when the loop has
returned, every channel has its answer. -/
structure Accounts (l : Loop) : Prop where
  books : l.returned = false → l.session.Ledger
  tally : l.returned = false → ∀ k,
    l.session.tally k + l.inbox.countP (Event.asks k) = if k < l.posted then 1 else 0
  lanes : l.returned = false → ∀ q, .routed q ∈ l.inbox → q.call.method ≠ .deliver →
    l.session.launch.isSome = true
  gone : l.returned = true → l.session.attached = false
  answered : l.returned = true → ∀ k, l.answers k = if k < l.posted then 1 else 0

theorem asks_posted {e : Event} (h : e.posted = true) (k : Nat) : e.asks k = false := by
  cases e <;> first | rfl | cases h

theorem routeLocked_open {q : Routed} {lifetime : Option String}
    (h : l.routeLocked q lifetime = none) :
    l.session.attached = true ∧ (q.call.method ≠ .deliver → l.session.item.peer = false) := by
  unfold routeLocked at h
  extract_lets s at h
  split at h
  · cases h
  · split at h
    · cases h
    · split at h
      · cases h
      · split at h
        · cases h
        · rename_i hatt
          split at h
          · cases h
          · rename_i hpeer
            refine ⟨by simpa using hatt, fun hm => ?_⟩
            simpa [hm] using hpeer

namespace Accounts

theorem accept (h : l.Accounts) {q : Routed} {lifetime : Option String}
    (hq : l.routeLocked q lifetime = none) : (l.accept q).Accounts := by
  obtain ⟨hatt, hpeer⟩ := routeLocked_open hq
  have hrun : l.returned = false := by
    cases hr : l.returned
    · rfl
    · exact absurd (h.gone hr) (by simp [hatt])
  refine ⟨h.books, fun _ k => ?_, fun _ p hp hm => ?_,
    fun hr => absurd (hrun.symm.trans hr) (by simp),
    fun hr => absurd (hrun.symm.trans hr) (by simp)⟩
  · have ht := h.tally hrun k
    change l.session.tally k + (l.inbox ++ [Event.routed _]).countP (Event.asks k) =
      if k < l.posted + 1 then 1 else 0
    simp only [List.countP_append, List.countP_singleton, Event.asks, beq_iff_eq]
    split_ifs at ht ⊢ <;> omega
  · rcases List.mem_append.mp hp with hp | hp
    · exact h.lanes hrun p hp hm
    · cases List.mem_singleton.mp hp
      have hb := h.books hrun
      rcases hb.attached (by simpa [Session.attached] using hatt) with hp' | hc
      · exact absurd hp' (by simp [hpeer hm])
      · exact hb.committed hc

theorem event (h : l.Accounts) (hrun : l.returned = false) {e : Event} {rest : List Event}
    (hcount : ∀ k, l.inbox.countP (Event.asks k) = rest.countP (Event.asks k) + e.due k)
    (hrest : ∀ q, .routed q ∈ rest → .routed q ∈ l.inbox)
    (he : ∀ q, e = .routed q → .routed q ∈ l.inbox) :
    Accounts { l with inbox := rest, session := l.session.handleEvent env e } := by
  have hsum : ∀ k, l.session.tally k + (rest.countP (Event.asks k) + e.due k) =
    if k < l.posted then 1 else 0 :=
    fun k => by rw [← hcount k]; exact h.tally hrun k
  have once : ∀ k, l.session.tally k ≤ 1 := fun k => by
    have := hsum k
    split at this <;> omega
  obtain ⟨hbooks, htally, hlaunch⟩ := (h.books hrun).event env once e
    fun q hq hm => h.lanes hrun q (he q hq) hm
  refine ⟨fun _ => hbooks, fun _ k => ?_, fun _ q hq hm => hlaunch (h.lanes hrun q (hrest q hq) hm),
    fun hr => absurd (hrun.symm.trans hr) (by simp),
    fun hr => absurd (hrun.symm.trans hr) (by simp)⟩
  change (l.session.handleEvent env e).tally k + rest.countP (Event.asks k) =
    if k < l.posted then 1 else 0
  rw [htally, ← hsum k]
  omega

theorem finish (h : l.Accounts) (hrun : l.returned = false) (hmay : mayFinish l.session = true)
    (deleteError : Option String) : (l.step env (.finish deleteError)).Accounts ∧
      (l.step env (.finish deleteError)).returned = true := by
  have hguard := hmay
  simp only [mayFinish, Bool.and_eq_true, beq_iff_eq] at hmay
  obtain ⟨⟨hclosed, howned⟩, -⟩ := hmay
  have hb := h.books hrun
  obtain ⟨hcore, hleft⟩ := Session.handleEvents_closed env l.session hclosed
    (hb.closed hclosed).1 l.inbox
  have hnone : (l.drained env).owned = 0 := by
    have : (l.drained env).owned ≤ l.session.owned := hleft
    omega
  have once : ∀ k, l.session.tally k + l.inbox.countP (Event.asks k) ≤ 1 := fun k => by
    rw [h.tally hrun k]
    split <;> omega
  obtain ⟨hbooks, htally⟩ : (l.drained env).Ledger ∧ ∀ k, (l.drained env).tally k = _ :=
    hb.events l.inbox once (h.lanes hrun)
  have hend : (l.drained env).closed = true := by
    rw [drained, hcore]
    exact hclosed
  have hstep : l.step env (.finish deleteError) = { l with
      session := if (l.drained env).launch.isSome then (l.drained env).finishLane deleteError
        else l.drained env
      inbox := []
      returned := true } := by
    simp [step, hguard, hrun, hnone]
  rw [hstep]
  refine ⟨⟨by simp, by simp, by simp, fun _ => ?_, fun _ k => ?_⟩, rfl⟩
  · have hatt : (l.drained env).attached = false := by
      simpa [Session.attached] using (hbooks.closed hend).2.1
    dsimp only
    split
    · exact Session.finishLane_attached _ deleteError hatt
    · exact hatt
  · rw [← h.tally hrun k, ← htally k]
    exact hbooks.finished hend deleteError k

theorem step (h : l.Accounts) (a : Action) : (l.step env a).Accounts := by
  cases a with
  | route q lifetime =>
    simp only [Loop.step]
    split
    · exact h
    · rename_i hq
      exact h.accept hq
  | post e =>
    simp only [Loop.step]
    split
    · rename_i hpost
      simp only [Bool.and_eq_true] at hpost
      refine { h with tally := fun hr k => ?_, lanes := fun hr q hq => ?_ }
      · rw [← h.tally hr k]
        simp [List.countP_append, asks_posted hpost.1 k]
      · rcases List.mem_append.mp hq with hq | hq
        · exact h.lanes hr q hq
        · rw [← List.mem_singleton.mp hq] at hpost
          exact absurd hpost.1 (by simp [Event.posted])
    · exact h
  | take =>
    simp only [Loop.step]
    split
    · exact h
    · rename_i e rest hin
      split
      · exact h
      · rename_i hrun
        refine h.event (by simpa using hrun) (fun k => ?_) (fun q hq => ?_) fun q hq => ?_
        · rw [hin, List.countP_cons, Event.due]
        · rw [hin]
          exact List.mem_cons_of_mem _ hq
        · rw [hin, hq]
          exact List.mem_cons_self
  | fire e =>
    simp only [Loop.step]
    split
    · rename_i hfire
      simp only [Bool.and_eq_true, Bool.not_eq_true'] at hfire
      have hno : ∀ q, e ≠ .routed q := by
        rintro q rfl
        cases hfire.1
      refine h.event hfire.2 (fun k => ?_) (fun q hq => hq) fun q hq => absurd hq (hno q)
      cases e <;> first | rfl | exact absurd rfl (hno _)
    · exact h
  | displace =>
    simp only [Loop.step]
    split
    · rename_i hpeer
      obtain ⟨item, listed, heq, -, hatt⟩ := Session.detach_frame l.session
      refine ⟨fun hr => ((h.books hr).displaced hpeer).books, fun hr k => ?_, fun hr q hq hm => ?_,
        fun _ => ?_, fun hr k => ?_⟩
      · rw [← h.tally hr k]
        exact congrArg (· + l.inbox.countP (Event.asks k)) (((h.books hr).displaced hpeer).tally k)
      · exact ((h.books hr).displaced hpeer).launch (h.lanes hr q hq hm)
      · rw [heq]
        simpa [Session.attached] using hatt
      · rw [← h.answered hr k, heq]
        rfl
    · exact h
  | finish deleteError =>
    by_cases hgo : mayFinish l.session = true ∧ l.returned = false
    · exact (h.finish hgo.2 hgo.1 deleteError).1
    · have hsame : l.step env (.finish deleteError) = l := by
        simp only [Loop.step]
        rw [if_neg]
        simpa using hgo
      rw [hsame]
      exact h

theorem run (h : l.Accounts) (actions : List Action) : (l.run env actions).Accounts := by
  induction actions generalizing l with
  | nil => exact h
  | cons a rest ih => exact ih (h.step a)

theorem start (self : Ptr) (randomGeneration : String) :
    (Loop.start self randomGeneration).Accounts := by
  refine ⟨fun _ => ?_, fun _ k => ?_, by simp [Loop.start], by simp [Loop.start],
    by simp [Loop.start]⟩
  · refine ⟨?_, ?_, ?_, ?_, ?_, ?_, ?_, ?_, ?_, ?_, ?_, ?_⟩ <;>
      simp [Loop.start, Session.newSession]
  · simp [Loop.start, Session.newSession, Session.tally]

/-- Whatever is left in the books, a channel has at most one answer, and only one that was
handed out. -/
theorem answers_le (h : l.Accounts) (k : Nat) : l.answers k ≤ if k < l.posted then 1 else 0 := by
  cases hr : l.returned
  · rw [← h.tally hr k]
    have hle : l.answers k ≤ l.session.tally k := by
      unfold Session.tally
      have : l.answers k = l.session.history.countP (Act.answersOn k) := rfl
      omega
    omega
  · exact (h.answered hr k).le

end Accounts

/-- No channel gets two values, nor one that was not handed out; when the loop has returned, every
request that was taken has its value; and the loop returns once its connection is closed, its calls
have ended and its child has exited. -/
theorem answered_once (env : Env) (self : Ptr) (randomGeneration : String) (actions : List Action) :
    let l := (start self randomGeneration).run env actions
    (∀ k, l.answers k ≤ 1) ∧ (∀ k, l.posted ≤ k → l.answers k = 0) ∧
    (l.returned = true → ∀ k < l.posted, l.answers k = 1) ∧
    (l.session.closed = true → l.session.owned = 0 →
      (l.session.launch.isSome = true → l.session.processExited = true) → ∀ deleteError,
      (l.step env (.finish deleteError)).returned = true) := by
  intro l
  have h : l.Accounts := (Accounts.start self randomGeneration).run actions
  refine ⟨fun k => ?_, fun k hk => ?_, fun hr k hk => ?_,
    fun hclosed howned hexit deleteError => ?_⟩
  · have := h.answers_le k
    split at this <;> omega
  · have := h.answers_le k
    rw [if_neg (by omega)] at this
    omega
  · rw [h.answered hr k, if_pos hk]
  · cases hr : l.returned
    · refine (h.finish hr ?_ deleteError).2
      cases hl : l.session.launch with
      | none => simp [mayFinish, hclosed, howned, hl]
      | some p => simp [mayFinish, hclosed, howned, hexit (by simp [hl])]
    · simp [Loop.step, hr]

/-- A peer says hello, a message is routed to it and written, and the connection is lost. -/
def lostPeer : List Action :=
  [.post (.frame (.request (Nat.succPNat 0) (.peerHello (.installed 7 { sessionID := "p@h" } [])))),
    .take,
    .route { destination := some 7, call := .deliver { Session.hello with messageID := "lost" },
             reply := 0 } none, .take,
    .fire .readEnded, .post .closed, .take, .finish none]

theorem answered_once_lostPeer :
    let l := (start 1 "run-a").run Session.openEnv lostPeer
    l.returned = true ∧ l.posted = 1 ∧ l.answers 0 = 1 := by
  have hr : ((start 1 "run-a").run Session.openEnv lostPeer).returned = true := by decide +kernel
  exact ⟨hr, by decide +kernel, (answered_once Session.openEnv 1 "run-a" lostPeer).2.2.1 hr 0
    (by decide +kernel)⟩

end Loop

end Sessionbus
