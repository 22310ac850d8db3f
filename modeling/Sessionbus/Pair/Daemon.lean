import Sessionbus.Pair.Agree

/-!
# The session keeps the agreement

Every event of the session, and every frame of the worker that it handles, is a sequence of
moves; each is calm, starts a run behind the acknowledgement of the last one, or ends one.
-/

namespace Sessionbus

open Session

/-- What the worker may still read. -/
def Session.path (s : Session) (down : List OutFrame) : List OutFrame :=
  down ++ if s.wire.fdClosed then [] else s.wire.outbox

/-- What is known of the frame that is being handled. -/
def Hand (got : Option InFrame) (v : View) (w : Worker) : Prop :=
  match got with
  | some (.response id body) =>
    (id : Nat) ≤ w.last ∧ ∀ p, v.pending.lookup (id : Nat) = some p →
    Honest w.acknowledged p.command body
  | some (.request id _) => Trace.Ascending id w.next (w.up.filterMap UpFrame.requestID)
  | _ => True

/-- What the session did since `start` took no run back that the worker knows of. -/
def Spared (start : List Act) (w : Worker) (s : Session) : Prop :=
  ∃ l, s.history = start ++ l ∧ ∀ a ∈ l, ∀ id, s.TakesBack id a →
    ∃ n, id = runText s.nextGeneration n ∧ w.lastSequence < n

/-- The session inside an event, its worker and what is between them. -/
structure Joint (env : Env) (got : Option InFrame) (start : List Act) (down : List OutFrame)
    (w : Worker) (s : Session) : Prop where
  base : Base env s
  agree : Agree s.view (s.path down) w
  hand : Hand got s.view w
  spared : Spared start w s

section
variable {env : Env} {got : Option InFrame} {start : List Act} {down : List OutFrame} {w : Worker}
  {s t : Session}

theorem follows_of_outbox {l : List OutFrame} (hout : t.wire.outbox = s.wire.outbox ++ l)
    (hdead : s.wire.fdClosed = true → t.wire.fdClosed = true) :
    Agree.Follows t.view (s.path down) l (t.path down) := by
  unfold Session.path
  cases ht : t.wire.fdClosed with
  | true => exact .inr ⟨ht, by simp⟩
  | false =>
    have hs : s.wire.fdClosed = false := by
      cases hs : s.wire.fdClosed with
      | false => rfl
      | true => rw [hdead hs] at ht; cases ht
    exact .inl ⟨ht, by simp [hs, hout]⟩

theorem Agree.calms (h : Agree s.view (s.path down) w) (hc : Calms s t) :
    Agree t.view (t.path down) w := by
  obtain ⟨-, l, hout, hcalm⟩ := hc
  exact h.calm hcalm (follows_of_outbox hout hcalm.dead)

theorem Agree.begins (h : Agree s.view (s.path down) w) (hb : Begins s t) :
    Agree t.view (t.path down) w := by
  obtain ⟨-, c, hout, hstart⟩ := hb
  refine h.starts hstart ?_
  have hdead : t.wire.fdClosed = s.wire.fdClosed := hstart.dead
  unfold Session.path
  rw [hdead]
  cases hs : s.wire.fdClosed with
  | true => exact .inr ⟨hs, by simp⟩
  | false => exact .inl ⟨hs, by simp [hout, view]⟩

theorem Hand.of_pending {v v' : View} (h : Hand got v w)
    (hp : ∀ k p, k ≤ w.last → v'.pending.lookup k = some p → v.pending.lookup k = some p) :
    Hand got v' w := by
  unfold Hand at h ⊢
  split at h
  · exact ⟨h.1, fun p hlook => h.2 p (hp _ p h.1 hlook)⟩
  · exact h
  · exact h

theorem Spared.keeps (h : Spared start w s) (hagree : Agree s.view (s.path down) w) (hk : Keeps s t)
    (hgen : t.nextGeneration = s.nextGeneration) : Spared start w t := by
  obtain ⟨l, hl, hback⟩ := h
  obtain ⟨l', hl', hback'⟩ := hk
  have htakes : ∀ {a id}, t.TakesBack id a → s.TakesBack id a := by
    intro a id hid
    cases a with
    | refused n => exact hid.trans (by rw [hgen])
    | _ => exact hid
  refine ⟨l ++ l', by rw [hl', hl, List.append_assoc], fun a ha id hid => ?_⟩
  rw [hgen]
  rcases List.mem_append.mp ha with ha | ha
  · exact hback a ha id (htakes hid)
  · obtain ⟨hidle, rfl⟩ := hback' a ha id (htakes hid)
    have hlast : w.lastSequence = s.runSequence := (hagree.idle_of_none hidle).2.1
    exact ⟨s.runSequence + 1, rfl, by omega⟩

theorem Joint.calms (h : Joint env got start down w s) (hb : Base env t) (hc : Calms s t) :
    Joint env got start down w t := by
  have hspared :=
    h.spared.keeps h.agree hc.1 (by obtain ⟨-, l, -, hcalm⟩ := hc; exact hcalm.generation)
  refine ⟨hb, h.agree.calms hc, h.hand.of_pending fun k p hk hlook => ?_, hspared⟩
  obtain ⟨-, l, -, hcalm⟩ := hc
  exact hcalm.old (hk.trans h.agree.flight.down.le) hlook

theorem Joint.begins (h : Joint env got start down w s) (hb : Base env t) (hc : Begins s t) :
    Joint env got start down w t := by
  have hspared :=
    h.spared.keeps h.agree hc.1 (by obtain ⟨-, c, -, hstart⟩ := hc; exact hstart.generation)
  refine ⟨hb, h.agree.begins hc, h.hand.of_pending fun k p hk hlook => ?_, hspared⟩
  obtain ⟨-, c, -, hstart⟩ := hc
  have hle := h.agree.flight.down.le
  rcases hstart.pending k p hlook with ⟨hp, -⟩ | ⟨rfl, -⟩
  · exact hp
  · omega

theorem Joint.issue (h : Joint env got start down w s) {r : RoutedRequest} (hr : FromClient r) :
    Joint env got start down w (s.issue env r) := by
  rcases issue_view h.base hr with hc | hb
  · exact h.calms (h.base.issue hr) hc
  · exact h.begins (h.base.issue hr) hb

theorem Joint.take (h : Joint env got start down w s) {id : Nat} {p : Pending}
    (found : s.pending.lookup id = some p) : Joint env got start down w (s.take id) :=
  h.calms (h.base.take found) (.take s id)

theorem Joint.answerRouted (h : Joint env got start down w s) (r : RoutedRequest) (a : Answer) :
    Joint env got start down w (s.answerRouted r a) :=
  h.calms (h.base.answerRouted r a) (.answerRouted s r a)

theorem Joint.acknowledge (h : Joint env got start down w s) (ref : RunRef)
    (hn : ∃ g n, runNumber ref.runID = some (g, n) ∧ n ≤ w.acknowledged) :
    Joint env got start down w (s.recordAcknowledgment ref) := by
  refine ⟨h.base.acknowledge ref, ?_, ?_, ?_⟩
  · unfold recordAcknowledgment
    split
    · exact h.agree
    · rename_i g suffix hcut
      split
      · exact h.agree
      · rename_i n hnum
        split
        · obtain ⟨g', m, hrun, hm⟩ := hn
          obtain ⟨-, rfl⟩ := runNumber_eq hrun hcut hnum
          exact h.agree.acknowledge hm
        · exact h.agree
  · refine h.hand.of_pending fun k p _ hlook => ?_
    unfold recordAcknowledgment at hlook
    split at hlook
    · exact hlook
    · split at hlook
      · exact hlook
      · split at hlook <;> exact hlook
  · unfold recordAcknowledgment
    split
    · exact h.spared
    · split
      · exact h.spared
      · split
        · exact h.spared.keeps h.agree
            (.of_acts [.acknowledged _] rfl (by simp [Act.keepsRuns])) rfl
        · exact h.spared

theorem Joint.move (h : Joint env got start down w s) (hm : Move env got s t) :
    Joint env got start down w t := by
  have hb := h.base.move hm
  cases hm with
  | quiet hq => exact h.calms hb (.quiet h.base.core.fresh hq)
  | numbered request _ =>
    subst request
    exact ⟨hb, h.agree.passed h.hand, h.hand, h.spared⟩
  | turnedAway => exact h.answerRouted _ _
  | issue hs =>
    obtain ⟨h₀, hr⟩ := h.base.source hs
    cases hs with
    | inbox => exact h.issue hr
    | refused _ found => exact (h.take found).issue hr
    | collect _ found => exact (h.take found).issue hr
  | answer _ found => exact (h.take found).answerRouted _ _
  | acknowledge response found _ command =>
    subst response
    refine ((h.take found).acknowledge _ ?_).answerRouted _ _
    exact (h.hand.2 _ found).2 _ _ command rfl
  | enqueue _ found =>
    exact (h.take found).calms hb (.enqueue _ _)
  | closeAnswered _ found => exact h.take found
  | writeClose => exact h.calms hb (.writeDeferredClose env s)
  | policyClose live first committed =>
    refine h.calms hb ?_
    unfold Session.policyClose
    rw [if_neg (by simp [live, first, committed])]
    exact Calms.trans (.of_view rfl rfl (.same rfl)) (.beginClose env s.stopAutoClose _ _)
  | disconnect => exact h.calms hb (.connectionClosed s)
  | settle _ hpeer => simp [h.base.core.lane] at hpeer
  | rename hnone => exact absurd hnone (by simp [h.base.core.launch, h.base.core.identity])
  | install hnone => exact absurd hnone (by simp [h.base.core.launch, h.base.core.identity])
  | startLane _ hnone => exact absurd hnone h.base.core.identity
  | opened hid => exact absurd h.base.core.opened hid
  | openFailed hid => exact absurd h.base.core.opened hid

theorem Joint.drain (h : Joint env got start down w s) :
    Joint env got start down w (s.startDeferredDelivery env) := by
  refine startDeferred_keeps env (I := Joint env got start down w) ?_ _ s h
  intro t r rest ht hq hidle
  rcases pop_view ht.base hq hidle with hc | hb
  · exact ht.calms (ht.base.pop hq hidle) hc
  · exact ht.begins (ht.base.pop hq hidle) hb

/-- An error of the worker ends no run: the kit refuses none. -/
theorem Joint.ending (h : Joint env got start down w s) (he : Ending env got s t)
    (hready : ∀ id value, got ≠ some (.request id (.ready value))) :
    Joint env got start down w t := by
  cases he with
  | failed _ found => exact (h.take found).answerRouted _ _
  | refused response found live method run why =>
    exfalso
    subst response
    have hseed := h.agree.flight.seeds _ _ found method
    have hhonest := (h.hand.2 _ found).1 ?_ _ rfl
    · rcases why with hexec | hcode
      · rw [hhonest.1] at hexec
        cases hexec
      · exact hcode hhonest.2
    · intro hnone
      refine run (hseed.trans ?_)
      rename_i p _
      cases hc : p.command <;> simp_all [Command.run, Command.seed]
  | ready request => exact absurd request (hready _ _)

theorem Joint.turns (h : Joint env got start down w s) (ht : Turns env got s t)
    (hready : ∀ id value, got ≠ some (.request id (.ready value))) :
    Joint env got start down w t := by
  induction ht with
  | refl => exact h
  | tail _ hstep ih =>
    cases hstep with
    | move hm => exact ih.move hm
    | drain he => exact (ih.ending he hready).drain

/-! ## turn.ready -/

theorem respond_follows (env : Env) (s : Session) (id : Nat) (method : Method) (answer : Answer)
    (down : List OutFrame) :
    Agree.Follows (s.respond env id method answer).view (s.path down) [.response id answer.body]
      ((s.respond env id method answer).path down) := by
  unfold Agree.Follows Session.path
  rcases respond_queued env s id method answer with hwire | hdead
  · cases hs : s.wire.fdClosed with
    | true => exact .inr ⟨by simp [view, hwire, Wire.queue, hs], by simp [hwire, Wire.queue, hs]⟩
    | false => exact .inl ⟨by simp [view, hwire, Wire.queue, hs], by simp [hwire, Wire.queue, hs]⟩
  · exact .inr ⟨hdead, by simp [hdead]⟩

theorem Joint.settleTurn (h : Joint env none start down w s) {id : Nat} {value : TurnReady}
    (hrun : s.runID ≠ "") (hsame : w.lastSequence = s.runSequence)
    (hnoReady : ∀ f ∈ w.up, f.isReady = false)
    (hstage : ∀ t, w.turn = some t → t.stage = .ready id) :
    Joint env none start down w (s.settleTurn env id value) := by
  have harmed : (s.endRun.armDeadline value.state).history = s.history ∧
      (s.endRun.armDeadline value.state).nextGeneration = s.nextGeneration := by
    unfold armDeadline endRun
    simp only
    split
    · split <;> exact ⟨rfl, rfl⟩
    · exact ⟨rfl, rfl⟩
  have hquiet := respond_quiet env (s.endRun.armDeadline value.state) id .ready (.value .empty)
  refine ⟨h.base.settleTurn id value, ?_, trivial, ?_⟩
  rotate_left
  · obtain ⟨acts, hacts, hq⟩ := hquiet.history
    refine h.spared.keeps h.agree (.of_acts acts (hacts.trans (by rw [harmed.1])) fun a ha => ?_) ?_
    · exact Act.keepsRuns_of_quiet (hq a ha)
    · exact Eq.trans (by simp [Session.settleTurn, nextGeneration, hquiet.core]) harmed.2
  have hended : (s.endRun.armDeadline value.state).view = { s.view with runID := "" } ∧
      (s.endRun.armDeadline value.state).path down = s.path down := by
    unfold armDeadline endRun
    simp only
    split
    · split <;> exact ⟨rfl, rfl⟩
    · exact ⟨rfl, rfl⟩
  have hcore :=
    (respond_quiet env (s.endRun.armDeadline value.state) id .ready (.value .empty)).core
  have hfollows := respond_follows env (s.endRun.armDeadline value.state) id .ready
      (.value .empty) down
  have hnext := respond_nextOut env (s.endRun.armDeadline value.state) id .ready (.value .empty)
  rw [hended.2] at hfollows
  refine h.agree.finishes hrun hsame hnoReady hstage ?_ hfollows
  have hview : ∀ {t u : Session}, u.toSessionCore = t.toSessionCore → u.nextOut = t.nextOut →
      u.view = { t.view with dead := u.view.dead } := by
    intro t u hc hn
    simp [view, nextGeneration, hc, hn]
  rw [Session.settleTurn, hview hcore hnext, hended.1]

theorem ready_matches {k : Nat} {x : TurnReady} {rest : List UpFrame} (hb : Base env s)
    (h : Agree s.view (s.path down) w) (hup : w.up = .ready k x :: rest) :
    s.readyMatches x = true ∧ s.lastIn < k ∧ w.lastSequence = s.runSequence ∧
      (∀ f ∈ rest, f.isReady = false) ∧ ∀ t, w.turn = some t → t.stage = .ready k := by
  have hmem : UpFrame.ready k x ∈ w.up := by simp [hup]
  have hup' := h.flight.up
  rw [hup] at hup'
  cases h.phase with
  | idle _ _ _ noReady => exact absurd (noReady _ hmem) (by simp [UpFrame.isReady])
  | requested _ _ _ noReady => exact absurd (noReady _ hmem) (by simp [UpFrame.isReady])
  | accepted run calm same ready once =>
    obtain ⟨hsession, hrun, hstage⟩ := ready k x hmem
    refine ⟨?_, hup'.tail.1, same, fun f hf => ?_, hstage⟩
    · have hlaunch := Option.isSome_iff_ne_none.mpr hb.core.launch
      have hrun' : s.runID ≠ "" := run
      simp only [readyMatches, hlaunch, Bool.true_and, Bool.and_eq_true, beq_iff_eq, bne_iff_ne]
      exact ⟨⟨hsession, hrun'⟩, hrun⟩
    · rw [hup] at once
      simp only [List.filter_cons, UpFrame.isReady, if_true, List.length_cons] at once
      have hnil : rest.filter UpFrame.isReady = [] := List.length_eq_zero_iff.mp (by omega)
      have := List.filter_eq_nil_iff.mp hnil f hf
      simpa using this
  | lost _ _ _ _ noReady => exact absurd (noReady _ hmem) (by simp [UpFrame.isReady])

theorem Joint.ready {k : ℕ+} {x : TurnReady} {rest : List UpFrame}
    (h : Joint env none start down w s) (hup : w.up = .ready k x :: rest) :
    Joint env none start down { w with up := rest }
    (s.handleEvent env (.frame (.request k (.ready x)))) := by
  obtain ⟨hmatches, hnew, hsame, hnoReady, hstage⟩ := ready_matches h.base h.agree hup
  have hdrop : Joint env none start down { w with up := rest } s :=
    ⟨h.base, h.agree.drop hup, trivial, h.spared⟩
  have hids := h.agree.flight.up
  rw [hup] at hids
  have hlast : Joint env none start down { w with up := rest } { s with lastIn := k } :=
    ⟨{ h.base with core := { h.base.core with } }, hdrop.agree.passed hids.tail.2,
      trivial, h.spared⟩
  have hrun : s.runID ≠ "" := by
    simp only [readyMatches, Bool.and_eq_true, bne_iff_ne] at hmatches
    exact hmatches.1.2
  simp only [handleEvent]
  split
  · exact hdrop
  · unfold handleFrame
    rw [if_neg (by simp [h.base.core.identity])]
    simp only [handleRequest]
    rw [if_neg (by omega), if_neg (by simp [h.base.core.committed])]
    split
    · exact hlast.move (.quiet (supersede_quiet _ _))
    · unfold turnReady
      have hmatches' : readyMatches { s with lastIn := k } x = true := hmatches
      rw [if_pos hmatches']
      refine Joint.move (Joint.drain ?_) (.quiet (notifyCompletion_quiet _ _ _ _))
      exact hlast.settleTurn hrun hsame hnoReady hstage

end

end Sessionbus
