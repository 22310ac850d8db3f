import Sessionbus.Pair.Kit

/-!
# The goroutines of the kit keep the agreement

Answers are written by tasks, and `runTurn` takes the current run from its admission to its
`turn.ready`.
-/

namespace Sessionbus.Agree

open Session (runText runText_ne)

variable {v : View} {path : List OutFrame} {w : Worker}

/-! ## Tasks -/

theorem task_free (h : Agree v path w) {t : Task} (ht : t ∈ w.tasks)
    (hfree : t.request.command.free) (body : Body) : t.request.id ≤ w.last ∧
    ∀ p, v.pending.lookup t.request.id = some p → Honest w.acknowledged p.command body := by
  obtain ⟨hid, -, hcmd⟩ := h.flight.tasks t ht
  refine ⟨hid, fun p hp => ?_⟩
  rw [hcmd p hp]
  exact hfree.honest _ _

theorem answerRead (h : Agree v path w) {r : Request} {p : WaitRequest} {wait : Bool} (index : Nat)
    (body : Body) (ht : .read r p wait ∈ w.tasks) : Agree v path (w.answerRead index r body) := by
  obtain ⟨hid, hhonest⟩ := h.task_free ht (h.flight.tasks _ ht).2.1 body
  exact ((h.waiters _).removeTask index).respond r.id body hid hhonest

theorem runTask (h : Agree v path w) (index : Nat) (report : Report) (timedOut : Bool) :
    Agree v path (w.runTask index report timedOut) := by
  unfold Worker.runTask
  split
  · exact h
  · rename_i r body hget
    obtain ⟨hid, hhonest, hcmd⟩ := h.flight.tasks _ (List.mem_of_getElem? hget)
    refine (h.removeTask index).respond r.id body hid fun p hp => ?_
    rw [hcmd p hp]
    exact hhonest
  · rename_i r p slot hget
    obtain ⟨hid, hfree, hcmd⟩ := h.flight.tasks _ (List.mem_of_getElem? hget)
    have hrespond (body : Body) : Agree v path ((w.removeTask index).write (.response r.id body)) :=
      have hhonest := h.task_free (List.mem_of_getElem? hget) hfree body
      (h.removeTask index).respond r.id body hid hhonest.2
    unfold Worker.runDeliver
    split
    · exact hrespond _
    · split
      · exact hrespond _
      · exact (h.removeTask index).spawn (.submitted r) hid hfree hcmd
  · rename_i r hget
    have hmem := List.mem_of_getElem? hget
    have hfree := h.task_free hmem (h.flight.tasks _ hmem).2.1 (Worker.deliveryReply report)
    exact (h.removeTask index).respond r.id _ hfree.1 hfree.2
  · rename_i r p wait hget
    have hmem := List.mem_of_getElem? hget
    unfold Worker.runRead
    split
    · exact h.answerRead index _ hmem
    · split
      · exact h.answerRead index _ hmem
      · exact h
  · rename_i r slot hget
    have hmem := List.mem_of_getElem? hget
    have hfree := h.task_free hmem (h.flight.tasks _ hmem).2.1 (.result .empty)
    unfold Worker.runClose
    split
    · exact h
    · exact ((h.removeTask index).respond r.id _ hfree.1 hfree.2).hangUp
  · rename_i r hget
    have hmem := List.mem_of_getElem? hget
    have hfree := h.task_free hmem (h.flight.tasks _ hmem).2.1 (.result .empty)
    exact ((h.removeTask index).respond r.id _ hfree.1 hfree.2).hangUp

/-! ## The turn -/

theorem setTurn {t t' : Turn} (h : Agree v path w) (ht : w.turn = some t)
    (hreq : t'.request = t.request) (href : t'.ref = t.ref) (hseq : t'.sequence = t.sequence)
    (hseed : t'.seed = t.seed)
    (hstage : t'.stage = t.stage ∨ (∀ k, t.stage ≠ .ready k) ∧ ∀ k, t'.stage ≠ .ready k) :
    Agree v path (w.setTurn t') := by
  have hk := h.kit
  have hready : ∀ {k}, t.stage = .ready k ↔ t'.stage = .ready k := by
    intro k
    rcases hstage with heq | ⟨hne, hne'⟩
    · rw [heq]
    · exact ⟨fun h => absurd h (hne k), fun h => absurd h (hne' k)⟩
  have hover : Over w.turn → Over (some t') := by
    rintro ho _ ⟨⟩
    obtain ⟨k, hk⟩ := ho t ht
    exact ⟨k, hready.mp hk⟩
  have hacked : AckedIn path w.turn → AckedIn path (some t') := by
    rintro ha _ ⟨⟩
    obtain ⟨k, a, b, hk, hpath⟩ := ha t ht
    exact ⟨k, a, b, hready.mp hk, hpath⟩
  refine ⟨h.good, h.current, ?_, { h.flight with turn := ?_ }, ?_⟩
  · exact { hk with
      current := by
        rintro _ ⟨⟩
        rw [hseq, href]
        exact hk.current t ht
      origin := by
        rintro _ ⟨⟩
        rw [hreq, hseed]
        exact hk.origin t ht
      slot := by
        intro m hm
        obtain ⟨t₀, ht₀, hm⟩ := hk.slot m hm
        rw [ht] at ht₀
        cases ht₀
        exact ⟨t', rfl, hseq.trans hm⟩
      announced := by
        rintro _ k ⟨⟩ hstage'
        rw [hseq]
        exact hk.announced t k ht (hready.mpr hstage')
      waiting := by
        intro k m state hcall
        obtain ⟨t₀, ht₀, hm, hstage₀⟩ := hk.waiting k m state hcall
        rw [ht] at ht₀
        cases ht₀
        exact ⟨t', rfl, hseq.trans hm, hready.mp hstage₀⟩ }
  · rintro _ ⟨⟩
    rw [hreq]
    exact h.flight.turn t ht
  · cases h.phase with
    | idle none calm same noReady past acked =>
      exact .idle none calm same noReady (hover past) (acked.imp_right (Or.imp_right hacked))
    | requested run frame next noReady past acked =>
      exact .requested run frame next noReady (hover past) (acked.imp_right hacked)
    | accepted run calm same ready once =>
      refine .accepted run calm same (fun k x hmem => ?_) once
      obtain ⟨hs, hr, hstage₀⟩ := ready k x hmem
      refine ⟨hs, hr, ?_⟩
      rintro _ ⟨⟩
      exact hready.mp (hstage₀ t ht)
    | lost run dead calm next noReady past => exact .lost run dead calm next noReady (hover past)

theorem respondTurn {t : Turn} {body : Body} (h : Agree v path w) (ht : w.turn = some t)
    (hbody : ∀ e, body = .error e → t.seed.isSome = true ∧ e.code = .internal) :
    Agree v path (w.write (.response t.request.id body)) := by
  obtain ⟨hid, hcmd⟩ := h.flight.turn t ht
  have horigin := h.kit.origin t ht
  refine h.respond _ _ hid fun p hp => ⟨fun _ e he => ?_, fun ref payload hack _ => ?_⟩
  · obtain ⟨hseed, hcode⟩ := hbody e he
    rw [hcmd p hp, horigin, if_pos hseed]
    exact ⟨rfl, hcode⟩
  · rw [← hcmd p hp, hack] at horigin
    split at horigin <;> cases horigin

theorem start (h : Agree v path w) : Agree v path w.start := by
  unfold Worker.start
  split
  · rename_i t ht
    split
    · rename_i hstage
      have hturn : Agree v path (w.setTurn { t with stage := .running }) :=
        h.setTurn ht rfl rfl rfl rfl (.inr ⟨by simp [hstage], by simp⟩)
      exact hturn.respondTurn (t := { t with stage := .running }) rfl (by rintro _ ⟨⟩)
    · exact h
  · exact h

theorem report (h : Agree v path w) {value : Report} (hvalue : value ≠ .notRunning) :
    Agree v path (w.report value) := by
  unfold Worker.report
  split
  · rename_i t ht
    split
    · rename_i hseed
      have hturn : Agree v path (w.setTurn { t with reported := true }) :=
        h.setTurn ht rfl rfl rfl rfl (.inl rfl)
      refine hturn.respondTurn (t := { t with reported := true }) rfl fun e he => ⟨hseed.1, ?_⟩
      cases value with
      | notRunning => exact absurd rfl hvalue
      | internal data => cases he; rfl
      | receipt r => cases he
      | failed text => cases he
    · exact h
  · exact h

theorem finish (h : Agree v path w) (state : RunState) : Agree v path (w.finish state) := by
  unfold Worker.finish
  split
  · rename_i t ht
    split
    · rename_i hstage
      exact h.setTurn ht rfl rfl rfl rfl (.inr ⟨by simp [hstage], by simp⟩)
    · exact h
  · exact h

theorem reportMissing (h : Agree v path w) : Agree v path w.reportMissing := by
  unfold Worker.reportMissing
  split
  · exact h.report (by simp)
  · exact h

theorem accepted_of_returned {t : Turn} {state : RunState} (h : Agree v path w)
    (ht : w.turn = some t) (hstage : t.stage = .returned state) :
    v.runID ≠ "" ∧ (∀ f ∈ path, f.run = none) ∧
      w.lastSequence = v.runSequence ∧ ∀ f ∈ w.up, f.isReady = false := by
  have hnot : ¬ Over w.turn := by
    intro ho
    obtain ⟨k, hk⟩ := ho t ht
    rw [hstage] at hk
    cases hk
  cases h.phase with
  | idle none calm same noReady past => exact absurd past hnot
  | requested run frame next noReady past => exact absurd past hnot
  | lost run dead calm next noReady past => exact absurd past hnot
  | accepted run calm same ready =>
    refine ⟨run, calm, same, fun f hf => ?_⟩
    cases f with
    | response => rfl
    | client => rfl
    | ready k x =>
      have := (ready k x hf).2.2 t ht
      rw [hstage] at this
      cases this

theorem ready {t : Turn} {state : RunState} (h : Agree v path w) (ht : w.turn = some t)
    (hstage : t.stage = .returned state) (hopen : w.closed = false) :
    Agree v path (({ w with
      next := w.next + 1
      calls := w.calls.insert (w.next + 1) (.ready t.sequence state) }.setTurn
        { t with stage := .ready (w.next + 1) }).write (.ready (w.next + 1)
          { sessionID := t.ref.sessionID, runID := t.ref.runID
            state := Worker.readyState state })) := by
  obtain ⟨hrun, hcalm, hsame, hnoReady⟩ := h.accepted_of_returned ht hstage
  have hk := h.kit
  obtain ⟨hseq, href⟩ := hk.current t ht
  rw [Worker.write, if_neg (by simp [Worker.setTurn, hopen])]
  refine ⟨h.good, h.current, ?_, ?_, ?_⟩
  · exact { hk with
      current := by
        rintro _ ⟨⟩
        exact ⟨hseq, href⟩
      origin := by
        rintro _ ⟨⟩
        exact hk.origin t ht
      slot := by
        intro m hm
        obtain ⟨t₀, ht₀, hm⟩ := hk.slot m hm
        rw [ht] at ht₀
        cases ht₀
        exact ⟨_, rfl, hm⟩
      announced := by
        rintro _ k ⟨⟩ ⟨⟩
        exact .inr ⟨state, AList.lookup_insert _⟩
      waiting := by
        intro k m state' hcall
        rcases AList.lookup_insert_iff.mp hcall with ⟨rfl, hx⟩ | ⟨-, hcall⟩
        · cases hx
          exact ⟨_, rfl, rfl, rfl⟩
        · obtain ⟨t₀, ht₀, -, hstage₀⟩ := hk.waiting k m state' hcall
          rw [ht] at ht₀
          cases ht₀
          rw [hstage] at hstage₀
          cases hstage₀
      called := by
        intro k x hcall
        rcases AList.lookup_insert_iff.mp hcall with ⟨rfl, -⟩ | ⟨-, hcall⟩
        · exact le_rfl
        · exact (hk.called k x hcall).trans (Nat.le_succ _) }
  · exact { h.flight with
      up := by
        show Trace.Ascending _ _ ((w.up ++ _).filterMap _)
        rw [List.filterMap_append]
        exact h.flight.up.append (.succ _)
      answers := by
        intro k body hmem
        rcases List.mem_append.mp hmem with hmem | hmem
        · exact h.flight.answers k body hmem
        · cases List.mem_singleton.mp hmem
      turn := by
        rintro _ ⟨⟩
        exact h.flight.turn t ht }
  · refine .accepted hrun hcalm hsame (fun k x hmem => ?_) ?_
    · rcases List.mem_append.mp hmem with hmem | hmem
      · exact absurd (hnoReady _ hmem) (by simp [UpFrame.isReady])
      · cases List.mem_singleton.mp hmem
        refine ⟨by rw [href], ?_, ?_⟩
        · rw [href, h.current hrun, hsame]
        · rintro _ ⟨⟩
          rfl
    · show ((w.up ++ _).filter _).length ≤ 1
      rw [List.filter_append, List.filter_eq_nil_iff.mpr fun f hf => by simp [hnoReady f hf]]
      exact List.length_filter_le _ _

theorem announce (h : Agree v path w) : Agree v path w.announce := by
  unfold Worker.announce
  split
  · rename_i t ht
    split
    · rename_i state hstage
      split
      · exact h
      · split
        · exact h.hangUp
        · rename_i hroom
          simp only [not_or, Bool.not_eq_true] at hroom
          exact h.ready ht hstage hroom.1
    · exact h
  · exact h

theorem act (h : Agree v path w) {a : Worker.Action}
    (ha : (Pair.Action.work a).refusesSeed = false) : Agree v path (w.act a) := by
  cases a with
  | task index report timedOut => exact h.runTask index report timedOut
  | start => exact h.start
  | report value =>
    refine h.report ?_
    rintro rfl
    simp [Pair.Action.refusesSeed] at ha
  | finish result valid => exact h.finish _
  | reportMissing => exact h.reportMissing
  | announce => exact h.announce
  | call method => exact h.call method
  | hangUp => exact h.hangUp

end Sessionbus.Agree
