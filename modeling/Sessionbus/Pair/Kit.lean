import Sessionbus.Pair.Daemon

/-!
# The worker keeps the agreement

What the kit's reader and its goroutines do. A run that arrives finds the slot free, because
the acknowledgement of the run before it was read first.
-/

namespace Sessionbus

open Session (runText runText_ne)

theorem Honest.mono {m n : Nat} {c : Command} {body : Body} (h : Honest m c body) (hle : m ≤ n) :
    Honest n c body := by
  refine ⟨h.1, fun ref payload hc hb => ?_⟩
  obtain ⟨g, k, hk, hkm⟩ := h.2 ref payload hc hb
  exact ⟨g, k, hk, hkm.trans hle⟩

theorem Command.free.honest {c : Command} (h : c.free) (n : Nat) (body : Body) :
    Honest n c body := by
  refine ⟨fun hne => absurd h.1 hne, fun ref payload hc => ?_⟩
  subst hc
  exact absurd rfl h.2

theorem Task.Honest.mono {m n : Nat} {t : Task} (h : t.Honest m) (hle : m ≤ n) : t.Honest n := by
  cases t with
  | answer r body => exact Sessionbus.Honest.mono h hle
  | deliver => exact h
  | submitted => exact h
  | read => exact h
  | close => exact h
  | superseded => exact h

theorem Phase.tail {v : View} {f : OutFrame} {path : List OutFrame} {last : Nat} {up : List UpFrame}
    {turn : Option Turn} {closed : Bool} (h : Phase v (f :: path) last up turn closed)
    (hrun : f.run = none)
    (hack : ∀ t k, turn = some t → t.stage = .ready k → f ≠ .response k (.result .empty)) :
    Phase v path last up turn closed := by
  cases h with
  | idle none calm same noReady past acked =>
    refine .idle none (fun g hg => calm g (List.mem_cons_of_mem _ hg)) same noReady past ?_
    exact acked.imp_right (Or.imp_right fun h => h.tail hack)
  | requested run frame next noReady past acked =>
    rw [List.filterMap_cons_none hrun] at frame
    exact .requested run frame next noReady past (acked.imp_right fun h => h.tail hack)
  | accepted run calm same ready once =>
    exact .accepted run (fun g hg => calm g (List.mem_cons_of_mem _ hg)) same ready once
  | lost run dead calm next noReady past =>
    exact .lost run dead (fun g hg => calm g (List.mem_cons_of_mem _ hg)) next noReady past

theorem Phase.hungTail {v : View} {f : OutFrame} {path : List OutFrame} {last : Nat}
    {up : List UpFrame} {turn : Option Turn} (h : Phase v (f :: path) last up turn true)
    (hrun : f.run = none) : Phase v path last up turn true := by
  cases h with
  | idle none calm same noReady past =>
    exact .idle none (fun g hg => calm g (List.mem_cons_of_mem _ hg)) same noReady past (.inl rfl)
  | requested run frame next noReady past =>
    rw [List.filterMap_cons_none hrun] at frame
    exact .requested run frame next noReady past (.inl rfl)
  | accepted run calm same ready once =>
    exact .accepted run (fun g hg => calm g (List.mem_cons_of_mem _ hg)) same ready once
  | lost run dead calm next noReady past =>
    exact .lost run dead (fun g hg => calm g (List.mem_cons_of_mem _ hg)) next noReady past

theorem Phase.grow {v : View} {path : List OutFrame} {last : Nat} {up : List UpFrame}
    {turn : Option Turn} {closed : Bool} {f : UpFrame} (h : Phase v path last up turn closed)
    (hf : f.isReady = false) : Phase v path last (up ++ [f]) turn closed := by
  have hnone : (∀ g ∈ up, g.isReady = false) → ∀ g ∈ up ++ [f], g.isReady = false := by
    intro hall g hg
    rcases List.mem_append.mp hg with hg | hg
    · exact hall g hg
    · rw [List.mem_singleton.mp hg]
      exact hf
  cases h with
  | idle none calm same noReady past acked => exact .idle none calm same (hnone noReady) past acked
  | requested run frame next noReady past acked =>
    exact .requested run frame next (hnone noReady) past acked
  | accepted run calm same ready once =>
    refine .accepted run calm same (fun k x hk => ?_) ?_
    · rcases List.mem_append.mp hk with hk | hk
      · exact ready k x hk
      · rw [← List.mem_singleton.mp hk] at hf
        cases hf
    · rw [List.filter_append, List.filter_cons_of_neg (by simp [hf])]
      simpa using once
  | lost run dead calm next noReady past => exact .lost run dead calm next (hnone noReady) past

theorem Phase.free {v : View} {path : List OutFrame} {last : Nat} {up : List UpFrame}
    {turn : Option Turn} {closed : Bool} {f : OutFrame}
    (h : Phase v (f :: path) last up turn closed) (hrun : f.run = none) :
    Phase v path last up none closed := by
  have hnone : AckedIn path (none : Option Turn) := fun t ht => by cases ht
  have hover : Over (none : Option Turn) := fun t ht => by cases ht
  cases h with
  | idle none calm same noReady =>
    exact .idle none (fun g hg => calm g (List.mem_cons_of_mem _ hg)) same noReady hover
      (.inr (.inr hnone))
  | requested run frame next noReady =>
    rw [List.filterMap_cons_none hrun] at frame
    exact .requested run frame next noReady hover (.inr hnone)
  | accepted run calm same ready once =>
    refine .accepted run (fun g hg => calm g (List.mem_cons_of_mem _ hg)) same ?_ once
    exact fun k x hk => ⟨(ready k x hk).1, (ready k x hk).2.1, fun t ht => by cases ht⟩
  | lost run dead calm next noReady =>
    exact .lost run dead (fun g hg => calm g (List.mem_cons_of_mem _ hg)) next noReady hover

namespace Agree

variable {v : View} {path path' : List OutFrame} {w : Worker}

/-! ## Small steps -/

theorem spawn (h : Agree v path w) (t : Task) (hid : t.request.id ≤ w.last)
    (hhonest : t.Honest w.acknowledged)
    (hcmd : ∀ p, v.pending.lookup t.request.id = some p → p.command = t.request.command) :
    Agree v path (w.spawn t) := by
  refine ⟨h.good, h.current, { h.kit with }, { h.flight with tasks := ?_ }, h.phase⟩
  intro t' ht'
  simp only [Worker.spawn, List.mem_append, List.mem_singleton] at ht'
  rcases ht' with ht' | rfl
  · exact h.flight.tasks t' ht'
  · exact ⟨hid, hhonest, hcmd⟩

theorem removeTask (h : Agree v path w) (i : Nat) : Agree v path (w.removeTask i) := by
  refine ⟨h.good, h.current, { h.kit with }, { h.flight with tasks := ?_ }, h.phase⟩
  exact fun t ht => h.flight.tasks t (List.mem_of_mem_eraseIdx ht)

theorem waiters (h : Agree v path w) (n : Nat) : Agree v path { w with waiters := n } :=
  ⟨h.good, h.current, { h.kit with }, { h.flight with }, h.phase⟩

theorem hangUp (h : Agree v path w) : Agree v path w.hangUp := by
  refine ⟨h.good, h.current, ?_, { h.flight with }, ?_⟩
  · exact { h.kit with
      announced := fun _ _ _ _ => .inl rfl
      waiting := fun k m state hk => by simp [Worker.hangUp] at hk
      called := fun k x hk => by simp [Worker.hangUp] at hk }
  · cases h.phase with
    | idle none calm same noReady past => exact .idle none calm same noReady past (.inl rfl)
    | requested run frame next noReady past =>
      exact .requested run frame next noReady past (.inl rfl)
    | accepted run calm same ready once => exact .accepted run calm same ready once
    | lost run dead calm next noReady past => exact .lost run dead calm next noReady past

theorem respond (h : Agree v path w) (k : Nat) (body : Body) (hid : k ≤ w.last)
    (hhonest : ∀ p, v.pending.lookup k = some p → Honest w.acknowledged p.command body) :
    Agree v path (w.write (.response k body)) := by
  unfold Worker.write
  split
  · exact h
  · have hids : (w.up ++ [UpFrame.response k body]).filterMap UpFrame.requestID =
        w.up.filterMap UpFrame.requestID := by
      simp [UpFrame.requestID]
    refine ⟨h.good, h.current, { h.kit with }, { h.flight with up := ?_, answers := ?_ },
      h.phase.grow rfl⟩
    · rw [hids]
      exact h.flight.up
    · intro k' body' hk'
      rcases List.mem_append.mp hk' with hk' | hk'
      · exact h.flight.answers k' body' hk'
      · cases List.mem_singleton.mp hk'
        exact ⟨hid, hhonest⟩

theorem call (h : Agree v path w) (method : Method) : Agree v path (w.call method) := by
  unfold Worker.call
  split
  · exact h
  · rename_i hroom
    simp only [not_or, Bool.not_eq_true] at hroom
    have hnew : w.calls.lookup (w.next + 1) = none := by
      cases hlook : w.calls.lookup (w.next + 1) with
      | none => rfl
      | some x => have := h.kit.called _ x hlook; omega
    rw [Worker.write, if_neg (by simp [hroom.1])]
    refine ⟨h.good, h.current, ?_, { h.flight with up := ?_, answers := ?_ }, h.phase.grow rfl⟩
    · exact { h.kit with
        announced := by
          intro t k ht hk
          rcases h.kit.announced t k ht hk with hc | ⟨state, hstate⟩
          · exact .inl hc
          · refine .inr ⟨state, AList.lookup_insert_iff.mpr (.inr ⟨?_, hstate⟩)⟩
            rintro rfl
            rw [hnew] at hstate
            cases hstate
        waiting := by
          intro k m state hk
          rcases AList.lookup_insert_iff.mp hk with ⟨-, hx⟩ | ⟨-, hk⟩
          · cases hx
          · exact h.kit.waiting k m state hk
        called := by
          intro k x hk
          rcases AList.lookup_insert_iff.mp hk with ⟨rfl, -⟩ | ⟨-, hk⟩
          · exact le_rfl
          · exact (h.kit.called k x hk).trans (Nat.le_succ _) }
    · rw [List.filterMap_append]
      exact h.flight.up.append (.succ _)
    · intro k body hk
      rcases List.mem_append.mp hk with hk | hk
      · exact h.flight.answers k body hk
      · cases List.mem_singleton.mp hk

/-! ## Reading -/

theorem flight_tail {f : OutFrame} (h : Flight v (f :: path) w) {n : Nat} (hlast : w.last ≤ n)
    (hdown : Numbered n v.nextOut path) : Flight v path { w with last := n } :=
  { h with
    down := hdown
    commands := fun k c p hk => h.commands k c p (List.mem_cons_of_mem _ hk)
    lanes := fun k p hk => h.lanes k p (List.mem_cons_of_mem _ hk)
    answers := fun k body hk => ⟨(h.answers k body hk).1.trans hlast, (h.answers k body hk).2⟩
    tasks := fun t ht => ⟨(h.tasks t ht).1.trans hlast, (h.tasks t ht).2⟩
    turn := fun t ht => ⟨(h.turn t ht).1.trans hlast, (h.turn t ht).2⟩
    closing := fun hw =>
      ⟨(h.closing hw).1, fun g hg => (h.closing hw).2 g (List.mem_cons_of_mem _ hg)⟩
    closes := (List.pairwise_cons.mp h.closes).2
    closeSent := fun g hg => h.closeSent g (List.mem_cons_of_mem _ hg) }

theorem readRequest {k : Nat} {c : Command} (h : Agree v (.request k c :: path) w)
    (hrun : c.run = none) : w.last < k ∧ Agree v path { w with last := k } ∧
    ∀ p, v.pending.lookup k = some p → p.command = c := by
  obtain ⟨hnew, hdown⟩ := Trace.Ascending.tail h.flight.down
  refine ⟨hnew, ⟨h.good, h.current, { h.kit with }, flight_tail h.flight hnew.le hdown, ?_⟩,
    fun p hp => ?_⟩
  · exact h.phase.tail hrun fun t k' _ _ heq => by cases heq
  · exact h.flight.commands k c p (by simp) hp

theorem publish {id m : Nat} {state : RunState}
    (h : Agree v (.response id (.result .empty) :: path) w)
    (hcall : w.calls.lookup id = some (.ready m state)) :
    Agree v path ({ w with calls := w.calls.erase id }.publish m state) := by
  obtain ⟨t, ht, hm, hstage⟩ := h.kit.waiting id m state hcall
  have hturn : w.turn.any (fun t => t.sequence == m) = true := by simp [ht, hm]
  have hflight := flight_tail h.flight le_rfl h.flight.down
  have hphase := h.phase.free rfl
  unfold Worker.publish
  simp only [hturn, if_true]
  refine ⟨h.good, h.current, ?_, ?_, hphase⟩
  · exact { h.kit with
      records := by
        rw [← h.kit.records, List.map_map]
        refine List.map_congr_left fun r _ => ?_
        simp only [Function.comp_apply]
        split <;> rfl
      current := fun t ht => by cases ht
      origin := fun t ht => by cases ht
      slot := by
        intro k hk
        split at hk
        · cases hk
        · rename_i hrun
          obtain ⟨t', ht', hseq⟩ := h.kit.slot k hk
          rw [ht] at ht'
          cases ht'
          rw [hk, ← hseq, hm] at hrun
          exact absurd rfl hrun
      announced := fun t k ht => by cases ht
      waiting := by
        intro k n state' hk
        obtain ⟨hne, hk⟩ := AList.lookup_erase_iff.mp hk
        obtain ⟨t', ht', -, hstage'⟩ := h.kit.waiting k n state' hk
        rw [ht] at ht'
        cases ht'
        rw [hstage] at hstage'
        cases hstage'
        exact absurd rfl hne
      called := fun k x hk => h.kit.called k x (AList.lookup_erase_iff.mp hk).2 }
  · exact { hflight with
      turn := fun t ht => by cases ht
      closing := by
        intro hw
        split at hw
        · cases hw
        · exact hflight.closing hw }

theorem hangUp_tail {f : OutFrame} (h : Agree v (f :: path) w) (hrun : f.run = none)
    (hid : f.requestID = none) : Agree v path w.hangUp := by
  have hdown : Numbered w.last v.nextOut path := by
    have := h.flight.down
    unfold Numbered at this
    rwa [List.filterMap_cons_none hid] at this
  have hh := h.hangUp
  exact ⟨hh.good, hh.current, hh.kit, flight_tail hh.flight le_rfl hdown, hh.phase.hungTail hrun⟩

theorem readResponse {id : Nat} {body : Body} (h : Agree v (.response id body :: path) w)
    (hopen : w.closed = false) : Agree v path (w.receiveResponse id body) := by
  have hdown : Numbered w.last v.nextOut path := h.flight.down
  unfold Worker.receiveResponse
  split
  · exact h.hangUp_tail rfl rfl
  · rename_i m state hcall
    split
    · rename_i hbody
      subst hbody
      exact h.publish hcall
    · exact h.hangUp_tail rfl rfl
  · rename_i hcall
    -- The current run's `turn.ready` is another call, so this is not its acknowledgement.
    have hother : ∀ t k, w.turn = some t → t.stage = .ready k →
        k ≠ id ∧ ∃ state, w.calls.lookup k = some (.ready t.sequence state) := by
      intro t k ht hk
      rcases h.kit.announced t k ht hk with hc | ⟨state, hstate⟩
      · rw [hopen] at hc
        cases hc
      · refine ⟨?_, state, hstate⟩
        rintro rfl
        rw [hcall] at hstate
        cases hstate
    refine ⟨h.good, h.current, ?_, { flight_tail h.flight le_rfl hdown with }, ?_⟩
    · exact { h.kit with
        announced := by
          intro t k ht hk
          obtain ⟨hne, state, hstate⟩ := hother t k ht hk
          exact .inr ⟨state, AList.lookup_erase_iff.mpr ⟨hne, hstate⟩⟩
        waiting := fun k m state hk => h.kit.waiting k m state (AList.lookup_erase_iff.mp hk).2
        called := fun k x hk => h.kit.called k x (AList.lookup_erase_iff.mp hk).2 }
    · refine h.phase.tail rfl fun t k ht hk heq => ?_
      cases heq
      exact (hother t _ ht hk).1 rfl

/-! ## Requests that start no run

`r` has been read, so its number is not above the last one. -/

section
variable {r : Request}

/-- The request was read and is the call it was written as. -/
structure Taken (v : View) (w : Worker) (r : Request) : Prop where
  id : r.id ≤ w.last
  command : ∀ p, v.pending.lookup r.id = some p → p.command = r.command

theorem answerHonest (h : Agree v path w) (hr : Taken v w r) {body : Body}
    (hhonest : Honest w.acknowledged r.command body) : Agree v path (w.answer r body) :=
  h.spawn (.answer r body) hr.id hhonest hr.command

theorem answerFree (h : Agree v path w) (hr : Taken v w r) (hfree : r.command.free) (body : Body) :
    Agree v path (w.answer r body) :=
  h.answerHonest hr (hfree.honest _ _)

theorem readRun (h : Agree v path w) (hr : Taken v w r) (hfree : r.command.free) (p : WaitRequest)
    (wait : Bool) : Agree v path (w.readRun r p wait) := by
  unfold Worker.readRun
  split
  · exact h.answerFree hr hfree _
  · exact (h.waiters _).spawn (.read r p wait) hr.id hfree hr.command

theorem interrupt (h : Agree v path w) (hr : Taken v w r) (hfree : r.command.free) :
    Agree v path (w.interrupt r) := by
  unfold Worker.interrupt
  split
  · exact h.answerFree hr hfree _
  · exact h.answerFree hr hfree _
  · split
    · exact h.answerFree hr hfree _
    · exact h.answerFree hr hfree _

theorem deliver (h : Agree v path w) (hr : Taken v w r) (hfree : r.command.free)
    {p : DeliveryRequest} (hp : p.runID = "") : Agree v path (w.deliver r p) := by
  unfold Worker.deliver
  rw [if_neg (by simp [hp])]
  split
  · exact h.answerFree hr hfree _
  · exact h.spawn (.deliver r p _) hr.id hfree hr.command
  · exact h.spawn (.deliver r p none) hr.id hfree hr.command

/-- A close marks the slot for good; no run is behind it on the path. -/
theorem close (h : Agree v path w) (hr : Taken v w r) (hfree : r.command.free)
    (hclosing : v.closing = true) (hcalm : ∀ f ∈ path, f.run = none) :
    Agree v path (w.close r) := by
  have hmark : Agree v path { w with run := some .closing } :=
    ⟨h.good, h.current, { h.kit with slot := fun m hm => by cases hm },
      { h.flight with closing := fun _ => ⟨hclosing, hcalm⟩ }, h.phase⟩
  unfold Worker.close
  split
  · exact h.hangUp
  · exact hmark.spawn (.close r _) hr.id hfree hr.command
  · exact hmark.spawn (.close r none) hr.id hfree hr.command

theorem first_record {first : Record} {rest : List Record} (h : Agree v path w)
    (hrec : w.records = first :: rest) :
    w.acknowledged < w.lastSequence ∧ first.ref.runID = runText v.generation (w.acknowledged + 1) ∧
      rest.map (fun r => (r.ref.runID, r.sequence)) =
        (List.range' (w.acknowledged + 1 + 1) (w.lastSequence - (w.acknowledged + 1))).map
          fun n => (runText v.generation n, n) := by
  have hrecords := h.kit.records
  rw [hrec] at hrecords
  cases hn : w.lastSequence - w.acknowledged with
  | zero => rw [hn] at hrecords; simp at hrecords
  | succ n =>
    rw [hn, List.range'_succ, List.map_cons, List.map_cons, List.cons.injEq,
      Prod.mk.injEq] at hrecords
    have hn' : w.lastSequence - (w.acknowledged + 1) = n := by omega
    rw [hn']
    exact ⟨by omega, hrecords.1.1, hrecords.2⟩

theorem letGo {rest : List Record} (h : Agree v path w) (hlt : w.acknowledged < w.lastSequence)
    (hrest : rest.map (fun r => (r.ref.runID, r.sequence)) =
      (List.range' (w.acknowledged + 1 + 1) (w.lastSequence - (w.acknowledged + 1))).map
        fun n => (runText v.generation n, n)) :
    Agree v path { w with acknowledged := w.acknowledged + 1, records := rest } := by
  have hle : w.acknowledged ≤ w.acknowledged + 1 := Nat.le_succ _
  have hf := h.flight
  refine ⟨h.good, h.current, ?_, ?_, h.phase⟩
  · exact { h.kit with
      acknowledged := h.kit.acknowledged.trans hle
      acked := hlt
      records := hrest }
  · exact { hf with
      answers := fun k body hk =>
        ⟨(hf.answers k body hk).1, fun p hp => ((hf.answers k body hk).2 p hp).mono hle⟩
      tasks := fun t ht => ⟨(hf.tasks t ht).1, (hf.tasks t ht).2.1.mono hle, (hf.tasks t ht).2.2⟩ }

theorem ackRun (h : Agree v path w) (hr : Taken v w r) {ref : RunRef}
    (hcmd : r.command = .ack ref) : Agree v path (w.ackRun r ref) := by
  have hrefuse : ∀ code, Agree v path (w.refuse r code) := by
    intro code
    refine h.answerHonest hr ⟨fun hne => ?_, fun _ _ _ hb => by cases hb⟩
    rw [hcmd] at hne
    exact absurd rfl hne
  unfold Worker.ackRun
  split
  · exact hrefuse _
  · rename_i g n hnum
    have hhonest : ∀ {m}, n ≤ m → Honest m r.command (.result .empty) := by
      intro m hm
      refine ⟨fun _ e he => (by cases he), fun ref' _ hc _ => ?_⟩
      rw [hcmd] at hc
      cases hc
      exact ⟨g, n, hnum, hm⟩
    split
    · rename_i hgen
      split
      · rename_i hle
        exact h.answerHonest hr (hhonest hle)
      · split
        · exact hrefuse _
        · rename_i first rest hrec
          split
          · rename_i hfirst
            obtain ⟨hlt, hid, hrest⟩ := h.first_record hrec
            have hn : n = w.acknowledged + 1 := by
              rw [← hfirst.1, hid, runNumber_runText h.good (Nat.succ_pos _)] at hnum
              cases hnum
              rfl
            subst hn
            exact (h.letGo hlt hrest).answerHonest ⟨hr.id, hr.command⟩ (hhonest le_rfl)
          · exact hrefuse _
    · exact hrefuse _

end

/-! ## Runs -/

/-- What the kit finds when a run is the next frame to read. -/
structure Arrives (v : View) (path : List OutFrame) (w : Worker) (id : String) : Prop where
  turn : w.turn = none
  run : w.run = none
  room : w.records.length < maxOperations
  next : w.lastSequence + 1 = v.runSequence
  current : v.runID ≠ ""
  id : id = runText v.generation (w.lastSequence + 1)
  noReady : ∀ f ∈ w.up, f.isReady = false
  calm : ∀ f ∈ path, f.run = none

theorem records_length (h : Agree v path w) :
    w.records.length = w.lastSequence - w.acknowledged := by
  have := congrArg List.length h.kit.records
  simpa using this

/-- The run before was acknowledged, so the slot is free, and the session counts at least as many
records as there are. -/
theorem arrives {k : Nat} {c : Command} {id : String} (h : Agree v (.request k c :: path) w)
    (hopen : w.closed = false) (hrun : c.run = some id)
    (hcap : v.runSequence ≤ v.acknowledged + maxOperations) : Arrives v path w id := by
  have hhead : (OutFrame.request k c).run = some id := hrun
  have hnot : ¬ ∀ f ∈ OutFrame.request k c :: path, f.run = none := by
    intro hcalm
    have := hcalm (.request k c) List.mem_cons_self
    rw [hhead] at this
    cases this
  cases h.phase with
  | idle none calm => exact absurd calm hnot
  | accepted run calm => exact absurd calm hnot
  | lost run dead calm => exact absurd calm hnot
  | requested run frame next noReady past acked =>
    rw [List.filterMap_cons_some hhead, List.cons.injEq] at frame
    have hturn : w.turn = none := by
      cases ht : w.turn with
      | none => rfl
      | some t =>
        rcases acked with hc | hack
        · rw [hopen] at hc
          cases hc
        · obtain ⟨j, a, b, -, hpath, ha⟩ := hack t ht
          rcases a with _ | ⟨x, a⟩
          · simp at hpath
          · simp only [List.cons_append, List.cons.injEq] at hpath
            have := ha x (by simp)
            rw [← hpath.1, hhead] at this
            cases this
    have hslot : w.run = none := by
      cases hw : w.run with
      | none => rfl
      | some slot =>
        cases slot with
        | closing => exact absurd (h.flight.closing hw).2 hnot
        | turn m =>
          obtain ⟨t, ht, -⟩ := h.kit.slot m hw
          rw [hturn] at ht
          cases ht
    refine ⟨hturn, hslot, ?_, next, run, ?_, noReady, List.filterMap_eq_nil_iff.mp frame.2⟩
    · rw [h.records_length]
      have := h.kit.acknowledged
      have := h.kit.acked
      have hmax : 0 < maxOperations := by decide
      omega
    · rw [frame.1, next]
      exact h.current run

theorem Arrives.executeCode {id : String} (h : Agree v path w) (ha : Arrives v path' w id)
    {ref : RunRef} (hs : ref.sessionID = v.sessionID) (hid : ref.runID = id) :
    w.executeCode ref = none := by
  have hroom : ¬ maxOperations ≤ w.records.length := by have := ha.room; omega
  have hgen : w.generation = "" ∨ w.generation = v.generation := by
    rw [h.kit.generation]
    split
    · exact .inl rfl
    · exact .inr rfl
  unfold Worker.executeCode
  rw [if_neg (by simp [h.kit.opened, ha.run, hroom]), hid, ha.id,
    runNumber_runText h.good (Nat.succ_pos _)]
  dsimp only
  rw [if_neg]
  rintro (hne | ⟨hne, hne'⟩ | hne)
  · exact hne (hs.trans h.kit.session.symm)
  · exact hgen.elim hne hne'
  · exact hne rfl

theorem admitRun {k : Nat} {c : Command} {id : String} {seed : Option DeliveryRequest}
    (h : Agree v (.request k c :: path) w) (ha : Arrives v path w id)
    (hmethod : c.method = if seed.isSome then .deliver else .execute) :
    Agree v path ({ w with last := k }.admitRun ⟨k, c⟩ ⟨v.sessionID, id⟩ seed v.generation
      (w.lastSequence + 1)) := by
  obtain ⟨hnew, hdown⟩ := Trace.Ascending.tail h.flight.down
  have hflight := flight_tail h.flight hnew.le hdown
  refine ⟨h.good, h.current, ?_, ?_, ?_⟩
  · exact { h.kit with
      generation := (if_neg (Nat.succ_ne_zero _)).symm
      acked := h.kit.acked.trans (Nat.le_succ _)
      records := by
        have hsub : w.lastSequence + 1 - w.acknowledged = w.lastSequence - w.acknowledged + 1 := by
          have := h.kit.acked
          omega
        have hnext : w.acknowledged + 1 + (w.lastSequence - w.acknowledged) =
            w.lastSequence + 1 := by
          have := h.kit.acked
          omega
        simp only [Worker.admitRun, List.map_append, h.kit.records, hsub, List.range'_1_concat,
          hnext, List.map_cons, List.map_nil, ha.id]
      current := by
        rintro t ⟨⟩
        exact ⟨rfl, by rw [ha.id]; rfl⟩
      origin := by
        rintro t ⟨⟩
        exact hmethod
      slot := by
        rintro m ⟨⟩
        exact ⟨_, rfl, rfl⟩
      announced := by
        rintro t j ⟨⟩ hj
        simp only at hj
        split at hj <;> cases hj
      waiting := by
        intro j m state hj
        obtain ⟨t, ht, -⟩ := h.kit.waiting j m state hj
        rw [ha.turn] at ht
        cases ht }
  · exact { hflight with
      turn := by
        rintro t ⟨⟩
        exact ⟨le_rfl, fun p hp => h.flight.commands k c p (by simp) hp⟩
      closing := by rintro ⟨⟩ }
  · refine .accepted ha.current ha.calm ha.next (fun j x hj => ?_) ?_
    · exact absurd (ha.noReady _ hj) (by simp [UpFrame.isReady])
    · rw [List.filter_eq_nil_iff.mpr fun f hf => by simp [ha.noReady f hf]]
      exact Nat.zero_le _

theorem execute_eq {k : Nat} {c : Command} {id : String} {ref : RunRef}
    {seed : Option DeliveryRequest} (h : Agree v (.request k c :: path) w)
    (ha : Arrives v path w id) (href : ref = ⟨v.sessionID, id⟩) :
    { w with last := k }.execute ⟨k, c⟩ ref seed =
      { w with last := k }.admitRun ⟨k, c⟩ ⟨v.sessionID, id⟩ seed v.generation
    (w.lastSequence + 1) := by
  subst href
  have hcode : Worker.executeCode { w with last := k } ⟨v.sessionID, id⟩ = none :=
    ha.executeCode h rfl rfl
  have hnum : runNumber id = some (v.generation, w.lastSequence + 1) := by
    rw [ha.id]
    exact runNumber_runText h.good (Nat.succ_pos _)
  unfold Worker.execute
  rw [hcode]
  simp only [hnum]

theorem receive_run {k : Nat} {c : Command} {id : String} (h : Agree v (.request k c :: path) w)
    (ha : Arrives v path w id) (hrun : c.run = some id) :
    ∃ seed : Option DeliveryRequest, (c.method = if seed.isSome then .deliver else .execute) ∧
      w.receiveRequest ⟨k, c⟩ =
        { w with last := k }.admitRun ⟨k, c⟩ ⟨v.sessionID, id⟩ seed v.generation
        (w.lastSequence + 1) := by
  have hnew : w.last < k := (Trace.Ascending.tail h.flight.down).1
  unfold Worker.receiveRequest
  rw [if_pos hnew]
  cases c with
  | execute p =>
    cases hrun
    have hs : p.sessionID = v.sessionID := h.flight.lanes k p (by simp)
    exact ⟨none, rfl, h.execute_eq ha (by rw [hs])⟩
  | deliver p =>
    simp only [Command.run] at hrun
    split at hrun
    · cases hrun
    · rename_i hp
      cases hrun
      refine ⟨some { p with runID := "" }, rfl, ?_⟩
      simp only [Worker.handle]
      unfold Worker.deliver
      rw [if_pos hp]
      exact h.execute_eq ha (by rw [← h.kit.session])
  | _ => cases hrun

theorem readPlain {k : Nat} {c : Command} (h : Agree v (.request k c :: path) w)
    (hrun : c.run = none) : Agree v path (w.receiveRequest ⟨k, c⟩) := by
  obtain ⟨hnew, hread, hcmd⟩ := h.readRequest hrun
  have htaken : Taken v { w with last := k } ⟨k, c⟩ := ⟨le_rfl, hcmd⟩
  have hfree (hack : c.method ≠ .ack) : c.free := ⟨hrun, hack⟩
  unfold Worker.receiveRequest
  rw [if_pos hnew]
  cases c with
  | execute p => cases hrun
  | deliver p =>
    refine hread.deliver htaken (hfree (by simp [Command.method])) ?_
    by_contra hp
    simp [Command.run, hp] at hrun
  | status p => exact hread.readRun htaken (hfree (by simp [Command.method])) _ _
  | wait p => exact hread.readRun htaken (hfree (by simp [Command.method])) _ _
  | ack p => exact hread.ackRun htaken rfl
  | interrupt p => exact hread.interrupt htaken (hfree (by simp [Command.method]))
  | close p =>
    refine hread.close htaken (hfree (by simp [Command.method])) ?_ ?_
    · exact h.flight.closeSent _ List.mem_cons_self rfl
    · exact fun f hf => (List.pairwise_cons.mp h.flight.closes).1 f hf rfl
  | openSession p => exact hread.answerFree htaken (hfree (by simp [Command.method])) _
  | superseded => exact hread.spawn (.superseded _) le_rfl (hfree (by simp [Command.method])) hcmd

theorem receive {f : OutFrame} (h : Agree v (f :: path) w) (hopen : w.closed = false)
    (hcap : v.runSequence ≤ v.acknowledged + maxOperations) : Agree v path (w.receive f) := by
  cases f with
  | request k c =>
    cases hrun : c.run with
    | none => exact h.readPlain hrun
    | some id =>
      have ha := h.arrives hopen hrun hcap
      obtain ⟨seed, hmethod, heq⟩ := h.receive_run ha hrun
      simp only [Worker.receive, heq]
      exact h.admitRun ha hmethod
  | response k body => exact h.readResponse hopen

end Agree

end Sessionbus
