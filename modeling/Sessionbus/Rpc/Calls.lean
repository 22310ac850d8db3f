import Sessionbus.Rpc.Numbers

/-! # Calls that race with their replies, their cancellation and the end of the connection -/

namespace Sessionbus.Rpc

namespace Conn

variable {M P R : Type}

/-- An entry that is observed is not abandoned, and an observer that has run leaves an answer. -/
structure Seen (env : Env M P R) (s : Conn R) : Prop where
  entry : ∀ id p, s.pending.lookup id = some p → p.seen = true → p.drain = false ∧
    s.stage p.call ≠ .abandoned
  claimed : ∀ p r, s.reader = .claimed p r → p.seen = true → p.drain = false ∧
    s.stage p.call ≠ .abandoned
  observing : ∀ p raw, s.reader = .observing p raw →
    s.stage p.call ≠ .abandoned ∧ env.unmarshalResult p.call (env.method p.call) raw = true
  runs : ∀ k, s.runs k = 0 ∨
    s.runs k = 1 ∧ s.stage k ≠ .abandoned ∧ ((∃ o, s.reader = .settling k o) ∨ s.done k ≠ [])
  returned : ∀ k o, s.stage k = .returned o → (s.done k).head? = some o

namespace Seen

variable {env : Env M P R} {s t : Conn R} {k : Nat}

theorem calm (h : Seen env s)
    (hpending : ∀ id p, t.pending.lookup id = some p → s.pending.lookup id = some p)
    (hreader : t.reader = s.reader) (hstage : ∀ k, t.stage k = .abandoned → s.stage k = .abandoned)
    (hreturned : ∀ k o, t.stage k = .returned o → s.stage k = .returned o)
    (hruns : ∀ k, t.runs k = s.runs k) (hdone : ∀ k, s.done k <+: t.done k) : Seen env t := by
  refine ⟨?_, ?_, ?_, ?_, ?_⟩
  · intro id p hp hseen
    obtain ⟨hdrain, hlive⟩ := h.entry id p (hpending id p hp) hseen
    exact ⟨hdrain, fun hab => hlive (hstage _ hab)⟩
  · intro p r hr hseen
    obtain ⟨hdrain, hlive⟩ := h.claimed p r (hreader ▸ hr) hseen
    exact ⟨hdrain, fun hab => hlive (hstage _ hab)⟩
  · intro p raw hr
    obtain ⟨hlive, hvalid⟩ := h.observing p raw (hreader ▸ hr)
    exact ⟨fun hab => hlive (hstage _ hab), hvalid⟩
  · intro j
    rw [hruns]
    rcases h.runs j with hzero | ⟨hone, hlive, hsettled⟩
    · exact .inl hzero
    · refine .inr ⟨hone, fun hab => hlive (hstage _ hab), ?_⟩
      rcases hsettled with ⟨o, ho⟩ | hsent
      · exact .inl ⟨o, hreader.trans ho⟩
      · exact .inr fun e => hsent (List.prefix_nil.mp (e ▸ hdone j))
  · intro j o hj
    obtain ⟨rest, hrest⟩ := hdone j
    rw [← hrest, List.head?_append, h.returned j o (hreturned j o hj), Option.some_or]

theorem of_fields (h : Seen env s) (hcalls : t.calls = s.calls)
    (hpending : ∀ id p, t.pending.lookup id = some p → s.pending.lookup id = some p)
    (hreader : t.reader = s.reader) : Seen env t := by
  have hstage : ∀ j, t.stage j = s.stage j := by intro j; unfold stage; rw [hcalls]
  refine h.calm hpending hreader (fun j hj => hstage j ▸ hj) (fun j o hj => hstage j ▸ hj) ?_ ?_
  · intro j; unfold Conn.runs; rw [hcalls]
  · intro j
    have hdone : t.done j = s.done j := by unfold done; rw [hcalls]
    exact hdone ▸ List.prefix_refl _

theorem setStage (h : Seen env s) {x : Stage} (hx : x ≠ .abandoned)
    (hret : ∀ o, x = .returned o → (s.done k).head? = some o) : Seen env (s.setStage k x) := by
  have hother : ∀ j, j ≠ k → (s.setStage k x).stage j = s.stage j := by
    intro j hjk
    rw [stage_setStage, if_neg hjk]
  have hlive : ∀ j, s.stage j ≠ .abandoned → (s.setStage k x).stage j ≠ .abandoned := by
    intro j hj
    by_cases hjk : j = k
    · rw [stage_setStage, if_pos hjk]
      exact hx
    · rw [hother j hjk]
      exact hj
  refine ⟨?_, ?_, ?_, ?_, ?_⟩
  · intro id p hp hseen
    exact (h.entry id p hp hseen).imp_right (hlive _)
  · intro p r hr hseen
    exact (h.claimed p r hr hseen).imp_right (hlive _)
  · intro p raw hr
    exact (h.observing p raw hr).imp_left (hlive _)
  · intro j
    rw [runs_setStage, done_setStage]
    exact (h.runs j).imp_right fun ⟨hone, hj, hsettled⟩ => ⟨hone, hlive j hj, hsettled⟩
  · intro j o hj
    rw [done_setStage]
    by_cases hjk : j = k
    · rw [stage_setStage, if_pos hjk] at hj
      rw [hjk]
      exact hret o hj
    · rw [hother j hjk] at hj
      exact h.returned j o hj

theorem put (h : Seen env s) (o : Outcome) : Seen env (s.put k o) := by
  refine h.calm (fun _ _ hp => hp) rfl ?_ ?_ (fun j => runs_put s k j o) ?_
  · intro j hj
    rwa [stage_put] at hj
  · intro j o' hj
    rwa [stage_put] at hj
  · intro j
    by_cases hjk : j = k
    · rw [done_put, if_pos hjk, hjk]
      exact List.prefix_append _ _
    · have hdone : (s.put k o).done j = s.done j := by rw [done_put, if_neg hjk]
      exact hdone ▸ List.prefix_refl _

theorem unlock (h : Seen env s) : Seen env s.unlock := h.of_fields rfl (fun _ _ hp => hp) rfl

theorem close (h : Seen env s) (cause : Failure) : Seen env (s.close cause) := by
  obtain ⟨hcalls, hreader, -, -⟩ := close_fields s cause
  refine h.of_fields hcalls ?_ hreader
  intro id p hp
  unfold Conn.close at hp
  split at hp
  · exact hp
  · simp at hp

theorem erase (h : Seen env s) (id : Nat) : Seen env { s with pending := s.pending.erase id } :=
  h.of_fields rfl (fun _ _ hp => (AList.lookup_erase_iff.mp hp).2) rfl

theorem refuse (h : Seen env s) (cause : Failure) : Seen env (s.refuse k cause) :=
  (h.unlock.setStage (by intro e; cases e) (by intro o e; cases e)).put _

theorem reserve (h : Seen env s) : Seen env (s.reserve env k) := by
  unfold Conn.reserve
  split
  · next hstage =>
    have hstage' : s.stage k = .locked := hstage
    split
    · exact h.refuse _
    split
    · exact h.refuse _
    split
    · exact h.refuse _
    · have hnew : Seen env { s with
          next := s.next + 1,
            pending := s.pending.insert (s.next + 1) { call := k, seen := env.seen k } } := by
        refine ⟨?_, h.claimed, h.observing, h.runs, h.returned⟩
        intro i p hp hseen
        rcases AList.lookup_insert_iff.mp hp with ⟨-, rfl⟩ | ⟨-, hold⟩
        · refine ⟨rfl, fun hab => ?_⟩
          have hab' : s.stage k = .abandoned := hab
          rw [hstage'] at hab'
          cases hab'
        · exact h.entry i p hold hseen
      exact hnew.setStage (by intro e; cases e) (by intro o e; cases e)
  · exact h

theorem drop (h : Seen env s) : Seen env (s.drop k) := by
  unfold Conn.drop
  split
  · next id cause _ =>
    split
    · exact ((h.erase id).setStage (by intro e; cases e) (by intro o e; cases e)).put _
    · exact h.setStage (by intro e; cases e) (by intro o e; cases e)
  · exact h

/-- The entry of an abandoned call was its only claim to an answer. -/
theorem abandon (h : Seen env s) (hcount : Counted s) : Seen env (s.abandon k) := by
  unfold Conn.abandon
  split
  · next id hstage =>
    have hstage' : s.stage k = .waiting id := hstage
    split
    · split
      · next hlookup =>
        obtain ⟨p, hp, hcall⟩ := Option.map_eq_some_iff.mp hlookup
        obtain ⟨hothers, hhand, hdone⟩ := hcount.sole hp
        rw [hcall] at hothers hhand hdone
        have hreader : ∀ {r : Reader R}, s.reader = r → r.hand k ≠ 1 := by
          intro r hr hk
          rw [hr, hk] at hhand
          cases hhand
        have hother :
            ∀ j, (({ s with
              pending := s.pending.insert id { call := k, seen := false, drain := true } }.setStage
            k .abandoned).stage j = .abandoned → j ≠ k → s.stage j = .abandoned) := by
          intro j hj hjk
          rw [stage_setStage, if_neg hjk] at hj
          exact hj
        refine ⟨?_, ?_, ?_, ?_, ?_⟩
        · intro i q hq hseen
          rcases AList.lookup_insert_iff.mp hq with ⟨-, rfl⟩ | ⟨hne, hold⟩
          · cases hseen
          · have hqk : q.call ≠ k := hothers i q (AList.lookup_erase_iff.mpr ⟨hne, hold⟩)
            obtain ⟨hdrain, hlive⟩ := h.entry i q hold hseen
            exact ⟨hdrain, fun hab => hlive (hother _ hab hqk)⟩
        · intro q r hr hseen
          have hqk : q.call ≠ k := fun e => hreader hr (by simp [Reader.hand, e])
          obtain ⟨hdrain, hlive⟩ := h.claimed q r hr hseen
          exact ⟨hdrain, fun hab => hlive (hother _ hab hqk)⟩
        · intro q raw hr
          have hqk : q.call ≠ k := fun e => hreader hr (by simp [Reader.hand, e])
          obtain ⟨hlive, hvalid⟩ := h.observing q raw hr
          exact ⟨fun hab => hlive (hother _ hab hqk), hvalid⟩
        · intro j
          rw [runs_setStage, done_setStage]
          rcases h.runs j with hzero | ⟨hone, hlive, hsettled⟩
          · exact .inl hzero
          · have hjk : j ≠ k := by
              rintro rfl
              rcases hsettled with ⟨o, ho⟩ | hsent
              · exact hreader ho (by simp [Reader.hand])
              · exact hsent hdone
            exact .inr ⟨hone, fun hab => hlive (hother j hab hjk), hsettled⟩
        · intro j o hj
          rw [stage_setStage] at hj
          rw [done_setStage]
          by_cases hjk : j = k
          · rw [if_pos hjk] at hj
            cases hj
          · rw [if_neg hjk] at hj
            exact h.returned j o hj
      · exact h.setStage (by intro e; cases e) (by intro o e; cases e)
    · exact h
  · exact h

theorem receiveResponse (h : Seen env s) (id : Nat) (reply : Reply R) :
    Seen env (s.receiveResponse id reply) := by
  unfold Conn.receiveResponse
  split
  · next hidle =>
    split
    · next p hp =>
      refine ⟨?_, ?_, ?_, ?_, h.returned⟩
      · intro i q hq hseen
        exact h.entry i q (AList.lookup_erase_iff.mp hq).2 hseen
      · intro q r hr hseen
        have hpq : p = q := by
          injection hr
        exact h.entry id q (hpq ▸ hp) hseen
      · intro q raw hr
        cases hr
      · intro j
        rcases h.runs j with hzero | ⟨hone, hlive, hsettled⟩
        · exact .inl hzero
        · refine .inr ⟨hone, hlive, .inr ?_⟩
          rcases hsettled with ⟨o, ho⟩ | hsent
          · rw [hidle] at ho
            cases ho
          · exact hsent
    · have hreplied : Seen env { s with replied := s.replied ++ [id] } :=
        h.of_fields rfl (fun _ _ hp => hp) rfl
      exact hreplied.close .unmatched
  · exact h

theorem settling (h : Seen env s) {j : Nat} (o : Outcome)
    (hreader : ∀ i o', s.reader = .settling i o' → i = j) :
    Seen env { s with reader := .settling j o } := by
  refine ⟨h.entry, (fun p r hr => by cases hr), (fun p raw hr => by cases hr), ?_, h.returned⟩
  intro i
  rcases h.runs i with hzero | ⟨hone, hlive, hsettled⟩
  · exact .inl hzero
  · refine .inr ⟨hone, hlive, ?_⟩
    rcases hsettled with ⟨o', ho⟩ | hsent
    · rw [hreader i o' ho]
      exact .inl ⟨o, rfl⟩
    · exact .inr hsent

theorem decode (h : Seen env s) : Seen env (s.decode env) := by
  unfold Conn.decode
  split
  · next p hclaimed =>
    exact h.settling _ fun i o' ho => by rw [hclaimed] at ho; cases ho
  · next p raw hclaimed =>
    split
    · refine (h.close .result).settling _ fun i o' ho => ?_
      rw [(close_fields s _).2.1, hclaimed] at ho
      cases ho
    · next hdecodes =>
      split
      · next hseen =>
        obtain ⟨hdrain, hlive⟩ := h.claimed p _ hclaimed hseen
        have hvalid : env.unmarshalResult p.call (env.method p.call) raw = true := by
          simpa [decodes, hdrain] using hdecodes
        refine ⟨h.entry, (fun q r hr => by cases hr), ?_, ?_, h.returned⟩
        · intro q raw' hr
          injection hr with hpq hraw
          subst hpq hraw
          exact ⟨hlive, hvalid⟩
        · intro j
          rcases h.runs j with hzero | ⟨hone, hlive, hsettled⟩
          · exact .inl hzero
          · refine .inr ⟨hone, hlive, .inr ?_⟩
            rcases hsettled with ⟨o, ho⟩ | hsent
            · rw [hclaimed] at ho
              cases ho
            · exact hsent
      · exact h.settling _ fun i o' ho => by rw [hclaimed] at ho; cases ho
  · exact h

theorem runs_observing (h : Seen env s) (hcount : Counted s) {p : Pending} {raw : R}
    (hobserving : s.reader = .observing p raw) : s.runs p.call = 0 := by
  have hhand : s.reader.hand p.call = 1 := by
    rw [hobserving]
    simp [Reader.hand]
  rcases h.runs p.call with hzero | ⟨-, -, hsettled⟩
  · exact hzero
  · rcases hsettled with ⟨o, ho⟩ | hsent
    · rw [hobserving] at ho
      cases ho
    · exact absurd (hcount.in_hand hhand).2 hsent

theorem observe (h : Seen env s) (hcount : Counted s) (succeeds : Bool) :
    Seen env (s.observe succeeds) := by
  unfold Conn.observe
  split
  · next p raw hobserving =>
    obtain ⟨hlive, -⟩ := h.observing p raw hobserving
    have hzero := h.runs_observing hcount hobserving
    have hrun : ∀ o, Seen env { s.observed p.call with reader := .settling p.call o } := by
      intro o
      refine ⟨?_, (fun q r hr => by cases hr), (fun q raw' hr => by cases hr), ?_, ?_⟩
      · intro i q hq hseen
        obtain ⟨hdrain, hlive'⟩ := h.entry i q hq hseen
        refine ⟨hdrain, fun hab => hlive' ?_⟩
        exact (stage_observed s p.call q.call).symm.trans hab
      · intro j
        show (s.observed p.call).runs j = 0 ∨ (s.observed p.call).runs j = 1 ∧
          (s.observed p.call).stage j ≠ .abandoned ∧
          ((∃ o', Reader.settling p.call o = .settling j o') ∨ (s.observed p.call).done j ≠ [])
        rw [runs_observed, stage_observed, done_observed]
        by_cases hj : j = p.call
        · subst hj
          rw [if_pos rfl, hzero]
          exact .inr ⟨rfl, hlive, .inl ⟨o, rfl⟩⟩
        · rw [if_neg hj]
          rcases h.runs j with hzero' | ⟨hone, hlive', hsettled⟩
          · exact .inl hzero'
          · refine .inr ⟨hone, hlive', .inr ?_⟩
            rcases hsettled with ⟨o', ho⟩ | hsent
            · rw [hobserving] at ho
              cases ho
            · exact hsent
      · intro j o' hj
        show ((s.observed p.call).done j).head? = some o'
        rw [done_observed]
        exact h.returned j o' ((stage_observed s p.call j).symm.trans hj)
    split
    · exact hrun none
    · rw [← close_reader]
      exact (hrun _).close .observer
  · exact h

theorem settle (h : Seen env s) : Seen env s.settle := by
  unfold Conn.settle
  split
  · next k o hsettling =>
    refine ⟨?_, (fun q r hr => by cases hr), (fun q raw' hr => by cases hr), ?_, ?_⟩
    · intro i q hq hseen
      obtain ⟨hdrain, hlive⟩ := h.entry i q hq hseen
      refine ⟨hdrain, fun hab => hlive ?_⟩
      rwa [stage_put] at hab
    · intro j
      rw [runs_put, stage_put, done_put]
      rcases h.runs j with hzero | ⟨hone, hlive, hsettled⟩
      · exact .inl hzero
      · refine .inr ⟨hone, hlive, .inr ?_⟩
        by_cases hjk : j = k
        · rw [if_pos hjk]
          simp
        · rw [if_neg hjk]
          rcases hsettled with ⟨o', ho⟩ | hsent
          · rw [hsettling] at ho
            injection ho with hkj
            exact absurd hkj.symm hjk
          · exact hsent
    · intro j o' hj
      rw [stage_put] at hj
      have hhead : (s.done j).head? = some o' := h.returned j o' hj
      rw [done_put]
      by_cases hjk : j = k
      · subst hjk
        rw [if_pos rfl]
        show (s.done j ++ [o]).head? = some o'
        rw [List.head?_append, hhead, Option.some_or]
      · rw [if_neg hjk]
        exact hhead
  · exact h

theorem step (h : Seen env s) (hcount : Counted s) (a : Step R) : Seen env (s.step env a) := by
  cases a with
  | call k =>
    show Seen env (s.call k)
    unfold Conn.call
    split
    · exact h.setStage (by intro e; cases e) (by intro o e; cases e)
    · exact h
  | cancel k =>
    refine h.calm (fun _ _ hp => hp) rfl ?_ ?_ (fun j => runs_cancel s k j) ?_
    · intro j hj
      exact (stage_cancel s k j).symm.trans hj
    · intro j o hj
      exact (stage_cancel s k j).symm.trans hj
    · intro j
      exact (done_cancel s k j).symm ▸ List.prefix_refl _
  | begin k =>
    show Seen env (s.begin env k)
    unfold Conn.begin
    split
    · split
      · exact h.setStage (by intro e; cases e) (by intro o e; cases e)
      split
      · exact h.setStage (by intro e; cases e) (by intro o e; cases e)
      · exact (h.setStage (by intro e; cases e) (by intro o e; cases e)).put _
    · exact h
  | lock k =>
    show Seen env (s.lock k)
    unfold Conn.lock
    split
    · split
      · have hset : Seen env (s.setStage k .locked) :=
          h.setStage (by intro e; cases e) (by intro o e; cases e)
        exact hset.of_fields rfl (fun _ _ hp => hp) rfl
      · exact h
    · exact h
  | reserve k => exact h.reserve
  | encode k =>
    show Seen env (s.encode env k)
    unfold Conn.encode
    split
    · split
      · exact h.setStage (by intro e; cases e) (by intro o e; cases e)
      · exact h.unlock.setStage (by intro e; cases e) (by intro o e; cases e)
    · exact h
  | send k =>
    show Seen env (s.send k)
    unfold Conn.send
    split
    · split
      · exact h.unlock.setStage (by intro e; cases e) (by intro o e; cases e)
      · exact h.setStage (by intro e; cases e) (by intro o e; cases e)
    · exact h
  | write k written =>
    show Seen env (s.write k written)
    unfold Conn.write
    split
    · next id _ =>
      have hwire : Seen env { s with wire := s.wire ++ [id] } :=
        h.of_fields rfl (fun _ _ hp => hp) rfl
      simp only
      split
      · exact hwire.unlock.setStage (by intro e; cases e) (by intro o e; cases e)
      · exact (hwire.close .write).unlock.setStage (by intro e; cases e) (by intro o e; cases e)
    · exact h
  | drop k => exact h.drop
  | take k =>
    show Seen env (s.take k)
    unfold Conn.take
    split
    · next hdone =>
        exact h.setStage (by intro e; cases e)
          (by intro o e; cases e; exact congrArg List.head? hdone)
    · next hdone =>
        exact h.setStage (by intro e; cases e)
          (by intro o e; cases e; exact congrArg List.head? hdone)
    · exact h
  | abandon k => exact h.abandon hcount
  | response id reply => exact h.receiveResponse id reply
  | decode => exact h.decode
  | observe succeeds => exact h.observe hcount succeeds
  | settle => exact h.settle
  | close cause => exact h.close cause
  | deliver index =>
    show Seen env (s.deliver index)
    unfold Conn.deliver
    split
    · have howed : Seen env { s with owed := s.owed.eraseIdx index } :=
        h.of_fields rfl (fun _ _ hp => hp) rfl
      exact howed.put _
    · exact h

end Seen

/-! ## Every run -/

/-- What holds of a connection at any time. -/
structure Sound (env : Env M P R) (s : Conn R) : Prop where
  counted : Counted s
  numbered : Numbered s
  seen : Seen env s

theorem Sound.steps {env : Env M P R} {s : Conn R} (h : Sound env s) (schedule : List (Step R)) :
    Sound env (s.steps env schedule) := by
  induction schedule generalizing s with
  | nil => exact h
  | cons a schedule ih =>
    exact ih ⟨h.counted.step env h.numbered.fresh a, h.numbered.step env a, h.seen.step h.counted a⟩

/-- Someone still has to answer the call. -/
def Outstanding (s : Conn R) (k : Nat) : Prop :=
  (∃ id p, s.pending.lookup id = some p ∧ p.call = k) ∨ (∃ cause, (k, cause) ∈ s.owed) ∨
    s.reader.hand k = 1 ∨ (s.stage k).own = 1

theorem Counted.outstanding {s : Conn R} {k : Nat} (h : Counted s)
    (hbegun : (s.stage k).begun = true) (hdone : s.done k = []) : s.Outstanding k := by
  have hone := h.answers k
  rw [if_pos hbegun] at hone
  simp only [Conn.answers, hdone, List.length_nil] at hone
  by_cases hentries : s.entries k = 0
  · by_cases hdebts : s.debts k = 0
    · have hrest : s.reader.hand k = 1 ∨ (s.stage k).own = 1 := by omega
      exact .inr (.inr hrest)
    · obtain ⟨o, ho, hk⟩ := List.countP_pos_iff.mp (Nat.pos_of_ne_zero hdebts)
      refine .inr (.inl ⟨o.2, ?_⟩)
      rw [decide_eq_true_eq] at hk
      rw [← hk]
      exact ho
  · obtain ⟨p, hp, hk⟩ := List.countP_pos_iff.mp (Nat.pos_of_ne_zero hentries)
    obtain ⟨id, hid⟩ := AList.mem_values.mp hp
    exact .inl ⟨id, p, hid, by simpa using hk⟩

theorem Counted.complete {s : Conn R} {k : Nat} (h : Counted s) (hbegun : (s.stage k).begun = true)
    (hclosed : s.closed = true) (howed : s.owed = []) (hreader : s.reader = .idle)
    (hown : (s.stage k).own = 0) : (s.done k).length = 1 := by
  have hone := h.answers k
  rw [if_pos hbegun] at hone
  simp only [Conn.answers, entries, debts, h.swept hclosed, howed, hreader, hown,
    AList.values_empty, List.countP_nil, Reader.hand] at hone
  omega

end Conn

end Sessionbus.Rpc
