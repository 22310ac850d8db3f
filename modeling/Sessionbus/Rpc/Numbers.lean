import Sessionbus.Rpc.Answers

/-! # The numbers of a connection's requests -/

namespace Sessionbus.Rpc

namespace Conn

variable {M P R : Type}

/-- `x` claims nothing of the wire that `y` does not. -/
def Milder (x y : Stage) : Prop :=
  (x.writes = true → y.writes = true) ∧ (∀ id, x.sends = some id → y.sends = some id) ∧
    ∀ id c, x = .failing id c → y = .failing id c

theorem Milder.refl (x : Stage) : Milder x x := ⟨id, fun _ h => h, fun _ _ h => h⟩

theorem Milder.trans {x y z : Stage} (h : Milder x y) (h' : Milder y z) : Milder x z :=
  ⟨fun hx => h'.1 (h.1 hx), fun i hx => h'.2.1 i (h.2.1 i hx),
    fun i c hx => h'.2.2 i c (h.2.2 i c hx)⟩

/-- The step has nothing to do with the wire or the map. -/
structure Steady (s t : Conn R) : Prop where
  closed : t.closed = s.closed
  next : t.next = s.next
  pending : t.pending = s.pending
  writer : t.writer = s.writer
  wire : t.wire = s.wire
  replied : t.replied = s.replied
  stage : ∀ k, Milder (t.stage k) (s.stage k)

namespace Steady

variable {s t u : Conn R}

theorem trans (h : Steady s t) (h' : Steady t u) : Steady s u :=
  ⟨h'.closed.trans h.closed, h'.next.trans h.next, h'.pending.trans h.pending,
    h'.writer.trans h.writer, h'.wire.trans h.wire, h'.replied.trans h.replied,
    fun k => (h'.stage k).trans (h.stage k)⟩

theorem put (s : Conn R) (k : Nat) (o : Outcome) : Steady s (s.put k o) := by
  refine ⟨rfl, rfl, rfl, rfl, rfl, rfl, fun j => ?_⟩
  rw [stage_put]
  exact .refl _

theorem setStage {k : Nat} {x : Stage} (h : Milder x (s.stage k)) : Steady s (s.setStage k x) := by
  refine ⟨rfl, rfl, rfl, rfl, rfl, rfl, fun j => ?_⟩
  rw [stage_setStage]
  by_cases hjk : j = k
  · subst hjk
    rw [if_pos rfl]
    exact h
  · rw [if_neg hjk]
    exact .refl _

end Steady

theorem milder_of_none {x y : Stage} (hw : x.writes = false) (hs : x.sends = none)
    (hf : ∀ id c, x ≠ .failing id c) : Milder x y := by
  refine ⟨?_, ?_, ?_⟩
  · rw [hw]; simp
  · rw [hs]; simp
  · intro id c h
    exact absurd h (hf id c)

/-- Only the call that has `writeMu` has an ID to send, the last one; a request without a response
has its entry. -/
structure Numbered (s : Conn R) : Prop where
  room : s.pending.entries.length ≤ maxOperations
  entries : ∀ id p, s.pending.lookup id = some p → id ≤ s.next
  writer : ∀ k, (s.stage k).writes = true → s.writer = some k
  sends : ∀ k id, (s.stage k).sends = some id → id = s.next ∧ id ∉ s.wire
  wire : s.wire.Pairwise (· < ·)
  written : ∀ id ∈ s.wire, id ≤ s.next
  failing : ∀ k id c, s.stage k = .failing id c →
    id ≤ s.next ∧ (s.closed = true ∨ id ∉ s.wire) ∧ ∀ j i, (s.stage j).sends = some i → i ≠ id
  awaited : s.closed = false → ∀ id, (id ∈ s.wire ∨ ∃ k, (s.stage k).sends = some id) →
    id ∉ s.replied → ∃ p, s.pending.lookup id = some p

theorem Stage.writes_of_sends {x : Stage} {id : Nat} (h : x.sends = some id) : x.writes = true := by
  cases x with
  | reserved _ => rfl
  | encoded _ => rfl
  | sending _ => rfl
  | _ => cases h

namespace Numbered

variable {s t : Conn R} {k : Nat}

theorem steady (h : Numbered s) (hst : Steady s t) : Numbered t := by
  refine ⟨?_, ?_, ?_, ?_, ?_, ?_, ?_, ?_⟩
  · rw [hst.pending]; exact h.room
  · rw [hst.pending, hst.next]; exact h.entries
  · intro j hj
    rw [hst.writer]
    exact h.writer j ((hst.stage j).1 hj)
  · intro j id hj
    rw [hst.next, hst.wire]
    exact h.sends j id ((hst.stage j).2.1 id hj)
  · rw [hst.wire]; exact h.wire
  · rw [hst.wire, hst.next]; exact h.written
  · intro j id c hj
    obtain ⟨hnext, hwire, hsends⟩ := h.failing j id c ((hst.stage j).2.2 id c hj)
    rw [hst.next, hst.closed, hst.wire]
    exact ⟨hnext, hwire, fun l i hl => hsends l i ((hst.stage l).2.1 i hl)⟩
  · rw [hst.closed, hst.wire, hst.replied, hst.pending]
    intro hopen id hid
    apply h.awaited hopen id
    rcases hid with hid | ⟨l, hl⟩
    · exact .inl hid
    · exact .inr ⟨l, (hst.stage l).2.1 id hl⟩

theorem alone (h : Numbered s) (hk : (s.stage k).writes = true) {j : Nat}
    (hj : (s.stage j).writes = true) : j = k := by
  have := (h.writer j hj).symm.trans (h.writer k hk)
  exact Option.some.inj this

theorem lone_sender (h : Numbered s) (hk : (s.stage k).writes = true) {j i : Nat}
    (hj : (s.stage j).sends = some i) : j = k :=
  h.alone hk (Stage.writes_of_sends hj)

theorem close (h : Numbered s) (cause : Failure) : Numbered (s.close cause) := by
  unfold Conn.close
  split
  · exact h
  · refine ⟨Nat.zero_le _, ?_, h.writer, h.sends, h.wire, h.written, ?_, ?_⟩
    · intro id p hp; simp at hp
    · intro j id c hj
      obtain ⟨hnext, -, hsends⟩ := h.failing j id c hj
      exact ⟨hnext, .inl rfl, hsends⟩
    · intro hopen; cases hopen

theorem release (h : Numbered s) {x y : Stage} (hy : s.stage k = y) (hwrites : y.writes = true)
    (hx : x.writes = false) (hsends : x.sends = none) (hfail : ∀ id c, x ≠ .failing id c) :
    Numbered (s.unlock.setStage k x) := by
  have hk : (s.stage k).writes = true := hy ▸ hwrites
  have hbase : Numbered (s.setStage k x) := h.steady (.setStage (milder_of_none hx hsends hfail))
  refine ⟨hbase.room, hbase.entries, ?_, hbase.sends, hbase.wire, hbase.written, hbase.failing,
    hbase.awaited⟩
  intro j hj
  rw [stage_setStage] at hj
  by_cases hjk : j = k
  · rw [if_pos hjk, hx] at hj
    cases hj
  · rw [if_neg hjk] at hj
    exact absurd (h.alone hk hj) hjk

/-- `begin` fails with its entry made: its ID will never be on the wire of an open connection. -/
theorem fail (h : Numbered s) {y : Stage} {id : Nat} (hy : s.stage k = y)
    (hsends : y.sends = some id) (cause : Failure) (hwire : s.closed = true ∨ id ∉ s.wire) :
    Numbered (s.unlock.setStage k (.failing id cause)) := by
  have hk : (s.stage k).sends = some id := hy ▸ hsends
  have hwrites := Stage.writes_of_sends hk
  have hothers : ∀ j i, ((s.unlock.setStage k (.failing id cause)).stage j).sends ≠ some i := by
    intro j i hj
    rw [stage_setStage] at hj
    by_cases hjk : j = k
    · rw [if_pos hjk] at hj
      cases hj
    · rw [if_neg hjk] at hj
      exact hjk (h.lone_sender hwrites hj)
  refine ⟨h.room, h.entries, ?_, fun j i hj => absurd hj (hothers j i), h.wire, h.written, ?_, ?_⟩
  · intro j hj
    rw [stage_setStage] at hj
    by_cases hjk : j = k
    · rw [if_pos hjk] at hj
      cases hj
    · rw [if_neg hjk] at hj
      exact absurd (h.alone hwrites hj) hjk
  · intro j i c hj
    refine ⟨?_, ?_, fun l m hl => absurd hl (hothers l m)⟩
    · rw [stage_setStage] at hj
      by_cases hjk : j = k
      · rw [if_pos hjk] at hj
        cases hj
        exact Nat.le_of_eq (h.sends k id hk).1
      · rw [if_neg hjk] at hj
        exact (h.failing j i c hj).1
    · rw [stage_setStage] at hj
      by_cases hjk : j = k
      · rw [if_pos hjk] at hj
        cases hj
        exact hwire
      · rw [if_neg hjk] at hj
        exact (h.failing j i c hj).2.1
  · intro hopen i hi
    rcases hi with hi | ⟨l, hl⟩
    · exact h.awaited hopen i (.inl hi)
    · exact absurd hl (hothers l i)

theorem lock (h : Numbered s) : Numbered (s.lock k) := by
  unfold Conn.lock
  split
  · split
    · next hfree =>
      have hnone : ∀ j, (s.stage j).writes = false := by
        intro j
        by_contra hj
        have := h.writer j (by simpa using hj)
        rw [hfree] at this
        cases this
      have hsends : ∀ j i, ((s.setStage k .locked).stage j).sends = some i → False := by
        intro j i hj
        rw [stage_setStage] at hj
        by_cases hjk : j = k
        · rw [if_pos hjk] at hj
          cases hj
        · rw [if_neg hjk] at hj
          have := Stage.writes_of_sends hj
          rw [hnone j] at this
          cases this
      refine ⟨h.room, h.entries, ?_, fun j i hj => (hsends j i hj).elim, h.wire, h.written, ?_, ?_⟩
      · intro j hj
        have hj' : ((s.setStage k .locked).stage j).writes = true := hj
        rw [stage_setStage] at hj'
        by_cases hjk : j = k
        · rw [hjk]
        · rw [if_neg hjk, hnone j] at hj'
          cases hj'
      · intro j i c hj
        have hj' : (s.setStage k .locked).stage j = .failing i c := hj
        rw [stage_setStage] at hj'
        by_cases hjk : j = k
        · rw [if_pos hjk] at hj'
          cases hj'
        · rw [if_neg hjk] at hj'
          obtain ⟨hnext, hwire, -⟩ := h.failing j i c hj'
          exact ⟨hnext, hwire, fun l m hl => (hsends l m hl).elim⟩
      · intro hopen i hi
        rcases hi with hi | ⟨l, hl⟩
        · exact h.awaited hopen i (.inl hi)
        · exact (hsends l i hl).elim
    · exact h
  · exact h

theorem fresh (h : Numbered s) : s.pending.lookup (s.next + 1) = none := by
  cases hlookup : s.pending.lookup (s.next + 1) with
  | none => rfl
  | some p =>
    have := h.entries _ p hlookup
    omega

theorem refuse (h : Numbered s) (cause : Failure) (hstage : s.stage k = .locked) :
    Numbered (s.refuse k cause) :=
  (h.release hstage rfl rfl rfl (by intro _ _ e; cases e)).steady (.put _ _ _)

theorem reserve (env : Env M P R) (h : Numbered s) : Numbered (s.reserve env k) := by
  unfold Conn.reserve
  split
  · next hstage =>
    have hk : (s.stage k).writes = true := by
      show (s.calls k).stage.writes = true
      rw [hstage]
      rfl
    split
    · exact h.refuse _ hstage
    split
    · exact h.refuse _ hstage
    split
    · exact h.refuse _ hstage
    · next hopen _ hroom =>
      set p : Pending := { call := k, seen := env.seen k } with hp
      set u : Conn R :=
        { s with next := s.next + 1, pending := s.pending.insert (s.next + 1) p } with hu
      have hstageu : ∀ j, (u.setStage k (.reserved (s.next + 1))).stage j =
          if j = k then .reserved (s.next + 1) else s.stage j := fun j => stage_setStage u k j _
      -- The new ID is the only one to be sent.
      have hsends : ∀ j i, ((u.setStage k (.reserved (s.next + 1))).stage j).sends = some i →
          i = s.next + 1 := by
        intro j i hj
        rw [hstageu] at hj
        by_cases hjk : j = k
        · rw [if_pos hjk] at hj
          cases hj
          rfl
        · rw [if_neg hjk] at hj
          exact absurd (h.lone_sender hk hj) hjk
      have hnew : s.next + 1 ∉ s.wire := by
        intro hmem
        have := h.written _ hmem
        omega
      refine ⟨?_, ?_, ?_, ?_, h.wire, ?_, ?_, ?_⟩
      · show (s.pending.insert (s.next + 1) p).entries.length ≤ maxOperations
        rw [AList.entries_insert_of_notMem (AList.lookup_eq_none.mp h.fresh), List.length_cons]
        omega
      · intro i q hq
        show i ≤ s.next + 1
        rcases AList.lookup_insert_iff.mp hq with ⟨rfl, -⟩ | ⟨-, hold⟩
        · exact Nat.le_refl _
        · exact Nat.le_succ_of_le (h.entries i q hold)
      · intro j hj
        rw [hstageu] at hj
        by_cases hjk : j = k
        · subst hjk
          exact h.writer j hk
        · rw [if_neg hjk] at hj
          exact h.writer j hj
      · intro j i hj
        rw [hsends j i hj]
        exact ⟨rfl, hnew⟩
      · intro i hi
        exact Nat.le_succ_of_le (h.written i hi)
      · intro j i c hj
        rw [hstageu] at hj
        by_cases hjk : j = k
        · rw [if_pos hjk] at hj
          cases hj
        · rw [if_neg hjk] at hj
          obtain ⟨hnext, hwire, -⟩ := h.failing j i c hj
          refine ⟨Nat.le_succ_of_le hnext, hwire, fun l m hl => ?_⟩
          rw [hsends l m hl]
          omega
      · intro _ i hi hreplied
        show ∃ q, (s.pending.insert (s.next + 1) p).lookup i = some q
        by_cases hnext : i = s.next + 1
        · exact ⟨p, AList.lookup_insert_iff.mpr (.inl ⟨hnext, rfl⟩)⟩
        · have hwire : i ∈ s.wire := by
            rcases hi with hi | ⟨l, hl⟩
            · exact hi
            · exact absurd (hsends l i hl) hnext
          obtain ⟨q, hq⟩ := h.awaited (by simpa using hopen) i (.inl hwire) hreplied
          exact ⟨q, AList.lookup_insert_iff.mpr (.inr ⟨hnext, hq⟩)⟩
  · exact h

theorem encode (env : Env M P R) (h : Numbered s) : Numbered (s.encode env k) := by
  unfold Conn.encode
  split
  · next id hstage =>
    have hstage' : s.stage k = .reserved id := hstage
    have hnew : id ∉ s.wire := (h.sends k id (by rw [hstage']; rfl)).2
    split
    · refine h.steady (.setStage ?_)
      rw [hstage']
      exact ⟨fun _ => rfl, fun i e => e, by intro _ _ e; cases e⟩
    · exact h.fail hstage' rfl _ (.inr hnew)
  · exact h

theorem send (h : Numbered s) : Numbered (s.send k) := by
  unfold Conn.send
  split
  · next id hstage =>
    have hstage' : s.stage k = .encoded id := hstage
    split
    · next hclosed => exact h.fail hstage' rfl _ (.inl hclosed)
    · refine h.steady (.setStage ?_)
      rw [hstage']
      exact ⟨fun _ => rfl, fun i e => e, by intro _ _ e; cases e⟩
  · exact h

/-- An ID that no call has any more is put on the wire. -/
theorem wrote (h : Numbered s) {id : Nat} (hsends : ∀ j i, (s.stage j).sends ≠ some i)
    (hlast : id = s.next) (hnew : id ∉ s.wire)
    (hfailing : s.closed = true ∨ ∀ j c, s.stage j ≠ .failing id c)
    (hawaited : s.closed = false → id ∉ s.replied → ∃ p, s.pending.lookup id = some p) :
    Numbered { s with wire := s.wire ++ [id] } := by
  refine ⟨h.room, h.entries, h.writer, fun j i hj => absurd hj (hsends j i), ?_, ?_, ?_, ?_⟩
  · refine List.pairwise_append.mpr ⟨h.wire, List.pairwise_singleton _ _, ?_⟩
    intro i hi j hj
    rw [List.mem_singleton] at hj
    subst hj
    have hle := h.written i hi
    have hne : i ≠ j := fun e => hnew (e ▸ hi)
    omega
  · intro i hi
    rcases List.mem_append.mp hi with hi | hi
    · exact h.written i hi
    · rw [List.mem_singleton] at hi
      subst hi
      exact Nat.le_of_eq hlast
  · intro j i c hj
    obtain ⟨hnext, hwire, hothers⟩ := h.failing j i c hj
    refine ⟨hnext, ?_, hothers⟩
    rcases hfailing with hclosed | hne
    · exact .inl hclosed
    · refine hwire.imp_right fun hwire hmem => ?_
      rcases List.mem_append.mp hmem with hi | hi
      · exact hwire hi
      · rw [List.mem_singleton] at hi
        subst hi
        exact hne j c hj
  · intro hopen i hi hreplied
    rcases hi with hi | ⟨l, hl⟩
    · rcases List.mem_append.mp hi with hi | hi
      · exact h.awaited hopen i (.inl hi) hreplied
      · rw [List.mem_singleton] at hi
        subst hi
        exact hawaited hopen hreplied
    · exact absurd hl (hsends l i)

theorem write (h : Numbered s) (written : Bool) : Numbered (s.write k written) := by
  unfold Conn.write
  split
  · next id hstage =>
    have hstage' : s.stage k = .sending id := hstage
    have hk : (s.stage k).sends = some id := by rw [hstage']; rfl
    have hwrites := Stage.writes_of_sends hk
    obtain ⟨hlast, hnew⟩ := h.sends k id hk
    have hquiet : ∀ (u : Conn R) x, x.sends = none → (∀ j, u.stage j = s.stage j) →
        ∀ j i, ((u.setStage k x).stage j).sends ≠ some i := by
      intro u x hx hu j i hj
      rw [stage_setStage, hu] at hj
      by_cases hjk : j = k
      · rw [if_pos hjk, hx] at hj
        cases hj
      · rw [if_neg hjk] at hj
        exact hjk (h.lone_sender hwrites hj)
    simp only
    split
    · have hbase : Numbered (s.unlock.setStage k (.waiting id)) :=
        h.release hstage' rfl rfl rfl (by intro _ _ e; cases e)
      refine hbase.wrote (hquiet s.unlock _ rfl fun _ => rfl) hlast hnew (.inr ?_) ?_
      · intro j c hj
        rw [stage_setStage] at hj
        by_cases hjk : j = k
        · rw [if_pos hjk] at hj
          cases hj
        · rw [if_neg hjk] at hj
          exact (h.failing j id c hj).2.2 k id hk rfl
      · intro hopen hreplied
        exact h.awaited hopen id (.inr ⟨k, hk⟩) hreplied
    · have hclosed := closed_close s .write
      have hsame : ∀ j, (s.close .write).stage j = s.stage j := fun j => stage_close s j .write
      obtain ⟨-, -, hnext, hwires⟩ := close_fields s .write
      have hwire : { s with wire := s.wire ++ [id] }.close .write =
          { s.close .write with wire := (s.close .write).wire ++ [id] } := by
        unfold Conn.close
        split <;> rfl
      have hbase : Numbered ((s.close .write).unlock.setStage k (.failing id .write)) :=
        (h.close .write).fail ((hsame k).trans hstage') rfl _ (.inl hclosed)
      rw [hwire]
      refine hbase.wrote (hquiet (s.close .write).unlock _ rfl hsame) (hlast.trans hnext.symm) ?_
        (.inl hclosed) ?_
      · show id ∉ (s.close .write).wire
        rw [hwires]
        exact hnew
      · intro hopen
        have hopen' : (s.close .write).closed = false := hopen
        rw [hclosed] at hopen'
        cases hopen'
  · exact h

theorem erase (h : Numbered s) {id : Nat} {replied : List Nat}
    (hreplied : ∀ i ∈ s.replied, i ∈ replied)
    (hgone : s.closed = false → id ∈ replied ∨ id ∉ s.wire ∧ ∀ j, (s.stage j).sends ≠ some id) :
    Numbered { s with pending := s.pending.erase id, replied } := by
  have hlength : (s.pending.erase id).entries.length ≤ s.pending.entries.length :=
    (List.kerase_sublist id s.pending.entries).length_le
  refine ⟨Nat.le_trans hlength h.room, ?_, h.writer, h.sends, h.wire, h.written, h.failing, ?_⟩
  · intro i p hp
    exact h.entries i p (AList.lookup_erase_iff.mp hp).2
  · intro hopen i hi hnot
    obtain ⟨p, hp⟩ := h.awaited hopen i hi fun hin => hnot (hreplied i hin)
    refine ⟨p, AList.lookup_erase_iff.mpr ⟨?_, hp⟩⟩
    rintro rfl
    rcases hgone hopen with hin | ⟨hwire, hsends⟩
    · exact hnot hin
    · rcases hi with hi | ⟨l, hl⟩
      · exact hwire hi
      · exact hsends l hl

theorem drop (h : Numbered s) : Numbered (s.drop k) := by
  unfold Conn.drop
  split
  · next id cause hstage =>
    have hstage' : s.stage k = .failing id cause := hstage
    have hmild : Milder (.waiting id) (s.stage k) :=
      milder_of_none rfl rfl (by intro _ _ e; cases e)
    split
    · obtain ⟨-, hwire, hsends⟩ := h.failing k id cause hstage'
      have herase : Numbered { s with pending := s.pending.erase id } := by
        refine h.erase (fun i hi => hi) fun hopen => .inr ⟨?_, fun j hj => hsends j id hj rfl⟩
        rcases hwire with hclosed | hwire
        · rw [hopen] at hclosed
          cases hclosed
        · exact hwire
      have hset : Steady { s with pending := s.pending.erase id }
          ({ s with pending := s.pending.erase id }.setStage k (.waiting id)) := .setStage hmild
      exact herase.steady (hset.trans (.put _ _ _))
    · exact h.steady (.setStage hmild)
  · exact h

theorem abandon (h : Numbered s) : Numbered (s.abandon k) := by
  unfold Conn.abandon
  split
  · next id hstage =>
    split
    · split
      · next hlookup =>
        obtain ⟨p, hp, -⟩ := Option.map_eq_some_iff.mp hlookup
        have hdrain : Numbered
            { s with
              pending := s.pending.insert id { call := k, seen := false, drain := true } } := by
          refine ⟨?_, ?_, h.writer, h.sends, h.wire, h.written, h.failing, ?_⟩
          · have hlength := (AList.values_erase_perm hp).length_eq
            have hroom := h.room
            show (s.pending.insert id _).entries.length ≤ maxOperations
            simp only [AList.values, List.length_map, List.length_cons] at hlength
            rw [AList.entries_insert, List.length_cons]
            have hkerase : (s.pending.erase id).entries = s.pending.entries.kerase id := rfl
            rw [hkerase] at hlength
            omega
          · intro i q hq
            rcases AList.lookup_insert_iff.mp hq with ⟨rfl, -⟩ | ⟨-, hold⟩
            · exact h.entries i p hp
            · exact h.entries i q hold
          · intro hopen i hi hreplied
            obtain ⟨q, hq⟩ := h.awaited hopen i hi hreplied
            by_cases hid : i = id
            · exact ⟨_, AList.lookup_insert_iff.mpr (.inl ⟨hid, rfl⟩)⟩
            · exact ⟨q, AList.lookup_insert_iff.mpr (.inr ⟨hid, hq⟩)⟩
        exact hdrain.steady (.setStage (milder_of_none rfl rfl (by intro _ _ e; cases e)))
      · exact h.steady (.setStage (milder_of_none rfl rfl (by intro _ _ e; cases e)))
    · exact h
  · exact h

theorem receiveResponse (h : Numbered s) (id : Nat) (reply : Reply R) :
    Numbered (s.receiveResponse id reply) := by
  unfold Conn.receiveResponse
  split
  · split
    · have herase :
          Numbered { s with pending := s.pending.erase id, replied := s.replied ++ [id] } :=
        h.erase (fun i hi => List.mem_append_left _ hi) fun _ => .inl (by simp)
      exact herase.steady ⟨rfl, rfl, rfl, rfl, rfl, rfl, fun _ => .refl _⟩
    · have hreplied : Numbered { s with replied := s.replied ++ [id] } := by
        refine ⟨h.room, h.entries, h.writer, h.sends, h.wire, h.written, h.failing, ?_⟩
        intro hopen i hi hnot
        exact h.awaited hopen i hi fun hin => hnot (List.mem_append_left _ hin)
      exact hreplied.close .unmatched
  · exact h

theorem reader (h : Numbered s) (r : Reader R) : Numbered { s with reader := r } :=
  h.steady ⟨rfl, rfl, rfl, rfl, rfl, rfl, fun _ => .refl _⟩

theorem observed (h : Numbered s) : Numbered (s.observed k) := by
  refine h.steady ⟨rfl, rfl, rfl, rfl, rfl, rfl, fun j => ?_⟩
  rw [stage_observed]
  exact .refl _

theorem cancel (h : Numbered s) : Numbered (s.cancel k) := by
  refine h.steady ⟨rfl, rfl, rfl, rfl, rfl, rfl, fun j => ?_⟩
  rw [stage_cancel]
  exact .refl _

theorem mild {x : Stage} (h : Numbered s) (hw : x.writes = false) (hs : x.sends = none)
    (hf : ∀ id c, x ≠ .failing id c) : Numbered (s.setStage k x) :=
  h.steady (.setStage (milder_of_none hw hs hf))

theorem step (env : Env M P R) (h : Numbered s) (a : Step R) : Numbered (s.step env a) := by
  cases a with
  | call k =>
    show Numbered (s.call k)
    unfold Conn.call
    split
    · exact h.mild rfl rfl (by intro _ _ e; cases e)
    · exact h
  | cancel k => exact h.cancel
  | begin k =>
    show Numbered (s.begin env k)
    unfold Conn.begin
    split
    · split
      · exact h.mild rfl rfl (by intro _ _ e; cases e)
      split
      · exact h.mild rfl rfl (by intro _ _ e; cases e)
      · exact (h.mild rfl rfl (by intro _ _ e; cases e)).steady (.put _ _ _)
    · exact h
  | lock k => exact h.lock
  | reserve k => exact h.reserve env
  | encode k => exact h.encode env
  | send k => exact h.send
  | write k written => exact h.write written
  | drop k => exact h.drop
  | take k =>
    show Numbered (s.take k)
    unfold Conn.take
    split
    · exact h.mild rfl rfl (by intro _ _ e; cases e)
    · exact h.mild rfl rfl (by intro _ _ e; cases e)
    · exact h
  | abandon k => exact h.abandon
  | response id reply => exact h.receiveResponse id reply
  | decode =>
    show Numbered (s.decode env)
    unfold Conn.decode
    split
    · exact h.reader _
    · split
      · exact (h.close .result).reader _
      split
      · exact h.reader _
      · exact h.reader _
    · exact h
  | observe succeeds =>
    show Numbered (s.observe succeeds)
    unfold Conn.observe
    split
    · split
      · exact h.observed.reader _
      · exact (h.observed.close .observer).reader _
    · exact h
  | settle =>
    show Numbered s.settle
    unfold Conn.settle
    split
    · exact (h.reader .idle).steady (.put _ _ _)
    · exact h
  | close cause => exact h.close cause
  | deliver index =>
    show Numbered (s.deliver index)
    unfold Conn.deliver
    split
    · have howed : Numbered { s with owed := s.owed.eraseIdx index } :=
        h.steady ⟨rfl, rfl, rfl, rfl, rfl, rfl, fun _ => .refl _⟩
      exact howed.steady (.put _ _ _)
    · exact h

end Numbered

end Conn

end Sessionbus.Rpc
