import Sessionbus.Rpc.Spec

/-! # Every call of a connection is answered once -/

namespace Sessionbus.Rpc

/-- `begin` itself still has to make the entry or to answer. -/
def Stage.own : Stage → Nat
  | .locking => 1
  | .locked => 1
  | _ => 0

/-- `begin` has been entered. -/
def Stage.begun : Stage → Bool
  | .idle => false
  | .called => false
  | .skipped => false
  | _ => true

/-- The call has `writeMu`. -/
def Stage.writes : Stage → Bool
  | .locked => true
  | .reserved _ => true
  | .encoded _ => true
  | .sending _ => true
  | _ => false

/-- The ID that the call is about to send. -/
def Stage.sends : Stage → Option Nat
  | .reserved id => some id
  | .encoded id => some id
  | .sending id => some id
  | _ => none

/-- The reader has the call in hand. -/
def Reader.hand {R : Type} (k : Nat) : Reader R → Nat
  | .idle => 0
  | .claimed p _ => if p.call = k then 1 else 0
  | .observing p _ => if p.call = k then 1 else 0
  | .settling c _ => if c = k then 1 else 0

namespace Conn

variable {M P R : Type}

def stage (s : Conn R) (k : Nat) : Stage := (s.calls k).stage
def done (s : Conn R) (k : Nat) : List Outcome := (s.calls k).done
def runs (s : Conn R) (k : Nat) : Nat := (s.calls k).runs

/-- The entries of the call in the map. -/
def entries (s : Conn R) (k : Nat) : Nat := s.pending.values.countP fun p => p.call = k

/-- How many answers are still owed to the call by the goroutine that closed the connection. -/
def debts (s : Conn R) (k : Nat) : Nat := s.owed.countP fun o => o.1 = k

/-- The answers to a call: those sent and those that someone is bound to send. -/
def answers (s : Conn R) (k : Nat) : Nat :=
  s.entries k + s.debts k + s.reader.hand k + (s.stage k).own + (s.done k).length

section Updates

variable (s : Conn R) (k j : Nat) (x : Stage) (o : Outcome)

@[simp] theorem stage_setStage : (s.setStage k x).stage j = if j = k then x else s.stage j := by
  unfold setStage stage
  by_cases h : j = k
  · subst h; simp
  · simp [h]

@[simp] theorem done_setStage : (s.setStage k x).done j = s.done j := by
  unfold setStage done
  by_cases h : j = k
  · subst h; simp
  · simp [h]

@[simp] theorem runs_setStage : (s.setStage k x).runs j = s.runs j := by
  unfold setStage runs
  by_cases h : j = k
  · subst h; simp
  · simp [h]

@[simp] theorem stage_put : (s.put k o).stage j = s.stage j := by
  unfold put stage
  by_cases h : j = k
  · subst h; simp
  · simp [h]

@[simp] theorem done_put : (s.put k o).done j = if j = k then s.done k ++ [o] else s.done j := by
  unfold put done
  by_cases h : j = k
  · subst h; simp
  · simp [h]

@[simp] theorem runs_put : (s.put k o).runs j = s.runs j := by
  unfold put runs
  by_cases h : j = k
  · subst h; simp
  · simp [h]

@[simp] theorem stage_cancel : (s.cancel k).stage j = s.stage j := by
  unfold cancel stage
  by_cases h : j = k
  · subst h; simp
  · simp [h]

@[simp] theorem done_cancel : (s.cancel k).done j = s.done j := by
  unfold cancel done
  by_cases h : j = k
  · subst h; simp
  · simp [h]

@[simp] theorem runs_cancel : (s.cancel k).runs j = s.runs j := by
  unfold cancel runs
  by_cases h : j = k
  · subst h; simp
  · simp [h]

@[simp] theorem stage_observed : (s.observed k).stage j = s.stage j := by
  unfold observed stage
  by_cases h : j = k
  · subst h; simp
  · simp [h]

@[simp] theorem done_observed : (s.observed k).done j = s.done j := by
  unfold observed done
  by_cases h : j = k
  · subst h; simp
  · simp [h]

@[simp] theorem runs_observed :
    (s.observed k).runs j = if j = k then s.runs k + 1 else s.runs j := by
  unfold observed runs
  by_cases h : j = k
  · subst h; simp
  · simp [h]

theorem close_fields (cause : Failure) :
    (s.close cause).calls = s.calls ∧ (s.close cause).reader = s.reader ∧
    (s.close cause).next = s.next ∧
      (s.close cause).wire = s.wire := by
  unfold close
  split <;> exact ⟨rfl, rfl, rfl, rfl⟩

@[simp] theorem stage_close (cause : Failure) : (s.close cause).stage j = s.stage j := by
  unfold stage
  rw [(close_fields s cause).1]

theorem closed_close (cause : Failure) : (s.close cause).closed = true := by
  unfold close
  split
  · next h => exact h
  · rfl

theorem close_reader (r : Reader R) (cause : Failure) :
    { s with reader := r }.close cause = { s.close cause with reader := r } := by
  unfold close
  split <;> rfl

end Updates

/-! ## The answers to a call -/

theorem answers_setStage (s : Conn R) (k j : Nat) (x : Stage) :
    (s.setStage k x).answers j + (if j = k then (s.stage k).own else 0) =
      s.answers j + if j = k then x.own else 0 := by
  have hentries : (s.setStage k x).entries j = s.entries j := rfl
  have hdebts : (s.setStage k x).debts j = s.debts j := rfl
  have hreader : (s.setStage k x).reader = s.reader := rfl
  unfold answers
  rw [hentries, hdebts, hreader, stage_setStage, done_setStage]
  by_cases h : j = k
  · subst h; simp only [if_true]; omega
  · simp [h]

theorem answers_put (s : Conn R) (k j : Nat) (o : Outcome) :
    (s.put k o).answers j = s.answers j + if j = k then 1 else 0 := by
  have hentries : (s.put k o).entries j = s.entries j := rfl
  have hdebts : (s.put k o).debts j = s.debts j := rfl
  have hreader : (s.put k o).reader = s.reader := rfl
  unfold answers
  rw [hentries, hdebts, hreader, stage_put, done_put]
  by_cases h : j = k
  · subst h; simp; omega
  · simp [h]

theorem answers_close (s : Conn R) (cause : Failure) (j : Nat) :
    (s.close cause).answers j = s.answers j := by
  unfold close
  split
  · rfl
  · have hcount :
        (s.pending.values.countP ((fun o => decide (o.1 = j)) ∘ fun p => (p.call, cause))) =
        s.pending.values.countP fun p => p.call = j := rfl
    simp only [answers, entries, debts, stage, done, AList.values_empty, List.countP_nil,
      List.countP_append, List.countP_map, hcount]
    omega

theorem answers_insert {s : Conn R} {id : Nat} {p : Pending}
    (h : s.pending.lookup id = none) (j : Nat) :
    { s with pending := s.pending.insert id p }.answers j = s.answers j +
    if p.call = j then 1 else 0 := by
  have hid : id ∉ s.pending := AList.lookup_eq_none.mp h
  simp only [answers, entries, debts, stage, done]
  rw [AList.values_insert_of_notMem hid, List.countP_cons]
  simp only [decide_eq_true_eq]
  omega

theorem answers_erase {s : Conn R} {id : Nat} {p : Pending}
    (h : s.pending.lookup id = some p) (j : Nat) :
    { s with pending := s.pending.erase id }.answers j + (if p.call = j then 1 else 0) =
    s.answers j := by
  have hperm := (AList.values_erase_perm h).countP_eq fun q => decide (q.call = j)
  rw [List.countP_cons] at hperm
  simp only [decide_eq_true_eq] at hperm
  simp only [answers, entries, debts, stage, done]
  omega

theorem answers_replace {s : Conn R} {id : Nat} {p q : Pending} (h : s.pending.lookup id = some p)
    (hcall : q.call = p.call) (j : Nat) :
    { s with pending := s.pending.insert id q }.answers j = s.answers j := by
  rw [← answers_erase h j, ← hcall]
  simp only [answers, entries, debts, stage, done]
  rw [AList.values_insert, List.countP_cons]
  simp only [decide_eq_true_eq]
  omega

theorem answers_reader (s : Conn R) (r : Reader R) (j : Nat) :
    { s with reader := r }.answers j + s.reader.hand j = s.answers j + r.hand j := by
  simp only [answers, entries, debts, stage, done]
  omega

/-- A begun call has one answer, sent or in one pair of hands; nothing is pending once the
connection is closed. -/
structure Counted (s : Conn R) : Prop where
  answers : ∀ k, s.answers k = if (s.stage k).begun then 1 else 0
  swept : s.closed = true → s.pending = ∅

namespace Counted

variable {s : Conn R} {k : Nat} {x : Stage}

theorem setStage (h : Counted s) {y : Stage} (hstage : (s.calls k).stage = y) (hown : x.own = y.own)
    (hbegun : x.begun = y.begun) : Counted (s.setStage k x) := by
  have hstage' : s.stage k = y := hstage
  refine ⟨fun j => ?_, h.swept⟩
  have hs := answers_setStage s k j x
  have hj := h.answers j
  rw [stage_setStage]
  by_cases hjk : j = k
  · subst hjk
    rw [hstage'] at hs hj
    simp only [if_true] at hs ⊢
    rw [hbegun]
    omega
  · simp only [hjk, if_false] at hs ⊢
    omega

theorem answer (h : Counted s) (o : Outcome) (hx : x.own = 0) (hbegun : x.begun = true)
    (hcount : s.answers k = (s.stage k).own) : Counted ((s.setStage k x).put k o) := by
  refine ⟨fun j => ?_, h.swept⟩
  have hs := answers_setStage s k j x
  have hj := h.answers j
  rw [answers_put, stage_put, stage_setStage]
  by_cases hjk : j = k
  · subst hjk
    simp only [if_true] at hs ⊢
    rw [hbegun, if_pos rfl]
    omega
  · simp only [hjk, if_false] at hs ⊢
    omega

theorem le_one (h : Counted s) (k : Nat) : s.answers k ≤ 1 := by
  rw [h.answers k]
  split
  · exact Nat.le_refl 1
  · exact Nat.zero_le 1

theorem sole (h : Counted s) {id : Nat} {p : Pending} (hp : s.pending.lookup id = some p) :
    (∀ i q, (s.pending.erase id).lookup i = some q → q.call ≠ p.call) ∧ s.reader.hand p.call = 0 ∧
      s.done p.call = [] := by
  have hone := h.le_one p.call
  have herase := answers_erase hp p.call
  simp only [if_true, Conn.answers, entries, debts, stage, done] at hone herase
  have hentries : ((s.pending.erase id).values.countP fun q => decide (q.call = p.call)) = 0 := by
    omega
  refine ⟨?_, by omega,
    List.length_eq_zero_iff.mp (by show (s.calls p.call).done.length = 0; omega)⟩
  intro i q hq hcall
  have := List.countP_eq_zero.mp hentries q (AList.mem_values.mpr ⟨i, hq⟩)
  simp [hcall] at this

theorem in_hand (h : Counted s) (hk : s.reader.hand k = 1) :
    (∀ i q, s.pending.lookup i = some q → q.call ≠ k) ∧ s.done k = [] := by
  have hone := h.le_one k
  simp only [Conn.answers, hk] at hone
  refine ⟨?_, List.length_eq_zero_iff.mp (by omega)⟩
  intro i q hq hcall
  have hentries : s.entries k = 0 := by omega
  have := List.countP_eq_zero.mp hentries q (AList.mem_values.mpr ⟨i, hq⟩)
  simp [hcall] at this

theorem unlock (h : Counted s) : Counted s.unlock := ⟨h.answers, h.swept⟩

theorem close (h : Counted s) (cause : Failure) : Counted (s.close cause) := by
  refine ⟨fun j => ?_, fun _ => ?_⟩
  · rw [answers_close, stage_close]
    exact h.answers j
  · unfold Conn.close
    split
    · next hclosed => exact h.swept hclosed
    · rfl

theorem reader (h : Counted s) {r : Reader R} (hr : ∀ j, r.hand j = s.reader.hand j) :
    Counted { s with reader := r } := by
  refine ⟨fun j => ?_, h.swept⟩
  have hs := answers_reader s r j
  have hj := h.answers j
  have hstage : { s with reader := r }.stage j = s.stage j := rfl
  rw [hstage]
  have := hr j
  omega

theorem call (h : Counted s) : Counted (s.call k) := by
  unfold Conn.call
  split
  · next hstage =>
    exact h.setStage hstage rfl rfl
  · exact h

theorem cancel (h : Counted s) : Counted (s.cancel k) := by
  refine ⟨fun j => ?_, h.swept⟩
  have hj := h.answers j
  unfold Conn.answers at hj ⊢
  rw [stage_cancel, done_cancel]
  exact hj

theorem begin (env : Env M P R) (h : Counted s) : Counted (s.begin env k) := by
  unfold Conn.begin
  split
  · next hstage =>
    have hstage' : s.stage k = .called := hstage
    have hnone : s.answers k = 0 := by rw [h.answers k, hstage']; rfl
    split
    · exact h.setStage hstage rfl rfl
    split
    · refine ⟨fun j => ?_, h.swept⟩
      have hs := answers_setStage s k j .locking
      have hj := h.answers j
      rw [stage_setStage]
      by_cases hjk : j = k
      · subst hjk
        simp only [if_true, hstage', Stage.own, Stage.begun] at hs ⊢
        omega
      · simp only [hjk, if_false] at hs ⊢
        omega
    · exact h.answer _ rfl rfl (by rw [hnone, hstage']; rfl)
  · exact h

theorem lock (h : Counted s) : Counted (s.lock k) := by
  unfold Conn.lock
  split
  · next hstage =>
    split
    · have hset : Counted (s.setStage k .locked) := h.setStage hstage rfl rfl
      exact ⟨hset.answers, hset.swept⟩
    · exact h
  · exact h

theorem refuse (h : Counted s) (cause : Failure) (hstage : s.stage k = .locked) :
    Counted (s.refuse k cause) := by
  have hone : s.unlock.answers k = (s.unlock.stage k).own := by
    rw [h.unlock.answers k]
    show (if (s.stage k).begun then 1 else 0) = (s.stage k).own
    rw [hstage]
    rfl
  exact h.unlock.answer _ rfl rfl hone

theorem reserve (env : Env M P R) (h : Counted s) (hfresh : s.pending.lookup (s.next + 1) = none) :
    Counted (s.reserve env k) := by
  unfold Conn.reserve
  split
  · next hstage =>
    have hstage' : s.stage k = .locked := hstage
    split
    · exact h.refuse _ hstage'
    split
    · exact h.refuse _ hstage'
    split
    · exact h.refuse _ hstage'
    · next hopen _ _ =>
      refine ⟨fun j => ?_, fun hclosed => absurd hclosed hopen⟩
      have hs := answers_setStage { s with
        next := s.next + 1,
          pending := s.pending.insert (s.next + 1) { call := k, seen := env.seen k } } k j
        (.reserved (s.next + 1))
      have hi : { s with
          next := s.next + 1
          pending := s.pending.insert (s.next + 1) { call := k, seen := env.seen k } }.answers j =
          s.answers j + if k = j then 1 else 0 := answers_insert hfresh j
      have hj := h.answers j
      have hown : { s with
          next := s.next + 1
          pending := s.pending.insert (s.next + 1) { call := k, seen := env.seen k } }.stage k =
            .locked := hstage'
      rw [hi, hown] at hs
      rw [stage_setStage]
      by_cases hjk : j = k
      · subst hjk
        rw [hstage'] at hj
        simp only [if_true, Stage.own, Stage.begun] at hs hj ⊢
        omega
      · have hkj : ¬ k = j := fun e => hjk e.symm
        simp only [hjk, hkj, if_false] at hs ⊢
        exact hs.trans hj
  · exact h

theorem encode (env : Env M P R) (h : Counted s) : Counted (s.encode env k) := by
  unfold Conn.encode
  split
  · next id hstage =>
    split
    · exact h.setStage hstage rfl rfl
    · exact h.unlock.setStage hstage rfl rfl
  · exact h

theorem send (h : Counted s) : Counted (s.send k) := by
  unfold Conn.send
  split
  · next id hstage =>
    split
    · exact h.unlock.setStage hstage rfl rfl
    · exact h.setStage hstage rfl rfl
  · exact h

theorem write (h : Counted s) (written : Bool) : Counted (s.write k written) := by
  unfold Conn.write
  split
  · next id hstage =>
    have hwire : Counted { s with wire := s.wire ++ [id] } := ⟨h.answers, h.swept⟩
    simp only
    split
    · exact hwire.unlock.setStage hstage rfl rfl
    · have hstage' : ({ s with wire := s.wire ++ [id] }.close .write).stage k = .sending id := by
        rw [stage_close]
        exact hstage
      exact (hwire.close .write).unlock.setStage hstage' rfl rfl
  · exact h

theorem drop (h : Counted s) : Counted (s.drop k) := by
  unfold Conn.drop
  split
  · next id cause hstage =>
    have hstage' : s.stage k = .failing id cause := hstage
    split
    · next hlookup =>
      obtain ⟨p, hp, hcall⟩ := Option.map_eq_some_iff.mp hlookup
      -- The entry's answer is sent by `begin` instead.
      have herase : ∀ j, { s with pending := s.pending.erase id }.answers j +
          (if k = j then 1 else 0) =
          s.answers j := by
        intro j
        rw [← hcall]
        exact answers_erase hp j
      refine ⟨fun j => ?_, fun hclosed => ?_⟩
      · have hs := answers_setStage { s with pending := s.pending.erase id } k j (.waiting id)
        have hown : { s with pending := s.pending.erase id }.stage k = .failing id cause := hstage
        have hj := h.answers j
        have he := herase j
        rw [hown] at hs
        rw [answers_put, stage_put, stage_setStage]
        by_cases hjk : j = k
        · subst hjk
          rw [hstage'] at hj
          simp only [if_true, Stage.own, Stage.begun] at hs hj he ⊢
          omega
        · have hkj : ¬ k = j := fun e => hjk e.symm
          simp only [hjk, hkj, if_false] at hs he ⊢
          have hsame : { s with pending := s.pending.erase id }.stage j = s.stage j := rfl
          rw [hsame]
          omega
      · have hempty := h.swept hclosed
        rw [hempty] at hp
        simp at hp
    · exact h.setStage hstage rfl rfl
  · exact h

theorem take (h : Counted s) : Counted (s.take k) := by
  unfold Conn.take
  split
  · next id _ _ hstage _ =>
    exact h.setStage hstage rfl rfl
  · next _ _ hstage _ =>
    exact h.setStage hstage rfl rfl
  · exact h

theorem abandon (h : Counted s) : Counted (s.abandon k) := by
  unfold Conn.abandon
  split
  · next id hstage =>
    split
    · split
      · next hlookup =>
        obtain ⟨p, hp, hcall⟩ := Option.map_eq_some_iff.mp hlookup
        have hdrain :
            Counted
            { s with
              pending := s.pending.insert id { call := k, seen := false, drain := true } } := by
          refine ⟨fun j => ?_, fun hclosed => ?_⟩
          · rw [answers_replace hp hcall.symm]
            exact h.answers j
          · rw [h.swept hclosed] at hp
            simp at hp
        exact hdrain.setStage hstage rfl rfl
      · exact h.setStage hstage rfl rfl
    · exact h
  · exact h

/-! The reader takes the answer with the entry, and keeps it until it is sent. -/

theorem receiveResponse (h : Counted s) (id : Nat) (reply : Reply R) :
    Counted (s.receiveResponse id reply) := by
  unfold Conn.receiveResponse
  split
  · next hidle =>
    split
    · next p hp =>
      refine ⟨fun j => ?_, fun hclosed => ?_⟩
      · have herase := answers_erase hp j
        have hread := answers_reader { s with pending := s.pending.erase id } (.claimed p reply) j
        have hhand : { s with pending := s.pending.erase id }.reader.hand j = 0 := by
          show s.reader.hand j = 0
          rw [hidle]
          rfl
        rw [hhand] at hread
        have hj := h.answers j
        show { s with pending := s.pending.erase id, reader := .claimed p reply }.answers j =
          if (s.stage j).begun then 1 else 0
        simp only [Reader.hand] at hread
        omega
      · rw [h.swept hclosed] at hp
        simp at hp
    · have hreplied : Counted { s with replied := s.replied ++ [id] } := ⟨h.answers, h.swept⟩
      exact hreplied.close .unmatched
  · exact h

theorem decode (env : Env M P R) (h : Counted s) : Counted (s.decode env) := by
  unfold Conn.decode
  split
  · next p hclaimed => exact h.reader fun j => by rw [hclaimed]; rfl
  · next p raw hclaimed =>
    split
    · exact (h.close .result).reader fun j => by rw [(close_fields s _).2.1, hclaimed]; rfl
    split
    · exact h.reader fun j => by rw [hclaimed]; rfl
    · exact h.reader fun j => by rw [hclaimed]; rfl
  · exact h

theorem observed (h : Counted s) : Counted (s.observed k) := by
  refine ⟨fun j => ?_, h.swept⟩
  have hj := h.answers j
  unfold Conn.answers at hj ⊢
  rw [stage_observed, done_observed]
  exact hj

theorem observe (h : Counted s) (succeeds : Bool) : Counted (s.observe succeeds) := by
  unfold Conn.observe
  split
  · next p raw hobserving =>
    have hreader : (s.observed p.call).reader = .observing p raw := hobserving
    split
    · exact h.observed.reader fun j => by rw [hreader]; rfl
    · exact (h.observed.close .observer).reader fun j => by
        rw [(close_fields _ _).2.1, hreader]; rfl
  · exact h

theorem settle (h : Counted s) : Counted s.settle := by
  unfold Conn.settle
  split
  · next k o hsettling =>
    refine ⟨fun j => ?_, h.swept⟩
    have hread := answers_reader s .idle j
    have hj := h.answers j
    rw [hsettling] at hread
    rw [answers_put, stage_put]
    show { s with reader := .idle }.answers j + _ = if (s.stage j).begun then 1 else 0
    by_cases hjk : j = k
    · subst hjk
      simp only [Reader.hand, if_true] at hread ⊢
      omega
    · have hkj : ¬ k = j := fun e => hjk e.symm
      simp only [Reader.hand, hjk, hkj, if_false] at hread ⊢
      omega
  · exact h

theorem deliver (h : Counted s) (index : Nat) : Counted (s.deliver index) := by
  unfold Conn.deliver
  split
  · next k cause howed =>
    refine ⟨fun j => ?_, h.swept⟩
    have hj := h.answers j
    have hdebts : { s with owed := s.owed.eraseIdx index }.debts j + (if k = j then 1 else 0) =
        s.debts j := by
      obtain ⟨hlt, hget⟩ := List.getElem?_eq_some_iff.mp howed
      have hperm := (List.perm_cons_erase (List.getElem_mem hlt)).trans
          ((List.erase_getElem hlt).cons _)
      have hcount := hperm.countP_eq fun o => decide (o.1 = j)
      rw [List.countP_cons, hget] at hcount
      simpa [debts] using hcount.symm
    rw [answers_put, stage_put]
    show { s with owed := s.owed.eraseIdx index }.answers j + _ = if (s.stage j).begun then 1 else 0
    have hsplit : { s with owed := s.owed.eraseIdx index }.answers j + (if k = j then 1 else 0) =
        s.answers j := by
      simp only [Conn.answers] at hdebts ⊢
      simp only [entries, stage, done] at hdebts ⊢
      omega
    by_cases hjk : j = k
    · subst hjk
      simp only [if_true] at hsplit ⊢
      omega
    · have hkj : ¬ k = j := fun e => hjk e.symm
      simp only [hjk, hkj, if_false] at hsplit ⊢
      omega
  · exact h

theorem step (env : Env M P R) (h : Counted s) (hfresh : s.pending.lookup (s.next + 1) = none)
    (a : Step R) : Counted (s.step env a) := by
  cases a with
  | call k => exact h.call
  | cancel k => exact h.cancel
  | begin k => exact h.begin env
  | lock k => exact h.lock
  | reserve k => exact h.reserve env hfresh
  | encode k => exact h.encode env
  | send k => exact h.send
  | write k written => exact h.write written
  | drop k => exact h.drop
  | take k => exact h.take
  | abandon k => exact h.abandon
  | response id reply => exact h.receiveResponse id reply
  | decode => exact h.decode env
  | observe succeeds => exact h.observe succeeds
  | settle => exact h.settle
  | close cause => exact h.close cause
  | deliver index => exact h.deliver index

end Counted

end Conn

end Sessionbus.Rpc
