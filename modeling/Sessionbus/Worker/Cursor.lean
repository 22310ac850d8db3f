import Sessionbus.Worker.Spec

/-!
# The cursor of a worker

The runs a worker remembers are the ones after the last acknowledged one, in order. The run
in progress is the last of them and holds the slot until `turn.ready` is acknowledged or a
close takes the slot; an acknowledgment removes the first of the others.
-/

namespace Sessionbus

/-- What `execute`, `runTurn`, `ackRun` and a close read and write under the worker's mutex. -/
structure Cursor where
  generation : String
  lastSequence : Nat
  acknowledged : Nat
  records : List Record
  run : Option Slot

/-- The records are those after the acknowledged one, of one generation and in order; only the last
may be running, exactly while it holds the slot. -/
structure Cursor.Valid (c : Cursor) : Prop where
  le : c.acknowledged ≤ c.lastSequence
  sequences : c.records.map (·.sequence) = List.range' (c.acknowledged + 1)
    (c.lastSequence - c.acknowledged)
  generation : ∀ r ∈ c.records, runNumber r.ref.runID = some (c.generation, r.sequence)
  capacity : c.records.length ≤ maxOperations
  settled : ∀ r ∈ c.records.dropLast, r.state ≠ .running
  slot : c.run ≠ some .closing → ∀ r ∈ c.records, r.state = .running ↔
    c.run = some (.turn r.sequence)
  holds : ∀ n, c.run = some (.turn n) → n = c.lastSequence ∧ c.records ≠ []

/-- The record of a run that is not over. -/
def Turn.record (t : Turn) : Record := { ref := t.ref, sequence := t.sequence }

namespace Worker

/-- What the reader takes from the connection and what the goroutines do. -/
inductive Event
  | receive (frame : OutFrame)
  | act (a : Action)

def step (w : Worker) : Event → Worker
  | .receive frame => w.receive frame
  | .act a => w.act a

def steps (w : Worker) (events : List Event) : Worker := events.foldl step w

def cursor (w : Worker) : Cursor := ⟨w.generation, w.lastSequence, w.acknowledged, w.records, w.run⟩

/-! ## What leaves the cursor alone -/

@[simp] theorem cursor_hangUp (w : Worker) : w.hangUp.cursor = w.cursor := rfl

@[simp] theorem cursor_spawn (w : Worker) (task : Task) : (w.spawn task).cursor = w.cursor := rfl

@[simp] theorem cursor_setTurn (w : Worker) (turn : Turn) :
    (w.setTurn turn).cursor = w.cursor := rfl

@[simp] theorem cursor_removeTask (w : Worker) (index : Nat) :
    (w.removeTask index).cursor = w.cursor := rfl

@[simp] theorem cursor_write (w : Worker) (frame : UpFrame) :
    (w.write frame).cursor = w.cursor := by
  unfold write
  split <;> rfl

theorem mem_records {v w : Worker} (h : v.cursor = w.cursor) {r : Record} (hr : r ∈ w.records) :
    r ∈ v.records := by
  have hrecords : v.records = w.records := congrArg Cursor.records h
  rw [hrecords]
  exact hr

theorem cursor_readRun (w : Worker) (request : Request) (p : WaitRequest) (wait : Bool) :
    (w.readRun request p wait).cursor = w.cursor := by
  unfold readRun
  split <;> rfl

theorem cursor_interrupt (w : Worker) (request : Request) :
    (w.interrupt request).cursor = w.cursor := by
  unfold interrupt
  split
  · rfl
  · rfl
  · split <;> rfl

theorem cursor_runTask (w : Worker) (index : Nat) (report : Report) (timedOut : Bool) :
    (w.runTask index report timedOut).cursor = w.cursor := by
  unfold runTask
  split
  · rfl
  · simp
  · unfold runDeliver
    split
    · simp
    · split <;> simp
  · simp
  · have hread : ∀ request body, (w.answerRead index request body).cursor = w.cursor :=
      fun request body => (cursor_write _ _).trans rfl
    unfold runRead
    split
    · exact hread _ _
    · split
      · exact hread _ _
      · rfl
  · unfold runClose
    split <;> simp
  · simp

theorem cursor_report (w : Worker) (value : Report) : (w.report value).cursor = w.cursor := by
  unfold report
  split
  · split <;> simp
  · rfl

/-- Only the reader moves the cursor: what a goroutine does by itself leaves it alone. -/
theorem cursor_act (w : Worker) (a : Action) : (w.act a).cursor = w.cursor := by
  cases a with
  | task index report timedOut => exact cursor_runTask w index report timedOut
  | start =>
    show w.start.cursor = _
    unfold start
    split
    · split <;> simp
    · rfl
  | report value => exact cursor_report w value
  | finish result valid =>
    show (w.finish _).cursor = _
    unfold finish
    split
    · split <;> simp
    · rfl
  | reportMissing =>
    show w.reportMissing.cursor = _
    unfold reportMissing
    split
    · exact cursor_report w _
    · rfl
  | announce =>
    show w.announce.cursor = _
    unfold announce
    split
    · split
      · split
        · rfl
        · split
          · rfl
          · exact (cursor_write _ _).trans rfl
      · rfl
    · rfl
  | call method =>
    show (w.call method).cursor = _
    unfold call
    split
    · rfl
    · exact (cursor_write _ _).trans rfl
  | hangUp => rfl

/-! ## The run in progress -/

/-- The run in progress is the last record; its `turn.ready` carries the state it ended in. -/
structure Keeps (w : Worker) : Prop where
  le : w.acknowledged ≤ w.lastSequence
  sequences : w.records.map (·.sequence) = List.range' (w.acknowledged + 1)
    (w.lastSequence - w.acknowledged)
  generation : ∀ r ∈ w.records, runNumber r.ref.runID = some (w.generation, r.sequence)
  capacity : w.records.length ≤ maxOperations
  records : ∃ over_, (∀ r ∈ over_, r.state ≠ .running) ∧ w.records = over_ ++
    (w.turn.map Turn.record).toList
  run : w.run ≠ some .closing → w.run = w.turn.map fun t => .turn t.sequence
  returned : ∀ t state, w.turn = some t → t.stage = .returned state → state ≠ .running
  calls : ∀ id n state, w.calls.lookup id = some (.ready n state) →
    state ≠ .running ∧ ∃ t, w.turn = some t ∧ t.sequence = n ∧ t.stage = .ready id

namespace Keeps

variable {w v : Worker}

theorem current (h : w.Keeps) {t : Turn} (ht : w.turn = some t) : t.sequence = w.lastSequence := by
  obtain ⟨over_, -, hrecords⟩ := h.records
  have hseq := congrArg List.getLast? h.sequences
  have hlen : w.lastSequence - w.acknowledged ≠ 0 := by
    intro hzero
    have := congrArg List.length h.sequences
    simp [hrecords, ht, hzero] at this
  rw [hrecords, ht, List.getLast?_range'] at hseq
  simp [Turn.record, hlen] at hseq
  have hle := h.le
  omega

theorem sequence_ne (h : w.Keeps) {t : Turn} (ht : w.turn = some t) {over_ : List Record}
    (hrecords : w.records = over_ ++ (w.turn.map Turn.record).toList) {r : Record}
    (hr : r ∈ over_) : r.sequence ≠ t.sequence := by
  have hnodup : (w.records.map (·.sequence)).Nodup := h.sequences ▸ List.nodup_range'
  rw [hrecords, ht, List.map_append, List.nodup_append] at hnodup
  exact hnodup.2.2 _ (List.mem_map_of_mem hr) _ (by simp [Turn.record])

theorem valid (h : w.Keeps) : w.cursor.Valid := by
  obtain ⟨over_, hover, hrecords⟩ := h.records
  have hholds : ∀ n, w.run = some (.turn n) → ∃ t, w.turn = some t ∧ t.sequence = n := by
    intro n hrun
    have hturn := h.run (by simp [hrun])
    rw [hrun] at hturn
    obtain ⟨t, ht, hn⟩ := Option.map_eq_some_iff.mp hturn.symm
    exact ⟨t, ht, by simpa using hn⟩
  refine ⟨h.le, h.sequences, h.generation, h.capacity, ?_, ?_, ?_⟩
  · intro r hr
    have hr : r ∈ w.records.dropLast := hr
    apply hover
    cases ht : w.turn with
    | none =>
      rw [hrecords, ht] at hr
      simpa using List.dropLast_subset _ hr
    | some t => simpa [hrecords, ht] using hr
  · intro hopen r hr
    have hr : r ∈ w.records := hr
    have hturn := h.run hopen
    show r.state = .running ↔ w.run = some (.turn r.sequence)
    rw [hrecords, List.mem_append] at hr
    rcases hr with hr | hr
    · refine ⟨fun hrun => absurd hrun (hover r hr), fun hrun => ?_⟩
      obtain ⟨t, ht, hn⟩ := hholds _ hrun
      exact absurd hn.symm (h.sequence_ne ht hrecords hr)
    · simp only [Option.mem_toList, Option.map_eq_some_iff] at hr
      obtain ⟨t, ht, rfl⟩ := hr
      simp [hturn, ht, Turn.record]
  · intro n hrun
    obtain ⟨t, ht, rfl⟩ := hholds n hrun
    refine ⟨h.current ht, ?_⟩
    show w.records ≠ []
    simp [hrecords, ht]

theorem of_cursor (h : w.Keeps) (cursor : v.cursor = w.cursor)
    (turn : v.turn.map Turn.record = w.turn.map Turn.record)
    (returned : ∀ t state, v.turn = some t → t.stage = .returned state → state ≠ .running)
    (calls : ∀ id n state, v.calls.lookup id = some (.ready n state) →
      state ≠ .running ∧ ∃ t, v.turn = some t ∧ t.sequence = n ∧ t.stage = .ready id) :
    v.Keeps := by
  simp only [Worker.cursor, Cursor.mk.injEq] at cursor
  obtain ⟨hgen, hlast, hack, hrecords, hrun⟩ := cursor
  have hslot : v.turn.map (fun t => Slot.turn t.sequence) = w.turn.map fun t =>
      Slot.turn t.sequence := by
    have hmap := congrArg (Option.map fun r : Record => Slot.turn r.sequence) turn
    rw [Option.map_map, Option.map_map] at hmap
    exact hmap
  refine ⟨?_, ?_, ?_, ?_, ?_, ?_, returned, calls⟩
  · rw [hack, hlast]
    exact h.le
  · rw [hack, hlast, hrecords]
    exact h.sequences
  · rw [hgen, hrecords]
    exact h.generation
  · rw [hrecords]
    exact h.capacity
  · rw [hrecords, turn]
    exact h.records
  · rw [hrun, hslot]
    exact h.run

theorem same (h : w.Keeps) (cursor : v.cursor = w.cursor) (turn : v.turn = w.turn)
    (calls : ∀ id n state, v.calls.lookup id = some (.ready n state) →
      w.calls.lookup id = some (.ready n state)) :
    v.Keeps := by
  refine h.of_cursor cursor (by rw [turn]) (turn ▸ h.returned) ?_
  rw [turn]
  exact fun id n state hc => h.calls id n state (calls id n state hc)

theorem hangUp (h : w.Keeps) : w.hangUp.Keeps := h.same rfl rfl (by simp [Worker.hangUp])

theorem write (h : w.Keeps) (frame : UpFrame) : (w.write frame).Keeps := by
  unfold Worker.write
  split
  · exact h
  · exact h.same rfl rfl fun _ _ _ hc => hc

theorem spawn (h : w.Keeps) (task : Task) : (w.spawn task).Keeps :=
  h.same rfl rfl fun _ _ _ hc => hc

theorem advance (h : w.Keeps) {t t' : Turn} (ht : w.turn = some t) (cursor : v.cursor = w.cursor)
    (turn : v.turn = some t') (hrecord : t'.record = t.record)
    (hstage : ∀ state, t'.stage = .returned state → state ≠ .running)
    (hcalls : ∀ id n state, v.calls.lookup id = some (.ready n state) →
      state ≠ .running ∧ t.sequence = n ∧ t'.stage = .ready id) : v.Keeps := by
  have hseq : t'.sequence = t.sequence := congrArg Record.sequence hrecord
  refine h.of_cursor cursor (by rw [turn, ht, Option.map_some, Option.map_some, hrecord]) ?_ ?_
  · intro t₁ state h₁ hreturned
    rw [turn] at h₁
    cases h₁
    exact hstage state hreturned
  · intro id n state hc
    obtain ⟨hstate, hn, hid⟩ := hcalls id n state hc
    exact ⟨hstate, t', turn, hseq.trans hn, hid⟩

theorem unannounced (h : w.Keeps) {t : Turn} (ht : w.turn = some t)
    (hstage : ∀ id, t.stage ≠ .ready id) (id n : Nat) (state : RunState) :
    w.calls.lookup id ≠ some (.ready n state) := by
  intro hc
  obtain ⟨-, t', ht', -, hid⟩ := h.calls id n state hc
  rw [ht] at ht'
  cases ht'
  exact hstage id hid

/-! ### Runs -/

theorem runNumber_generation {id generation : String} {n : Nat}
    (h : runNumber id = some (generation, n)) : generation ≠ "" := by
  unfold runNumber at h
  split at h
  · cases h
  · split at h
    · cases h
    · split at h
      · rename_i hvalid
        cases h
        exact hvalid.1
      · cases h

theorem executeCode_none {ref : RunRef} (h : w.executeCode ref = none) :
    w.run = none ∧ w.records.length < maxOperations ∧ ref.sessionID = w.sessionID ∧
      ∃ generation, runNumber ref.runID = some (generation, w.lastSequence + 1) ∧
        (w.generation = "" ∨ w.generation = generation) := by
  unfold executeCode at h
  split at h
  · cases h
  · rename_i hfree
    simp only [Bool.or_eq_true, Bool.not_eq_true', decide_eq_true_eq, not_or, not_le,
      Option.isSome_iff_ne_none, ne_eq, not_not] at hfree
    split at h
    · cases h
    · rename_i generation sequence hnumber
      split at h
      · cases h
      · rename_i hok
        simp only [not_or, not_and, not_not, ne_eq] at hok
        obtain ⟨hid, hgen, hseq⟩ := hok
        refine ⟨hfree.1.2, hfree.2, hid, generation, by rw [hnumber, hseq], ?_⟩
        by_cases hempty : w.generation = ""
        · exact .inl hempty
        · exact .inr (hgen hempty)

theorem admitRun (h : w.Keeps) {request : Request} {ref : RunRef} {seed : Option DeliveryRequest}
    {generation : String} (hrun : w.run = none) (hroom : w.records.length < maxOperations)
    (hnumber : runNumber ref.runID = some (generation, w.lastSequence + 1))
    (hgen : w.generation = "" ∨ w.generation = generation) :
    (w.admitRun request ref seed generation (w.lastSequence + 1)).Keeps := by
  have hidle : w.turn = none := by
    have := h.run (by simp [hrun])
    rw [hrun] at this
    exact Option.map_eq_none_iff.mp this.symm
  obtain ⟨over_, hover, hrecords⟩ := h.records
  have hle := h.le
  refine ⟨Nat.le_succ_of_le h.le, ?_, ?_, ?_, ?_, ?_, ?_, ?_⟩
  · show (w.records ++ [_]).map Record.sequence = List.range' (w.acknowledged + 1)
      (w.lastSequence + 1 - w.acknowledged)
    have hcount : w.lastSequence + 1 - w.acknowledged = w.lastSequence - w.acknowledged + 1 := by
      omega
    rw [List.map_append, h.sequences, hcount, List.range'_concat]
    simp only [List.map_cons, List.map_nil]
    congr 2
    omega
  · show ∀ r ∈ w.records ++ [_], runNumber r.ref.runID = some (generation, r.sequence)
    intro r hr
    rcases List.mem_append.mp hr with hr | hr
    · have hr' := h.generation r hr
      rcases hgen with hempty | hsame
      · exact absurd hempty (runNumber_generation hr')
      · rw [hr', hsame]
    · rw [List.mem_singleton.mp hr]
      exact hnumber
  · show (w.records ++ [_]).length ≤ maxOperations
    rw [List.length_append]
    exact hroom
  · refine ⟨over_, hover, ?_⟩
    show w.records ++ [_] = _
    simp [hrecords, hidle, Worker.admitRun, Turn.record]
  · exact fun _ => rfl
  · intro t state ht hreturned
    cases ht
    simp only at hreturned
    split at hreturned <;> cases hreturned
  · intro id n state hc
    obtain ⟨-, t, ht, -⟩ := h.calls id n state hc
    simp [hidle] at ht

theorem execute (h : w.Keeps) (request : Request) (ref : RunRef) (seed : Option DeliveryRequest) :
    (w.execute request ref seed).Keeps := by
  unfold Worker.execute
  split
  · rename_i generation sequence hcode hnumber
    obtain ⟨hrun, hroom, -, generation', hnumber', hgen⟩ := executeCode_none hcode
    rw [hnumber] at hnumber'
    cases hnumber'
    exact h.admitRun hrun hroom hnumber hgen
  · exact h.spawn _
  · exact h

theorem removed (h : w.Keeps) {first : Record} {rest : List Record}
    (hfirst : w.records = first :: rest) (hstate : first.state ≠ .running) :
    ({ w with acknowledged := first.sequence, records := rest } : Worker).Keeps := by
  have hseq := h.sequences
  rw [hfirst, List.map_cons] at hseq
  obtain ⟨k, hk⟩ : ∃ k, w.lastSequence - w.acknowledged = k + 1 := by
    refine Nat.exists_eq_succ_of_ne_zero fun hzero => ?_
    simp [hzero] at hseq
  rw [hk, List.range'_succ] at hseq
  obtain ⟨hhead, htail⟩ := List.cons.inj hseq
  have hcount : w.lastSequence - first.sequence = k := by omega
  have hcap := h.capacity
  rw [hfirst, List.length_cons] at hcap
  obtain ⟨over_, hover, hrecords⟩ := h.records
  refine ⟨by show first.sequence ≤ w.lastSequence; omega, ?_, ?_,
    by show rest.length ≤ _; omega, ?_, h.run, h.returned, h.calls⟩
  · show rest.map Record.sequence = List.range' (first.sequence + 1)
      (w.lastSequence - first.sequence)
    rw [htail, hcount, hhead]
  · exact fun r hr => h.generation r (by simp [hfirst, (hr : r ∈ rest)])
  · cases over_ with
    | nil =>
      -- The only record would be that of the run in progress.
      rw [hfirst, List.nil_append] at hrecords
      cases ht : w.turn with
      | none => simp [ht] at hrecords
      | some t =>
        simp only [ht, Option.map_some, Option.toList_some, List.cons.injEq] at hrecords
        rw [hrecords.1] at hstate
        exact absurd rfl hstate
    | cons r over_ =>
      rw [hfirst, List.cons_append] at hrecords
      obtain ⟨-, hrest⟩ := List.cons.inj hrecords
      exact ⟨over_, fun q hq => hover q (by simp [hq]), hrest⟩

theorem ackRun (h : w.Keeps) (request : Request) (ref : RunRef) : (w.ackRun request ref).Keeps := by
  unfold Worker.ackRun
  split
  · exact h.spawn _
  · rename_i generation sequence hnumber
    split
    · split
      · exact h.spawn _
      · rename_i hnew
        split
        · exact h.spawn _
        · rename_i first rest hfirst
          split
          · rename_i hmatch
            have hsame := h.generation first (by simp [hfirst])
            rw [hmatch.1, hnumber] at hsame
            cases hsame
            exact (h.removed hfirst hmatch.2).spawn _
          · exact h.spawn _
    · exact h.spawn _

theorem published (h : w.Keeps) {t : Turn} (ht : w.turn = some t) (state : RunState) :
    ∃ over_, (∀ r ∈ over_, r.state ≠ .running) ∧ w.records = over_ ++ [t.record] ∧
      w.records.map (fun r => if r.sequence = t.sequence then { r with state } else r) =
        over_ ++ [{ t.record with state }] := by
  obtain ⟨over_, hover, hrecords⟩ := h.records
  have hkept :
      over_.map (fun r => if r.sequence = t.sequence then { r with state } else r) = over_ := by
    refine (List.map_congr_left fun r hr => ?_).trans (List.map_id over_)
    rw [if_neg (h.sequence_ne ht hrecords hr)]
    rfl
  have hrecords : w.records = over_ ++ [t.record] := by simpa [ht] using hrecords
  refine ⟨over_, hover, hrecords, ?_⟩
  rw [hrecords, List.map_append, hkept]
  simp [Turn.record]

theorem publish (h : w.Keeps) {id n : Nat} {state : RunState}
    (hcall : w.calls.lookup id = some (.ready n state)) :
    ({ w with calls := w.calls.erase id }.publish n state).Keeps := by
  obtain ⟨hstate, t, ht, rfl, hid⟩ := h.calls id n state hcall
  obtain ⟨over_, hover, hrecords, hpublished⟩ := h.published ht state
  have hturn : ({ w with calls := w.calls.erase id }.publish t.sequence state).turn = none := by
    simp [Worker.publish, ht]
  refine ⟨h.le, ?_, ?_, ?_, ?_, ?_, ?_, ?_⟩
  · show (w.records.map _).map Record.sequence = List.range' (w.acknowledged + 1)
      (w.lastSequence - w.acknowledged)
    rw [hpublished, ← h.sequences, hrecords]
    simp
  · show ∀ r : Record, r ∈ w.records.map _ → runNumber r.ref.runID = some (w.generation, r.sequence)
    rw [hpublished]
    intro r hr
    rcases List.mem_append.mp hr with hr | hr
    · exact h.generation r (by simp [hrecords, hr])
    · rw [List.mem_singleton.mp hr]
      exact h.generation t.record (by simp [hrecords])
  · show (w.records.map _).length ≤ _
    rw [List.length_map]
    exact h.capacity
  · refine ⟨over_ ++ [{ t.record with state }], ?_, ?_⟩
    · intro r hr
      rcases List.mem_append.mp hr with hr | hr
      · exact hover r hr
      · rw [List.mem_singleton.mp hr]
        exact hstate
    · rw [hturn]
      show w.records.map _ = _
      rw [hpublished]
      simp
  · rw [hturn]
    intro hopen
    show (if w.run = some (.turn t.sequence) then none else w.run) = none
    split
    · rfl
    · rename_i hother
      have hrun := h.run (by simpa [Worker.publish, hother] using hopen)
      rw [ht] at hrun
      exact absurd hrun hother
  · rw [hturn]
    exact fun t₁ state₁ h₁ => by cases h₁
  · intro id' n' state' hcall'
    -- No other `turn.ready` was unanswered.
    obtain ⟨hne, hcall'⟩ := AList.lookup_erase_iff.mp hcall'
    obtain ⟨-, t', ht', -, hid'⟩ := h.calls id' n' state' hcall'
    rw [ht] at ht'
    cases ht'
    rw [hid] at hid'
    cases hid'
    exact absurd rfl hne

/-! ### The reader -/

theorem receiveResponse (h : w.Keeps) (id : Nat) (body : Body) :
    (w.receiveResponse id body).Keeps := by
  unfold Worker.receiveResponse
  split
  · exact h.hangUp
  · rename_i n state hcall
    split
    · exact h.publish hcall
    · exact h.hangUp
  · exact h.same rfl rfl fun _ _ _ hc => (AList.lookup_erase_iff.mp hc).2

theorem readRun (h : w.Keeps) (request : Request) (p : WaitRequest) (wait : Bool) :
    (w.readRun request p wait).Keeps := by
  unfold Worker.readRun
  split
  · exact h.spawn _
  · exact h.same rfl rfl fun _ _ _ hc => hc

theorem interrupt (h : w.Keeps) (request : Request) : (w.interrupt request).Keeps := by
  unfold Worker.interrupt
  split
  · exact h.spawn _
  · exact h.spawn _
  · split <;> exact h.spawn _

theorem deliver (h : w.Keeps) (request : Request) (p : DeliveryRequest) :
    (w.deliver request p).Keeps := by
  unfold Worker.deliver
  split
  · exact h.execute _ _ _
  · split <;> exact h.spawn _

theorem closing (h : w.Keeps) : ({ w with run := some .closing } : Worker).Keeps :=
  { h with run := fun hopen => absurd rfl hopen }

theorem close (h : w.Keeps) (request : Request) : (w.close request).Keeps := by
  unfold Worker.close
  split
  · exact h.hangUp
  · exact h.closing.spawn _
  · exact h.closing.spawn _

theorem handle (h : w.Keeps) (request : Request) : (w.handle request).Keeps := by
  unfold Worker.handle
  split
  · exact h.execute _ _ _
  · exact h.readRun _ _ _
  · exact h.readRun _ _ _
  · exact h.ackRun _ _
  · exact h.interrupt _
  · exact h.deliver _ _
  · exact h.close _
  · exact h.spawn _
  · exact h.spawn _

theorem receive (h : w.Keeps) (frame : OutFrame) : (w.receive frame).Keeps := by
  cases frame with
  | request id command =>
    show (w.receiveRequest { id, command }).Keeps
    unfold Worker.receiveRequest
    split
    · have hread : ({ w with last := id } : Worker).Keeps := h.same rfl rfl fun _ _ _ hc => hc
      exact hread.handle _
    · exact (h.write _).hangUp
  | response id body => exact h.receiveResponse id body

/-! ### The goroutines -/

theorem removeTask (h : w.Keeps) (index : Nat) : (w.removeTask index).Keeps :=
  h.same rfl rfl fun _ _ _ hc => hc

theorem runTask (h : w.Keeps) (index : Nat) (report : Report) (timedOut : Bool) :
    (w.runTask index report timedOut).Keeps := by
  have hr := h.removeTask index
  unfold Worker.runTask
  split
  · exact h
  · exact hr.write _
  · unfold Worker.runDeliver
    split
    · exact hr.write _
    · split
      · exact hr.write _
      · exact hr.spawn _
  · exact hr.write _
  · have hwaiters : ({ w with waiters := w.waiters - 1 } : Worker).Keeps :=
      h.same rfl rfl fun _ _ _ hc => hc
    have hread : ∀ request body, (w.answerRead index request body).Keeps :=
      fun request body => (hwaiters.removeTask index).write _
    unfold Worker.runRead
    split
    · exact hread _ _
    · split
      · exact hread _ _
      · exact h
  · unfold Worker.runClose
    split
    · exact h
    · exact (hr.write _).hangUp
  · exact (hr.write _).hangUp

theorem start (h : w.Keeps) : w.start.Keeps := by
  unfold Worker.start
  split
  · rename_i t ht
    split
    · rename_i hstage
      have hrunning : (w.setTurn { t with stage := .running }).Keeps := by
        refine h.advance ht rfl rfl rfl (by simp) fun id n state hc => ?_
        exact absurd hc (h.unannounced ht (by simp [hstage]) id n state)
      exact hrunning.write _
    · exact h
  · exact h

theorem report (h : w.Keeps) (value : Report) : (w.report value).Keeps := by
  unfold Worker.report
  split
  · rename_i t ht
    split
    · have hreported : (w.setTurn { t with reported := true }).Keeps := by
        refine h.advance ht rfl rfl rfl (fun state => h.returned t state ht) fun id n state hc => ?_
        obtain ⟨hstate, t', ht', hn, hid⟩ := h.calls id n state hc
        rw [ht] at ht'
        cases ht'
        exact ⟨hstate, hn, hid⟩
      exact hreported.write _
    · exact h
  · exact h

theorem finish (h : w.Keeps) {state : RunState} (hstate : state ≠ .running) :
    (w.finish state).Keeps := by
  unfold Worker.finish
  split
  · rename_i t ht
    split
    · rename_i hstage
      refine h.advance ht rfl rfl rfl (fun state' hs => ?_) fun id n state hc => ?_
      · rw [← Stage.returned.inj hs]
        exact hstate
      · exact absurd hc (h.unannounced ht (by simp [hstage]) id n state)
    · exact h
  · exact h

theorem announce (h : w.Keeps) : w.announce.Keeps := by
  unfold Worker.announce
  split
  · rename_i t ht
    split
    · rename_i state hstage
      split
      · exact h
      · split
        · exact h.hangUp
        · have hready : ({ w with
              next := w.next + 1,
                calls := w.calls.insert (w.next + 1) (.ready t.sequence state) }.setTurn
                { t with stage := .ready (w.next + 1) }).Keeps := by
            refine h.advance ht rfl rfl rfl (by simp) fun id n state' hc => ?_
            rcases AList.lookup_insert_iff.mp hc with ⟨rfl, hsent⟩ | ⟨-, hc⟩
            · cases hsent
              exact ⟨h.returned t _ ht hstage, rfl, rfl⟩
            · exact absurd hc (h.unannounced ht (by simp [hstage]) id n state')
          exact hready.write _
    · exact h
  · exact h

theorem call (h : w.Keeps) (method : Method) : (w.call method).Keeps := by
  unfold Worker.call
  split
  · exact h
  · have hcalled :
        ({ w with next := w.next + 1, calls := w.calls.insert (w.next + 1) .client } :
          Worker).Keeps := by
      refine h.same rfl rfl fun id n state hc => ?_
      rcases AList.lookup_insert_iff.mp hc with ⟨-, hsent⟩ | ⟨-, hc⟩
      · cases hsent
      · exact hc
    exact hcalled.write _

theorem finalState_ne (result : Except String TurnResult) (valid : Bool) :
    finalState result valid ≠ .running := by
  unfold finalState
  split
  · split <;> simp
  · simp

theorem act (h : w.Keeps) (a : Action) : (w.act a).Keeps := by
  cases a with
  | task index report timedOut => exact h.runTask index report timedOut
  | start => exact h.start
  | report value => exact h.report value
  | finish result valid => exact h.finish (finalState_ne result valid)
  | reportMissing =>
    show w.reportMissing.Keeps
    unfold reportMissing
    split
    · exact h.report _
    · exact h
  | announce => exact h.announce
  | call method => exact h.call method
  | hangUp => exact h.hangUp

theorem step (h : w.Keeps) (e : Event) : (w.step e).Keeps := by
  cases e with
  | receive frame => exact h.receive frame
  | act a => exact h.act a

theorem steps (h : w.Keeps) (events : List Event) : (w.steps events).Keeps := by
  induction events generalizing w with
  | nil => exact h
  | cons e events ih => exact ih (h.step e)

end Keeps

/-! ## What a step does to the cursor -/

/-- The commands that start a run. -/
def startsRun : Command → Bool
  | .execute _ => true
  | .deliver p => p.runID != ""
  | _ => false

/-- A worker on which no run was started. -/
structure Fresh (w : Worker) : Prop where
  generation : w.generation = ""
  sequences : w.lastSequence = 0 ∧ w.acknowledged = 0
  records : w.records = []
  idle : w.run = none ∧ w.turn = none
  calls : ∀ id n state, w.calls.lookup id ≠ some (.ready n state)

theorem Fresh.keeps {w : Worker} (h : w.Fresh) : w.Keeps where
  le := by simp [h.sequences]
  sequences := by simp [h.sequences, h.records]
  generation := by simp [h.records]
  capacity := by simp [h.records]
  records := ⟨[], by simp, by simp [h.records, h.idle]⟩
  run := fun _ => by simp [h.idle]
  returned := by simp [h.idle]
  calls := fun id n state hc => absurd hc (h.calls id n state)

theorem execute_cases (w : Worker) (request : Request) (ref : RunRef)
    (seed : Option DeliveryRequest) : (∃ code, w.execute request ref seed = w.refuse request code) ∨
      ∃ r, (w.execute request ref seed).records = w.records ++ [r] ∧
        (w.execute request ref seed).tasks = w.tasks := by
  unfold execute
  split
  · exact .inr ⟨_, rfl, rfl⟩
  · exact .inl ⟨_, rfl⟩
  · rename_i hcode hnumber
    obtain ⟨-, -, -, generation, hsome, -⟩ := Keeps.executeCode_none hcode
    rw [hnumber] at hsome
    cases hsome

theorem ackRun_cases (w : Worker) (request : Request) (ref : RunRef) :
    (∃ code, w.ackRun request ref = w.refuse request code) ∨
    (w.ackRun request ref = w.answer request (.result .empty) ∧
      ∃ n, runNumber ref.runID = some (w.generation, n) ∧ n ≤ w.acknowledged) ∨
    ∃ n first rest, runNumber ref.runID = some (w.generation, n) ∧ w.records = first :: rest ∧
      first.ref.runID = ref.runID ∧ first.state ≠ .running ∧
      w.ackRun request ref = { w with acknowledged := n, records := rest }.answer request
    (.result .empty) := by
  unfold ackRun
  split
  · exact .inl ⟨_, rfl⟩
  · rename_i generation n hnumber
    split
    · rename_i hgen
      rw [hgen.1] at hnumber
      split
      · rename_i hold
        exact .inr (.inl ⟨rfl, n, hnumber, hold⟩)
      · split
        · exact .inl ⟨_, rfl⟩
        · rename_i first rest hrecords
          split
          · rename_i hmatch
            exact .inr (.inr ⟨n, first, rest, hnumber, hrecords, hmatch.1, hmatch.2, rfl⟩)
          · exact .inl ⟨_, rfl⟩
    · exact .inl ⟨_, rfl⟩

/-- The frame acknowledges the run of this record. -/
def Acknowledges (w : Worker) (frame : OutFrame) (r : Record) : Prop :=
  ∃ id ref, frame = .request id (.ack ref) ∧ ref.runID = r.ref.runID ∧
    (w.receive frame).acknowledged = r.sequence

section
variable {w : Worker}

theorem publish_retains (h : w.Keeps) {id n : Nat} {state : RunState}
    (hcall : w.calls.lookup id = some (.ready n state)) {r : Record} (hr : r ∈ w.records)
    (hover : r.state ≠ .running) :
    r ∈ ({ w with calls := w.calls.erase id }.publish n state).records := by
  obtain ⟨-, t, ht, rfl, -⟩ := h.calls id n state hcall
  obtain ⟨over_, -, hrecords, hpublished⟩ := h.published ht state
  show r ∈ w.records.map _
  rw [hpublished]
  rw [hrecords] at hr
  rcases List.mem_append.mp hr with hr | hr
  · simp [hr]
  · rw [List.mem_singleton.mp hr] at hover
    exact absurd rfl hover

theorem ackRun_retains (h : w.Keeps) (request : Request) (ref : RunRef) {r : Record}
    (hr : r ∈ w.records) : r ∈ (w.ackRun request ref).records ∨
      ref.runID = r.ref.runID ∧ (w.ackRun request ref).acknowledged = r.sequence := by
  rcases ackRun_cases w request ref with ⟨code, heq⟩ | ⟨heq, -⟩ |
    ⟨n, first, rest, hnumber, hrecords, hid, -, heq⟩
  · rw [heq]
    exact .inl hr
  · rw [heq]
    exact .inl hr
  · rw [heq]
    rw [hrecords] at hr
    rcases List.mem_cons.mp hr with rfl | hr
    · have hsame := h.generation r (by simp [hrecords])
      rw [hid, hnumber] at hsame
      cases hsame
      exact .inr ⟨hid.symm, rfl⟩
    · exact .inl hr

theorem execute_retains (request : Request) (ref : RunRef) (seed : Option DeliveryRequest)
    {r : Record} (hr : r ∈ w.records) : r ∈ (w.execute request ref seed).records := by
  rcases execute_cases w request ref seed with ⟨code, heq⟩ | ⟨q, heq, -⟩
  · rw [heq]
    exact hr
  · rw [heq]
    simp [hr]

theorem handle_retains (h : w.Keeps) (request : Request) {r : Record} (hr : r ∈ w.records) :
    r ∈ (w.handle request).records ∨ ∃ ref, request.command = .ack ref ∧ ref.runID = r.ref.runID ∧
      (w.handle request).acknowledged = r.sequence := by
  unfold handle
  split
  · exact .inl (execute_retains _ _ _ hr)
  · exact .inl (mem_records (cursor_readRun w _ _ _) hr)
  · exact .inl (mem_records (cursor_readRun w _ _ _) hr)
  · rename_i ref hcommand
    rcases ackRun_retains h request ref hr with hkept | ⟨hid, hack⟩
    · exact .inl hkept
    · exact .inr ⟨ref, hcommand, hid, hack⟩
  · exact .inl (mem_records (cursor_interrupt w _) hr)
  · left
    unfold deliver
    split
    · exact execute_retains _ _ _ hr
    · split <;> exact hr
  · left
    unfold close
    split <;> exact hr
  · exact .inl hr
  · exact .inl hr

theorem receive_retains (h : w.Keeps) (frame : OutFrame) {r : Record} (hr : r ∈ w.records)
    (hover : r.state ≠ .running) : r ∈ (w.receive frame).records ∨ w.Acknowledges frame r := by
  cases frame with
  | response id body =>
    left
    show r ∈ (w.receiveResponse id body).records
    unfold receiveResponse
    split
    · exact hr
    · rename_i n state hcall
      split
      · exact publish_retains h hcall hr hover
      · exact hr
    · exact hr
  | request id command =>
    by_cases hnew : w.last < id
    · have hread : ({ w with last := id } : Worker).Keeps := h.same rfl rfl fun _ _ _ hc => hc
      have heq : w.receive (.request id command) = ({ w with last := id } : Worker).handle
          { id, command } :=
        if_pos hnew
      rcases handle_retains hread { id, command } hr with hkept | ⟨ref, hcommand, hid, hack⟩
      · exact .inl (heq ▸ hkept)
      · exact .inr ⟨id, ref, congrArg _ hcommand, hid, heq ▸ hack⟩
    · left
      have heq : w.receive (.request id command) =
          (w.write (.response id (.error { code := .invalidFrame }))).hangUp := if_neg hnew
      rw [heq]
      exact mem_records (cursor_write w _) hr

end

/-- The step puts this answer to the request in its tasks, and nothing else. -/
def Answers (w : Worker) (request : Request) (body : Body) : Prop :=
  (w.receive (.request request.id request.command)).tasks = w.tasks ++ [.answer request body]

section
variable {w : Worker}

theorem Answers.read {request : Request} {body : Body} (h : w.Answers request body) :
    w.receive (.request request.id request.command) =
      ({ w with last := request.id } : Worker).handle request := by
  by_cases hnew : w.last < request.id
  · exact if_pos hnew
  · have heq : w.receive (.request request.id request.command) =
        (w.write (.response request.id (.error { code := .invalidFrame }))).hangUp := if_neg hnew
    have htasks : (w.write (.response request.id (.error { code := .invalidFrame }))).hangUp.tasks =
        w.tasks := by
      unfold write
      split <;> rfl
    have hlen := congrArg List.length h
    rw [heq, htasks] at hlen
    simp at hlen

theorem ack_moves (h : w.Keeps) {id : Nat} {ref : RunRef}
    (hok : w.Answers ⟨id, .ack ref⟩ (.result .empty)) :
    let c := (w.receive (.request id (.ack ref))).cursor
    (c = w.cursor ∧ ∃ n, runNumber ref.runID = some (w.generation, n) ∧ n ≤ w.acknowledged) ∨
      ∃ first rest, w.records = first :: rest ∧ first.state ≠ .running ∧
        first.ref.runID = ref.runID ∧
        c = { w.cursor with acknowledged := first.sequence, records := rest } := by
  intro c
  have heq : w.receive (.request id (.ack ref)) = ({ w with last := id } : Worker).ackRun
      ⟨id, .ack ref⟩ ref := hok.read
  unfold Answers at hok
  simp only [c]
  rw [heq] at hok ⊢
  rcases ackRun_cases { w with last := id } ⟨id, .ack ref⟩ ref with
    ⟨code, hcase⟩ | ⟨hcase, hold⟩ | ⟨n, first, rest, hnumber, hrecords, hid, hstate, hcase⟩
  · rw [hcase] at hok
    simp [refuse, answer, spawn] at hok
  · rw [hcase]
    exact .inl ⟨rfl, hold⟩
  · have hfirst : first ∈ w.records := by
      have hrecords : w.records = first :: rest := hrecords
      simp [hrecords]
    have hsame := h.generation first hfirst
    rw [hid, hnumber] at hsame
    cases hsame
    rw [hcase]
    exact .inr ⟨first, rest, hrecords, hstate, hid, rfl⟩

theorem refused_run (w : Worker) {id : Nat} {command : Command} {e : RPCError}
    (hstarts : startsRun command = true) (hrefused : w.Answers ⟨id, command⟩ (.error e)) :
    (w.receive (.request id command)).cursor = w.cursor := by
  have heq : w.receive (.request id command) = ({ w with last := id } : Worker).handle
      ⟨id, command⟩ := hrefused.read
  have hexecute : ∀ ref seed,
      (({ w with last := id } : Worker).execute ⟨id, command⟩ ref seed).tasks =
        w.tasks ++ [.answer ⟨id, command⟩ (.error e)] →
      (({ w with last := id } : Worker).execute ⟨id, command⟩ ref seed).cursor = w.cursor := by
    intro ref seed htasks
    rcases execute_cases { w with last := id } ⟨id, command⟩ ref seed
      with ⟨code, hcase⟩ | ⟨r, -, hcase⟩
    · rw [hcase]
      rfl
    · rw [hcase] at htasks
      simp at htasks
  unfold Answers at hrefused
  rw [heq] at hrefused ⊢
  unfold startsRun at hstarts
  split at hstarts
  · exact hexecute _ _ hrefused
  · rename_i p
    have hseed : ({ w with last := id } : Worker).handle ⟨id, .deliver p⟩ =
        ({ w with last := id } : Worker).execute ⟨id, .deliver p⟩
        { sessionID := w.sessionID, runID := p.runID }
          (some { p with runID := "" }) := if_pos (by simpa using hstarts)
    rw [hseed] at hrefused ⊢
    exact hexecute _ _ hrefused
  · cases hstarts

end

/-- The cursor is valid; a record whose run is over stays as it is until its acknowledgment, which
removes the first record or moves nothing; a refused run moves nothing. -/
theorem cursor_invariant (w : Worker) (events : List Event) (fresh : w.Fresh) :
    let t := w.steps events
    t.cursor.Valid ∧
      (∀ e, ∀ r ∈ t.records, r.state ≠ .running →
        r ∈ (t.step e).records ∨ ∃ frame, e = .receive frame ∧ t.Acknowledges frame r) ∧
      (∀ id ref, t.Answers ⟨id, .ack ref⟩ (.result .empty) →
        let c := (t.receive (.request id (.ack ref))).cursor
        (c = t.cursor ∧ ∃ n, runNumber ref.runID = some (t.generation, n) ∧ n ≤ t.acknowledged) ∨
          ∃ first rest, t.records = first :: rest ∧ first.state ≠ .running ∧
            first.ref.runID = ref.runID ∧
            c = { t.cursor with acknowledged := first.sequence, records := rest }) ∧
      ∀ id command e, startsRun command = true → t.Answers ⟨id, command⟩ (.error e) →
        (t.receive (.request id command)).cursor = t.cursor := by
  intro t
  have ht : t.Keeps := fresh.keeps.steps events
  refine ⟨ht.valid, ?_, fun id ref => ack_moves ht, fun id command e => refused_run t⟩
  intro e r hr hover
  cases e with
  | receive frame =>
    rcases receive_retains ht frame hr hover with hkept | hack
    · exact .inl hkept
    · exact .inr ⟨frame, rfl, hack⟩
  | act a => exact .inl (mem_records (cursor_act t a) hr)

/-! One run is over and the next one is running when the first is acknowledged. -/

def newWorker : Worker where
  sessionID := "w"

def twoRuns : List Event :=
  [.receive (.request 1 (.execute { sessionID := "w", runID := "g/1", input := "go" })),
    .act .start, .act (.finish (.error "lost") true), .act .announce,
    .receive (.response 1 (.result .empty)),
    .receive (.request 2 (.execute { sessionID := "w", runID := "g/2", input := "go" }))]

theorem newWorker_fresh : newWorker.Fresh := ⟨rfl, ⟨rfl, rfl⟩, rfl, ⟨rfl, rfl⟩, by simp [newWorker]⟩

theorem cursor_invariant_twoRuns :
    let t := newWorker.steps twoRuns
    t.cursor.Valid ∧ t.records.map (·.sequence) = [1, 2] ∧
      ((t.receive (.request 3 (.ack { sessionID := "w", runID := "g/1" }))).records.map
        (·.sequence) = [2]) ∧
      (t.receive (.request 3
        (.execute { sessionID := "w", runID := "g/3", input := "go" }))).cursor = t.cursor := by
  have h := cursor_invariant newWorker twoRuns newWorker_fresh
  exact ⟨h.1, by decide +kernel, by decide +kernel,
    h.2.2.2 3 (.execute { sessionID := "w", runID := "g/3", input := "go" }) { code := .busy } rfl
      (by unfold Answers; decide +kernel)⟩

end Worker

end Sessionbus
