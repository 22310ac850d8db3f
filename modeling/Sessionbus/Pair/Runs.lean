import Sessionbus.Names
import Sessionbus.Pair.Work

/-!
# Runs of a lane and its worker

Agreement in every state that a lane and its worker reach from the moment the lane is
committed, and what it says about runs that are taken back.
-/

namespace Sessionbus

open Session (runText FreshLane Base)

/-! ## The start -/

theorem randomID_good (bytes : Vector UInt8 12) : GoodGeneration (randomID "run" bytes) := by
  refine ⟨fun h => ?_, fun h => ?_⟩
  · have := congrArg String.toList h
    simp [randomID] at this
  · rcases randomID_alphabet h with h | h | h
    · exact absurd h (by decide)
    · exact absurd h (by decide)
    · exact absurd h (by decide)

theorem openedID_qualify {name id host : String} (hname : name ≠ "") (hid : id ≠ "")
    (hhost : '@' ∉ host.toList) : Worker.openedID (qualify name host) id = qualify id host := by
  have hall : ∀ c ∈ host.toList.reverse, (c != '@') = true := by
    intro c hc
    simp only [bne_iff_ne, ne_eq]
    rintro rfl
    exact hhost (List.mem_reverse.mp hc)
  have htext : (qualify name host).toList.reverse = host.toList.reverse ++
      '@' :: name.toList.reverse := by
    simp [qualify, hname]
  unfold Worker.openedID Worker.hostPart
  rw [htext, List.dropWhile_append_of_pos hall, List.takeWhile_append_of_pos hall,
    qualify, if_neg hid]
  apply String.toList_inj.mp
  simp

/-- A lane right after its launch was committed, and the worker whose open result committed it. -/
structure FreshPair (p : Pair) : Prop where
  lane : FreshLane p.daemon
  unclosed : p.daemon.closeCall = none
  generation : p.daemon.runGeneration = "" ∧
    ∃ bytes, p.daemon.randomGeneration = randomID "run" bytes
  session : ∃ name id host, name ≠ "" ∧ id ≠ "" ∧ '@' ∉ host.toList ∧
    p.daemon.item.row.sessionID = qualify id host ∧
    p.worker.sessionID = Worker.openedID (qualify name host) id
  opened : p.worker.opened = true
  runs : p.worker.generation = "" ∧ p.worker.lastSequence = 0 ∧ p.worker.acknowledged = 0 ∧
    p.worker.records = []
  idle : p.worker.run = none ∧ p.worker.turn = none ∧ p.worker.tasks = []
  read : p.worker.last ≤ p.daemon.nextOut
  down : ∀ f ∈ p.down ++ p.daemon.wire.outbox, f.requestID = none
  up : ∀ f ∈ p.worker.up, ∃ k method, f = .client k method
  calls : ∀ k x, p.worker.calls.lookup k = some x → x = .client ∧ k ≤ p.worker.next
  numbered : Trace.Ascending p.daemon.lastIn p.worker.next (p.worker.up.filterMap UpFrame.requestID)

namespace FreshPair

variable {env : Env} {p : Pair}

theorem path (h : FreshPair p) : ∀ f ∈ p.daemon.path p.down, ∃ k body, f = .response k body := by
  intro f hf
  have hmem : f ∈ p.down ++ p.daemon.wire.outbox := by
    unfold Session.path at hf
    rcases List.mem_append.mp hf with hf | hf
    · exact List.mem_append_left _ hf
    · split at hf
      · cases hf
      · exact List.mem_append_right _ hf
  have := h.down f hmem
  cases f with
  | response k body => exact ⟨k, body, rfl⟩
  | request k c => cases this

theorem agree (h : FreshPair p) : Agree p.daemon.view (p.daemon.path p.down) p.worker := by
  obtain ⟨hnone, bytes, hbytes⟩ := h.generation
  obtain ⟨name, id, host, hname, hid, hhost, hrow, hopened⟩ := h.session
  obtain ⟨hgen, hlast, hack, hrec⟩ := h.runs
  obtain ⟨hrun, hturn, htasks⟩ := h.idle
  obtain ⟨hseq, hackd⟩ := h.lane.unused
  have hg : p.daemon.nextGeneration = randomID "run" bytes := by
    rw [Session.nextGeneration, if_pos hnone, hbytes]
  have hno : ∀ {P : Prop} k q, p.daemon.view.pending.lookup k = some q → P := by
    intro P k q hk
    have hk : p.daemon.pending.lookup k = some q := hk
    rw [h.lane.calls] at hk
    cases hk
  have hcalm : ∀ f ∈ p.daemon.path p.down, f.run = none := by
    intro f hf
    obtain ⟨k, body, rfl⟩ := h.path f hf
    rfl
  have hids : (p.daemon.path p.down).filterMap OutFrame.requestID = [] := by
    refine List.filterMap_eq_nil_iff.mpr fun f hf => ?_
    obtain ⟨k, body, rfl⟩ := h.path f hf
    rfl
  have hnoReady : ∀ f ∈ p.worker.up, f.isReady = false := by
    intro f hf
    obtain ⟨k, method, rfl⟩ := h.up f hf
    rfl
  refine ⟨by rw [show p.daemon.view.generation = _ from hg]; exact randomID_good bytes,
    fun hne => absurd h.lane.idle hne, ?_, ?_, ?_⟩
  · constructor
    case opened => exact h.opened
    case session => exact (hopened.trans (openedID_qualify hname hid hhost)).trans hrow.symm
    case generation => rw [hgen, hlast, if_pos rfl]
    case acknowledged => rw [hack]; exact hackd.le
    case acked => rw [hack]; exact Nat.zero_le _
    case records => simp [hrec, hlast]
    case current => intro t ht; rw [hturn] at ht; cases ht
    case origin => intro t ht; rw [hturn] at ht; cases ht
    case slot => intro m hm; rw [hrun] at hm; cases hm
    case announced => intro t k ht; rw [hturn] at ht; cases ht
    case waiting => intro k m state hk; cases (h.calls k _ hk).1
    case called => exact fun k x hk => (h.calls k x hk).2
  · constructor
    case down => exact ⟨h.read, by rw [hids]; simp, by rw [hids]; simp⟩
    case up => exact h.numbered
    case seeds => exact fun k q hk => hno k q hk
    case commands => exact fun k c q _ hk => hno k q hk
    case lanes => intro k q hk; obtain ⟨j, body, heq⟩ := h.path _ hk; cases heq
    case answers => intro k body hk; obtain ⟨j, method, heq⟩ := h.up _ hk; cases heq
    case tasks => intro t ht; rw [htasks] at ht; cases ht
    case turn => intro t ht; rw [hturn] at ht; cases ht
    case closing => intro hw; rw [hrun] at hw; cases hw
    case closes =>
      exact List.pairwise_iff_forall_sublist.mpr fun hs _ => hcalm _ (hs.subset (by simp))
    case closeSent => intro f hf hc; obtain ⟨k, body, rfl⟩ := h.path f hf; cases hc
  · refine .idle h.lane.idle hcalm (hlast.trans hseq.symm) hnoReady ?_ (.inr (.inr ?_))
    · intro t ht; rw [hturn] at ht; cases ht
    · intro t ht; rw [hturn] at ht; cases ht

end FreshPair

/-! ## Steps -/

/-- What holds between steps. -/
structure Together (env : Env) (p : Pair) : Prop where
  base : Base env p.daemon
  agree : Agree p.daemon.view (p.daemon.path p.down) p.worker

section
variable {env : Env} {p : Pair}

theorem FreshPair.together (h : FreshPair p) : Together env p := ⟨h.lane.between.base, h.agree⟩

/-- The agreement after a step, and what the session took back in it. -/
structure Stepped (env : Env) (start : List Act) (p : Pair) : Prop extends Together env p where
  spared : Spared start p.worker p.daemon

theorem Spared.refl (w : Worker) (s : Session) : Spared s.history w s := ⟨[], by simp, by simp⟩

theorem Together.joint (h : Together env p) (got : Option InFrame)
    (hand : Hand got p.daemon.view p.worker) :
    Joint env got p.daemon.history p.down p.worker p.daemon :=
  ⟨h.base, h.agree, hand, .refl _ _⟩

theorem Together.event (h : Together env p) {e : Event} (he : e.external = true) :
    Stepped env p.daemon.history { p with daemon := p.daemon.handleEvent env e } := by
  have hnone : e.received = none := by cases e <;> first | rfl | cases he
  have hwritten : e ≠ .written := by rintro rfl; cases he
  have hturns := Session.handleEvent_turns env p.daemon e hwritten
  rw [hnone] at hturns
  have hj := (h.joint none trivial).turns hturns (by simp)
  exact ⟨⟨hj.base, hj.agree⟩, hj.spared⟩

theorem Together.write (h : Together env p) : Stepped env p.daemon.history (p.write env) := by
  unfold Pair.write
  split
  · exact ⟨h, .refl _ _⟩
  · rename_i frame rest hout
    refine ⟨⟨{ h.base with core := { h.base.core with } }, ?_⟩, .refl _ _⟩
    have hpath : (p.daemon.handleEvent env .written).path
        (if p.daemon.wire.fdClosed then p.down else p.down ++ [frame]) = p.daemon.path p.down := by
      simp only [Session.handleEvent, Session.path, Wire.taken, hout]
      split <;> simp
    simp only [hpath]
    exact h.agree

theorem Together.receive (h : Together env p) (verdict : Verdict) :
    Stepped env p.daemon.history (p.receive env verdict) := by
  unfold Pair.receive
  split
  · exact ⟨h, .refl _ _⟩
  · rename_i frame rest hup
    have hdrop := h.agree.drop hup
    have hids := h.agree.flight.up
    rw [hup] at hids
    have hstep {got : InFrame} (hand : Hand (some got) p.daemon.view { p.worker with up := rest })
        (hready : ∀ id value, got ≠ .request id (.ready value)) :
        Stepped env p.daemon.history
          { p with daemon := p.daemon.handleEvent env (.frame got),
                   worker := { p.worker with up := rest } } := by
      have hj :
          Joint env (some got) p.daemon.history p.down { p.worker with up := rest } p.daemon :=
        ⟨h.base, hdrop, hand, .refl _ _⟩
      have hj := hj.turns (Session.handleEvent_turns env p.daemon (.frame got) (by simp))
          (by simpa using hready)
      exact ⟨⟨hj.base, hj.agree⟩, hj.spared⟩
    cases frame with
    | response k body =>
      obtain ⟨hle, hhonest⟩ := h.agree.flight.answers k body (by simp [hup])
      simp only [UpFrame.decoded]
      split
      · exact hstep ⟨hle, hhonest⟩ (by simp)
      · exact hstep trivial (by simp)
    | client k method =>
      simp only [UpFrame.decoded]
      split
      · exact hstep hids.tail.2 (by rintro id value ⟨⟩)
      · exact hstep trivial (by simp)
    | ready k value =>
      have hpos : 0 < k := by have := hids.tail.1; omega
      simp only [UpFrame.decoded, dif_pos hpos]
      have hj := (h.joint none trivial).ready (k := ⟨k, hpos⟩) hup
      exact ⟨⟨hj.base, hj.agree⟩, hj.spared⟩

theorem Together.capacity (h : Together env p) :
    p.daemon.view.runSequence ≤ p.daemon.view.acknowledged + maxOperations :=
  (Nat.le_add_right _ _).trans h.base.core.capacity

theorem Together.read (h : Together env p) : Stepped env p.daemon.history p.read := by
  unfold Pair.read
  split
  · exact ⟨h, .refl _ _⟩
  · rename_i hopen
    split
    · exact ⟨h, .refl _ _⟩
    · rename_i frame rest hdown
      refine ⟨⟨h.base, ?_⟩, .refl _ _⟩
      have hagree := h.agree
      rw [hdown] at hagree
      exact hagree.receive (by simpa using hopen) h.capacity

theorem Together.step (h : Together env p) {a : Pair.Action} (ha : a.refusesSeed = false) :
    Stepped env p.daemon.history (p.step env a) := by
  cases a with
  | event e =>
    simp only [Pair.step]
    split
    · rename_i he
      exact h.event he
    · exact ⟨h, .refl _ _⟩
  | write => exact h.write
  | receive verdict => exact h.receive verdict
  | read => exact h.read
  | work a => exact ⟨⟨h.base, h.agree.act ha⟩, .refl _ _⟩

theorem Together.run (h : Together env p) (actions : List Pair.Action)
    (ha : ∀ a ∈ actions, a.refusesSeed = false) : Together env (p.run env actions) := by
  induction actions generalizing p with
  | nil => exact h
  | cons a actions ih =>
    exact ih (h.step (ha a (by simp))).toTogether fun b hb => ha b (List.mem_cons_of_mem _ hb)

end

/-! ## Agreement -/

namespace Pair

/-- A run that is next for the kit has the daemon's generation and the worker's next number, and is
admitted. -/
def RunsArrive (p : Pair) : Prop :=
  ∀ k c id rest, p.worker.closed = false → p.down = .request k c :: rest → c.run = some id →
    runNumber id = some (p.daemon.nextGeneration, p.worker.lastSequence + 1) ∧
    (p.worker.generation = "" ∨ p.worker.generation = p.daemon.nextGeneration) ∧
    ∃ seed, p.worker.receive (.request k c) = { p.worker with last := k }.admitRun ⟨k, c⟩
    ⟨p.worker.sessionID, id⟩
      seed p.daemon.nextGeneration (p.worker.lastSequence + 1)

/-- A `turn.ready` that is next for the daemon names its current run. -/
def ReadyNames (p : Pair) : Prop :=
  ∀ k x rest, p.worker.up = .ready k x :: rest → x.runID = p.daemon.runID ∧
    p.daemon.readyMatches x = true

end Pair

section
variable {env : Env} {p : Pair}

theorem Together.runsArrive (h : Together env p) : p.RunsArrive := by
  intro k c id rest hopen hdown hrun
  have hagree : Agree p.daemon.view (.request k c :: p.daemon.path rest) p.worker := by
    have := h.agree
    rw [hdown] at this
    exact this
  have ha := hagree.arrives hopen hrun h.capacity
  obtain ⟨seed, -, heq⟩ := hagree.receive_run ha hrun
  refine ⟨?_, ?_, seed, ?_⟩
  · rw [ha.id]
    exact runNumber_runText h.agree.good (Nat.succ_pos _)
  · rw [h.agree.kit.generation]
    split
    · exact .inl rfl
    · exact .inr rfl
  · rw [h.agree.kit.session]
    exact heq

theorem Together.readyNames (h : Together env p) : p.ReadyNames := by
  intro k x rest hup
  have hmatches := (ready_matches h.base h.agree hup).1
  refine ⟨?_, hmatches⟩
  simp only [Session.readyMatches, Bool.and_eq_true, beq_iff_eq] at hmatches
  exact hmatches.2

theorem Together.lastSequence_le (h : Together env p) :
    p.worker.lastSequence ≤ p.daemon.runSequence := by
  cases h.agree.phase with
  | idle none calm same => exact same.le
  | requested run frame next => exact (Nat.le_succ _).trans next.le
  | accepted run calm same => exact same.le
  | lost run dead calm next => exact (Nat.le_succ _).trans next.le

end

/-- A lane and its worker agree on their runs, whatever the order of frames, events and goroutines.
-/
theorem runs_agree (env : Env) (p : Pair) (actions : List Pair.Action) (fresh : FreshPair p)
    (honest : ∀ a ∈ actions, a.refusesSeed = false) :
    let q := p.run env actions
    q.RunsArrive ∧ q.ReadyNames ∧ q.daemon.acknowledgedSequence ≤ q.worker.acknowledged ∧
      (q.worker.records.length : Int) ≤ q.daemon.runSequence - q.daemon.acknowledgedSequence := by
  intro q
  have h : Together env q := fresh.together.run actions honest
  refine ⟨h.runsArrive, h.readyNames, h.agree.kit.acknowledged, ?_⟩
  have hack : q.daemon.acknowledgedSequence ≤ q.worker.acknowledged := h.agree.kit.acknowledged
  have hacked := h.agree.kit.acked
  have hle := h.lastSequence_le
  rw [h.agree.records_length]
  omega

/-! A delivery seeds a run of an idle lane. -/

def newPair : Pair where
  daemon := { Session.newLane with
    item :=
      { Session.newLane.item with row := { sessionID := "w@h", product := "p", name := "lane@h" } }
    randomGeneration := randomID "run" (.replicate 12 0) }
  worker := { sessionID := "w@h" }

theorem newPair_fresh : FreshPair newPair where
  lane := { Session.newLane_fresh with }
  unclosed := rfl
  generation := ⟨rfl, _, rfl⟩
  session := ⟨"lane", "w", "h", by decide, by decide, by decide, by decide, by decide⟩
  opened := rfl
  runs := ⟨rfl, rfl, rfl, rfl⟩
  idle := ⟨rfl, rfl, rfl⟩
  read := le_rfl
  down := by simp [newPair, Session.newLane]
  up := by simp [newPair]
  calls := by simp [newPair]
  numbered := .nil le_rfl

def greeting : DeliveryRequest :=
  { messageID := "m1", source := { sessionID := "s@h", product := "p", groups := ["g"] },
    body := "hello" }

def deliverHello : Pair.Action :=
  .event (.routed { destination := some 2, call := .deliver greeting, reply := 1 })

theorem runs_agree_deliverHello :
    let q := newPair.run Session.openEnv [deliverHello, .write]
    q.down.filterMap OutFrame.run = ["run-aaaaaaaaaaaa/1"] ∧ q.RunsArrive :=
  ⟨by decide +kernel,
    (runs_agree Session.openEnv newPair [deliverHello, .write] newPair_fresh (by decide)).1⟩

/-! ## Taking runs back -/

namespace Pair

/-- The worker has neither a record of the run nor a slot for it. -/
def Unknown (p : Pair) (id : String) : Prop :=
  (∀ r ∈ p.worker.records, r.ref.runID ≠ id) ∧ (∀ t, p.worker.turn = some t → t.ref.runID ≠ id) ∧
    ∀ n, p.worker.run = some (.turn n) → runText p.daemon.nextGeneration n ≠ id

end Pair

section
variable {env : Env} {p : Pair}

theorem runText_injective {g : String} {m n : Nat} (h : runText g m = runText g n) : m = n := by
  have htext := congrArg String.toList h
  simp only [runText, String.toList_append] at htext
  exact Text.formatUint_injective (String.toList_inj.mp (List.append_cancel_left htext))

theorem Together.unknown (h : Together env p) {n : Nat} (hn : p.worker.lastSequence < n) :
    p.Unknown (runText p.daemon.nextGeneration n) := by
  have hkit := h.agree.kit
  have hne : ∀ {m}, m ≤ p.worker.lastSequence →
      runText p.daemon.nextGeneration m ≠ runText p.daemon.nextGeneration n := by
    intro m hm heq
    have := runText_injective heq
    omega
  refine ⟨fun r hr => ?_, fun t ht => ?_, fun m hm => ?_⟩
  · have hmem := List.mem_map_of_mem (f := fun r : Record => (r.ref.runID, r.sequence)) hr
    rw [hkit.records] at hmem
    obtain ⟨m, hm, heq⟩ := List.mem_map.mp hmem
    rw [List.mem_range'_1] at hm
    have hacked := hkit.acked
    rw [← (Prod.mk.inj heq).1]
    exact hne (by omega)
  · rw [(hkit.current t ht).2]
    exact hne le_rfl
  · obtain ⟨t, ht, hseq⟩ := hkit.slot m hm
    refine hne ?_
    rw [← hseq, (hkit.current t ht).1]

end

/-- A run that the daemon takes back is not known to the worker, and no later run is out of step, as
long as the product refuses no seeded run. -/
theorem rollback_sound (env : Env) (p : Pair) (actions : List Pair.Action) (a : Pair.Action)
    (fresh : FreshPair p) (honest : ∀ b ∈ actions ++ [a], b.refusesSeed = false) :
    let q := p.run env actions
    let q' := q.step env a
    (∃ l, q'.daemon.history = q.daemon.history ++ l ∧
        ∀ act ∈ l, ∀ id, q'.daemon.TakesBack id act → q'.Unknown id) ∧
      q'.RunsArrive ∧ q'.ReadyNames := by
  intro q q'
  have hq : Together env q := fresh.together.run actions fun b hb =>
      honest b (List.mem_append_left _ hb)
  have hq' : Stepped env q.daemon.history q' := hq.step (honest a (by simp))
  refine ⟨?_, hq'.runsArrive, hq'.readyNames⟩
  obtain ⟨l, hl, hback⟩ := hq'.spared
  refine ⟨l, hl, fun act hact id hid => ?_⟩
  obtain ⟨n, rfl, hn⟩ := hback act hact id hid
  exact hq'.unknown hn

/-- A run whose frame does not encode is taken back. -/
theorem rollback_sound_unsent :
    let env := { Session.openEnv with encodes := fun _ _ => false }
    let q := newPair.step env deliverHello
    q.daemon.history.map (fun a => decide (a.keepsRuns = true)) = [true, false, true] ∧
      q.daemon.runSequence = 0 ∧ q.Unknown "run-aaaaaaaaaaaa/1" := by
  intro env q
  refine ⟨by decide +kernel, by decide +kernel, ?_⟩
  obtain ⟨⟨l, hl, hback⟩, -⟩ := rollback_sound env newPair [] deliverHello newPair_fresh (by decide)
  have hmem :
      Act.unsent 1 (.deliver { greeting with runID := "run-aaaaaaaaaaaa/1" }) false ∈ l := by
    have hnil : (newPair.run env []).daemon.history = [] := rfl
    rw [hnil, List.nil_append] at hl
    rw [← hl]
    decide +kernel
  exact hback _ hmem _ rfl

/-- The product refuses the run that it was seeded with. -/
def refusedSeed : List Pair.Action :=
  [deliverHello, .write, .read, .work (.report .notRunning), .receive (.reject .internal)]

def readyAfter : List Pair.Action :=
  [.work (.finish (.error "stopped") true), .work .announce, .receive (.reject .internal)]

/-- The daemon takes back a run whose record the worker holds, and then rejects its `turn.ready`. -/
theorem refusedSeed_known :
    let q := newPair.run Session.openEnv refusedSeed
    let q' := q.run Session.openEnv readyAfter
    FreshPair newPair ∧
      (Act.refused 1 ∈ q.daemon.history ∧ q.daemon.runID = "" ∧ q.daemon.runSequence = 0) ∧
      (q.worker.records.map (fun r => r.ref.runID) = ["run-aaaaaaaaaaaa/1"] ∧
        q.worker.run = some (.turn 1)) ∧
      q'.daemon.wire.outbox = [.response 1 (.error { code := .invalidFrame })] ∧
      q'.daemon.wire.finishing = true :=
  ⟨newPair_fresh, by decide +kernel, by decide +kernel, by decide +kernel⟩

end Sessionbus
