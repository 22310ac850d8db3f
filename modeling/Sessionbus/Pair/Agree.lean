import Sessionbus.Pair.View

/-!
# How the two ends agree

The invariant of a lane and its worker, with what is under way between them. `path` is every
frame that the session queued and the worker may still read, in order.
-/

namespace Sessionbus

open Session (runText runText_ne)

/-! ## Run IDs -/

/-- What `randomID` draws can stand before the slash of a run ID. -/
def GoodGeneration (g : String) : Prop := g ≠ "" ∧ '/' ∉ g.toList

theorem runNumber_runText {g : String} {n : Nat} (hg : GoodGeneration g) (hn : 0 < n) :
    runNumber (runText g n) = some (g, n) := by
  unfold runNumber runText
  rw [Text.cut_append g _ '/' hg.2]
  simp [Text.parseUint_formatUint, hg.1, hn]

/-- The daemon reads a run ID that the kit accepts as the same number. -/
theorem runNumber_eq {id g tail : String} {m n : Nat} {g' : String}
    (h : runNumber id = some (g', n)) (hcut : Text.cut id '/' = some (g, tail))
    (hnum : Text.parseUint tail = some m) : g' = g ∧ n = m := by
  unfold runNumber at h
  rw [hcut] at h
  simp only [hnum] at h
  split at h
  · cases h
    exact ⟨rfl, rfl⟩
  · cases h

/-! ## Frames under way -/

def UpFrame.requestID : UpFrame → Option Nat
  | .response _ _ => none
  | .ready id _ => some id
  | .client id _ => some id

def UpFrame.isReady : UpFrame → Bool
  | .ready _ _ => true
  | _ => false

/-- The kit's answer rolls no run back, and a confirmed acknowledgement is one of a run that it has
let go. -/
def Honest (acknowledged : Nat) (c : Command) (body : Body) : Prop :=
  (c.run ≠ none → ∀ e, body = .error e → c.method = .deliver ∧ e.code = .internal) ∧
    ∀ ref payload, c = .ack ref → body = .result payload →
      ∃ g n, runNumber ref.runID = some (g, n) ∧ n ≤ acknowledged

/-- Commands that any answer is honest for. -/
def Command.free (c : Command) : Prop := c.run = none ∧ c.method ≠ .ack

def Task.Honest (acknowledged : Nat) : Task → Prop
  | .answer r body => Sessionbus.Honest acknowledged r.command body
  | t => t.request.command.free

/-- The `turn.ready` of the current run is acknowledged on the path before any run starts there. -/
def AckedIn (path : List OutFrame) (turn : Option Turn) : Prop :=
  ∀ t, turn = some t → ∃ k a b, t.stage = .ready k ∧ path = a ++ .response k (.result .empty) :: b ∧
    ∀ f ∈ a, f.run = none

/-- The product has returned from the run that holds the slot. -/
def Over (turn : Option Turn) : Prop := ∀ t, turn = some t → ∃ k, t.stage = .ready k

/-- Where the current run stands: nowhere, on its way to the worker, at the worker, or lost with the
connection. -/
inductive Phase (v : View) (path : List OutFrame) (last : Nat) (up : List UpFrame)
    (turn : Option Turn) (closed : Bool) : Prop
  | idle (none : v.runID = "") (calm : ∀ f ∈ path, f.run = Option.none)
      (same : last = v.runSequence) (noReady : ∀ f ∈ up, f.isReady = false) (past : Over turn)
      (acked : closed = true ∨ v.dead = true ∨ AckedIn path turn)
  | requested (run : v.runID ≠ "") (frame : path.filterMap OutFrame.run = [v.runID])
      (next : last + 1 = v.runSequence) (noReady : ∀ f ∈ up, f.isReady = false) (past : Over turn)
      (acked : closed = true ∨ AckedIn path turn)
  | accepted (run : v.runID ≠ "") (calm : ∀ f ∈ path, f.run = Option.none)
      (same : last = v.runSequence) (ready : ∀ k x, .ready k x ∈ up → x.sessionID = v.sessionID ∧
        x.runID = v.runID ∧ ∀ t, turn = some t → t.stage = .ready k)
      (once : (up.filter UpFrame.isReady).length ≤ 1)
  | lost (run : v.runID ≠ "") (dead : v.dead = true) (calm : ∀ f ∈ path, f.run = Option.none)
      (next : last + 1 = v.runSequence) (noReady : ∀ f ∈ up, f.isReady = false) (past : Over turn)

theorem Phase.congr {v v' : View} {path : List OutFrame} {last : Nat} {up : List UpFrame}
    {turn : Option Turn} {closed : Bool} (h : Phase v path last up turn closed)
    (hs : v'.sessionID = v.sessionID) (hr : v'.runID = v.runID)
    (hn : v'.runSequence = v.runSequence) (hd : v'.dead = v.dead) :
    Phase v' path last up turn closed := by
  cases h with
  | idle none calm same noReady past acked =>
    exact .idle (hr.trans none) calm (same.trans hn.symm) noReady past (by rw [hd]; exact acked)
  | requested run frame next noReady past acked =>
    exact .requested (by rw [hr]; exact run) (by rw [hr]; exact frame)
      (next.trans hn.symm) noReady past acked
  | accepted run calm same ready once =>
    exact .accepted (by rw [hr]; exact run) calm (same.trans hn.symm)
      (by rw [hs, hr]; exact ready) once
  | lost run dead calm next noReady past =>
    exact .lost (by rw [hr]; exact run) (hd.trans dead) calm (next.trans hn.symm) noReady past

/-! ## The invariant -/

/-- The worker's own books. -/
structure Kit (v : View) (w : Worker) : Prop where
  opened : w.opened = true
  session : w.sessionID = v.sessionID
  generation : w.generation = if w.lastSequence = 0 then "" else v.generation
  acknowledged : v.acknowledged ≤ w.acknowledged
  acked : w.acknowledged ≤ w.lastSequence
  records : w.records.map (fun r => (r.ref.runID, r.sequence)) =
    (List.range' (w.acknowledged + 1) (w.lastSequence - w.acknowledged)).map fun n =>
      (runText v.generation n, n)
  current : ∀ t, w.turn = some t → t.sequence = w.lastSequence ∧
    t.ref = ⟨v.sessionID, runText v.generation w.lastSequence⟩
  origin : ∀ t, w.turn = some t → t.request.command.method =
    if t.seed.isSome then .deliver else .execute
  slot : ∀ m, w.run = some (.turn m) → ∃ t, w.turn = some t ∧ t.sequence = m
  announced : ∀ t k, w.turn = some t → t.stage = .ready k → w.closed = true ∨
    ∃ state, w.calls.lookup k = some (.ready t.sequence state)
  waiting : ∀ k m state, w.calls.lookup k = some (.ready m state) →
    ∃ t, w.turn = some t ∧ t.sequence = m ∧ t.stage = .ready k
  called : ∀ k x, w.calls.lookup k = some x → k ≤ w.next

/-- What is under way between the two. -/
structure Flight (v : View) (path : List OutFrame) (w : Worker) : Prop where
  down : Numbered w.last v.nextOut path
  up : Trace.Ascending v.lastIn w.next (w.up.filterMap UpFrame.requestID)
  seeds : ∀ k p, v.pending.lookup k = some p → p.command.method ≠ .close →
    p.request.runID = p.command.seed
  commands : ∀ k c p, .request k c ∈ path → v.pending.lookup k = some p → p.command = c
  lanes : ∀ k p, .request k (.execute p) ∈ path → p.sessionID = v.sessionID
  answers : ∀ k body, .response k body ∈ w.up → k ≤ w.last ∧
    ∀ p, v.pending.lookup k = some p → Honest w.acknowledged p.command body
  tasks : ∀ t ∈ w.tasks, t.request.id ≤ w.last ∧ t.Honest w.acknowledged ∧
    ∀ p, v.pending.lookup t.request.id = some p → p.command = t.request.command
  turn : ∀ t, w.turn = some t → t.request.id ≤ w.last ∧
    ∀ p, v.pending.lookup t.request.id = some p → p.command = t.request.command
  closing : w.run = some .closing → v.closing = true ∧ ∀ f ∈ path, f.run = none
  closes : path.Pairwise fun f g => f.isClose = true → g.run = none
  closeSent : ∀ f ∈ path, f.isClose = true → v.closing = true

structure Agree (v : View) (path : List OutFrame) (w : Worker) : Prop where
  good : GoodGeneration v.generation
  current : v.runID ≠ "" → v.runID = runText v.generation v.runSequence
  kit : Kit v w
  flight : Flight v path w
  phase : Phase v path w.lastSequence w.up w.turn w.closed

/-! ## Paths -/

theorem AckedIn.append {path : List OutFrame} {turn : Option Turn} (h : AckedIn path turn)
    (l : List OutFrame) : AckedIn (path ++ l) turn := by
  intro t ht
  obtain ⟨k, a, b, hk, hpath, ha⟩ := h t ht
  exact ⟨k, a, b ++ l, hk, by simp [hpath], ha⟩

theorem AckedIn.of_prefix {path path' : List OutFrame} {turn : Option Turn} (h : AckedIn path turn)
    (hpre : path' <+: path) (hrun : ∃ f ∈ path', f.run ≠ none) : AckedIn path' turn := by
  intro t ht
  obtain ⟨k, a, b, hk, hpath, ha⟩ := h t ht
  obtain ⟨rest, hrest⟩ := hpre
  obtain ⟨f, hf, hfrun⟩ := hrun
  rw [hpath] at hrest
  rcases List.append_eq_append_iff.mp hrest with ⟨c, rfl, -⟩ | ⟨c, hc, hack⟩
  · exact absurd (ha f (List.mem_append_left _ hf)) hfrun
  · rcases c with _ | ⟨x, c⟩
    · rw [List.append_nil] at hc
      rw [hc] at hf
      exact absurd (ha f hf) hfrun
    · simp only [List.cons_append, List.cons.injEq] at hack
      exact ⟨k, a, c, hk, by rw [hc, ← hack.1], ha⟩

/-- The first frame is read. If it is no acknowledgement of the current run, that is still
to come. -/
theorem AckedIn.tail {f : OutFrame} {path : List OutFrame} {turn : Option Turn}
    (h : AckedIn (f :: path) turn)
    (hf : ∀ t k, turn = some t → t.stage = .ready k → f ≠ .response k (.result .empty)) :
    AckedIn path turn := by
  intro t ht
  obtain ⟨k, a, b, hk, hpath, ha⟩ := h t ht
  rcases a with _ | ⟨x, a⟩
  · simp only [List.nil_append, List.cons.injEq] at hpath
    exact absurd hpath.1 (hf t k ht hk)
  · simp only [List.cons_append, List.cons.injEq] at hpath
    exact ⟨k, a, b, hk, hpath.2, fun g hg => ha g (List.mem_cons_of_mem _ hg)⟩

theorem run_append {path l : List OutFrame} (h : ∀ f ∈ l, f.run = none) :
    (path ++ l).filterMap OutFrame.run = path.filterMap OutFrame.run := by
  have : l.filterMap OutFrame.run = [] := List.filterMap_eq_nil_iff.mpr h
  rw [List.filterMap_append, this, List.append_nil]

namespace Agree

variable {v v' : View} {path path' l : List OutFrame} {w : Worker}

/-! ## Steps of the session -/

/-- The frames of a step are queued, or the descriptor was closed and some may be lost. -/
def Follows (v' : View) (path l path' : List OutFrame) : Prop :=
  v'.dead = false ∧ path' = path ++ l ∨ v'.dead = true ∧ path' <+: path

theorem Follows.mem (h : Follows v' path l path') {f : OutFrame} (hf : f ∈ path') :
    f ∈ path ∨ f ∈ l := by
  rcases h with ⟨-, rfl⟩ | ⟨-, hpre⟩
  · exact List.mem_append.mp hf
  · exact .inl (hpre.subset hf)

theorem phase_calm (h : Agree v path w) (hc : View.Calm v l v') (hp : Follows v' path l path') :
    Phase v' path' w.lastSequence w.up w.turn w.closed := by
  have hcalm : (∀ f ∈ path, f.run = none) → ∀ f ∈ path', f.run = none := by
    intro hpath f hf
    rcases hp.mem hf with hf | hf
    · exact hpath f hf
    · exact hc.plain f hf
  cases h.phase with
  | idle none calm same noReady past acked =>
    refine .idle (hc.runID.trans none) (hcalm calm) (same.trans hc.runSequence.symm) noReady past ?_
    rcases hp with ⟨-, rfl⟩ | ⟨hdead, -⟩
    · rcases acked with hclosed | hdead | hack
      · exact .inl hclosed
      · exact .inr (.inl (hc.dead hdead))
      · exact .inr (.inr (hack.append l))
    · exact .inr (.inl hdead)
  | requested run frame next noReady past acked =>
    have hrun : v'.runID ≠ "" := by rw [hc.runID]; exact run
    have hnext : w.lastSequence + 1 = v'.runSequence := next.trans hc.runSequence.symm
    rcases hp with ⟨-, rfl⟩ | ⟨hdead, hpre⟩
    · refine .requested hrun ?_ hnext noReady past (acked.imp_right fun h => h.append l)
      rw [run_append hc.plain, frame, hc.runID]
    · have hpre' := hpre.filterMap OutFrame.run
      rw [frame] at hpre'
      rcases List.prefix_cons_iff.mp hpre' with hnil | ⟨tail, hcons, htail⟩
      · exact .lost hrun hdead (List.filterMap_eq_nil_iff.mp hnil) hnext noReady past
      · rw [List.prefix_nil] at htail
        subst htail
        refine .requested hrun (hcons.trans (by rw [hc.runID])) hnext noReady past ?_
        refine acked.imp_right fun h => h.of_prefix hpre ?_
        have hmem : v.runID ∈ path'.filterMap OutFrame.run := by rw [hcons]; simp
        obtain ⟨f, hf, hfrun⟩ := List.mem_filterMap.mp hmem
        exact ⟨f, hf, by simp [hfrun]⟩
  | accepted run calm same ready once =>
    refine .accepted (by rw [hc.runID]; exact run) (hcalm calm)
      (same.trans hc.runSequence.symm) ?_ once
    rw [hc.sessionID, hc.runID]
    exact ready
  | lost run dead calm next noReady past =>
    exact .lost (by rw [hc.runID]; exact run) (hc.dead dead) (hcalm calm)
      (next.trans hc.runSequence.symm) noReady past

theorem numbered_calm (h : Agree v path w) (hn : Numbered v.nextOut v'.nextOut l)
    (hp : Follows v' path l path') : Numbered w.last v'.nextOut path' := by
  rcases hp with ⟨-, rfl⟩ | ⟨-, hpre⟩
  · exact h.flight.down.append hn
  · have hdown := h.flight.down
    refine ⟨hdown.le.trans hn.le, (hdown.increasing.sublist (hpre.sublist.filterMap _)),
      fun k hk => ?_⟩
    have := hdown.within k ((hpre.sublist.filterMap _).subset hk)
    have := hn.le
    omega

theorem calm (h : Agree v path w) (hc : View.Calm v l v') (hp : Follows v' path l path') :
    Agree v' path' w := by
  have hlast := h.flight.down.le
  have hsent : ∀ {k c}, OutFrame.request k c ∈ path → k ≤ v.nextOut := fun hk =>
    (h.flight.down.within _ (List.mem_filterMap.mpr ⟨_, hk, rfl⟩)).2
  refine ⟨by rw [hc.generation]; exact h.good, ?_, ?_, ?_, h.phase_calm hc hp⟩
  · rw [hc.runID, hc.generation, hc.runSequence]
    exact h.current
  · have hk := h.kit
    exact { hk with
      session := by rw [hc.sessionID]; exact hk.session
      generation := by rw [hc.generation]; exact hk.generation
      acknowledged := by rw [hc.acknowledged]; exact hk.acknowledged
      records := by rw [hc.generation]; exact hk.records
      current := by rw [hc.generation, hc.sessionID]; exact hk.current }
  · have hf := h.flight
    constructor
    case down => exact h.numbered_calm hc.numbered hp
    case up => rw [hc.lastIn]; exact hf.up
    case seeds =>
      intro k p hk hm
      rcases hc.pending k p hk with hk | ⟨-, hseed⟩
      · exact hf.seeds k p hk hm
      · exact hseed hm
    case commands =>
      intro k c p hk hlook
      rcases hp.mem hk with hk | hk
      · exact hf.commands k c p hk (hc.old (hsent hk) hlook)
      · exact hc.commands k c p hk hlook
    case lanes =>
      intro k p hk
      rw [hc.sessionID]
      rcases hp.mem hk with hk | hk
      · exact hf.lanes k p hk
      · have := hc.plain _ hk
        simp [OutFrame.run, Command.run] at this
    case answers =>
      intro k body hk
      obtain ⟨hle, hhonest⟩ := hf.answers k body hk
      exact ⟨hle, fun p hlook => hhonest p (hc.old (by omega) hlook)⟩
    case tasks =>
      intro t ht
      obtain ⟨hle, hhonest, hcommand⟩ := hf.tasks t ht
      exact ⟨hle, hhonest, fun p hlook => hcommand p (hc.old (by omega) hlook)⟩
    case turn =>
      intro t ht
      obtain ⟨hle, hcommand⟩ := hf.turn t ht
      exact ⟨hle, fun p hlook => hcommand p (hc.old (by omega) hlook)⟩
    case closing =>
      intro hw
      obtain ⟨hclosing, hplain⟩ := hf.closing hw
      refine ⟨hc.closing hclosing, fun f hf => ?_⟩
      rcases hp.mem hf with hf | hf
      · exact hplain f hf
      · exact hc.plain f hf
    case closes =>
      rcases hp with ⟨-, rfl⟩ | ⟨-, hpre⟩
      · refine List.pairwise_append.mpr ⟨hf.closes, ?_, fun f _ g hg _ => hc.plain g hg⟩
        exact List.pairwise_iff_forall_sublist.mpr fun hs _ => hc.plain _ (hs.subset (by simp))
      · exact hf.closes.sublist hpre.sublist
    case closeSent =>
      intro f hmem hclose
      rcases hp.mem hmem with hmem | hmem
      · exact hc.closing (hf.closeSent f hmem hclose)
      · exact hc.closes f hmem hclose

theorem idle_of_none (h : Agree v path w) (hnone : v.runID = "") : (∀ f ∈ path, f.run = none) ∧
    w.lastSequence = v.runSequence ∧ (∀ f ∈ w.up, f.isReady = false) ∧ Over w.turn ∧
    (w.closed = true ∨ v.dead = true ∨ AckedIn path w.turn) := by
  cases h.phase with
  | idle none calm same noReady past acked => exact ⟨calm, same, noReady, past, acked⟩
  | requested run => exact absurd hnone run
  | accepted run => exact absurd hnone run
  | lost run => exact absurd hnone run

theorem starts {c : Command} (h : Agree v path w) (hs : View.Starts v c v')
    (hp : v.dead = false ∧ path' = path ++ [.request (v.nextOut + 1) c] ∨ v.dead = true ∧
      path' = path) :
    Agree v' path' w := by
  obtain ⟨hcalm, hsame, hnoReady, hover, hacked⟩ := h.idle_of_none hs.idle
  have hrun : v'.runID ≠ "" := by rw [hs.runID]; exact runText_ne _ _
  have hnoClose : ∀ f ∈ path, f.isClose = false := by
    intro f hf
    cases hc : f.isClose with
    | false => rfl
    | true => have := h.flight.closeSent f hf hc; simp [hs.opened] at this
  have hmem : ∀ {f}, f ∈ path' → f ∈ path ∨ f = .request (v.nextOut + 1) c := by
    rcases hp with ⟨-, rfl⟩ | ⟨-, rfl⟩
    · intro f hf
      simpa using hf
    · exact fun hf => .inl hf
  have hold : ∀ {k p}, k ≤ v.nextOut → v'.pending.lookup k = some p →
      v.pending.lookup k = some p := by
    intro k p hk hp
    rcases hs.pending k p hp with ⟨hp, -⟩ | ⟨rfl, -⟩
    · exact hp
    · omega
  have hlast := h.flight.down.le
  refine ⟨by rw [hs.generation]; exact h.good, fun _ => by rw [hs.runID, hs.generation], ?_, ?_, ?_⟩
  · have hk := h.kit
    exact { hk with
      session := by rw [hs.sessionID]; exact hk.session
      generation := by rw [hs.generation]; exact hk.generation
      acknowledged := by rw [hs.acknowledged]; exact hk.acknowledged
      records := by rw [hs.generation]; exact hk.records
      current := by rw [hs.generation, hs.sessionID]; exact hk.current }
  · have hf := h.flight
    constructor
    case down =>
      rw [hs.nextOut]
      rcases hp with ⟨-, rfl⟩ | ⟨-, rfl⟩
      · exact hf.down.append (.request _ _)
      · exact ⟨hf.down.le.trans (Nat.le_succ _), hf.down.increasing, fun k hk =>
          ⟨(hf.down.within k hk).1, (hf.down.within k hk).2.trans (Nat.le_succ _)⟩⟩
    case up => rw [hs.lastIn]; exact hf.up
    case seeds =>
      intro k p hk hm
      rcases hs.pending k p hk with ⟨hk, -⟩ | ⟨-, hcmd, hseed⟩
      · exact hf.seeds k p hk hm
      · rw [hcmd]; exact hseed
    case commands =>
      intro k c' p hk hlook
      rcases hmem hk with hk | hk
      · have hle := (hf.down.within k (List.mem_filterMap.mpr ⟨_, hk, rfl⟩)).2
        exact hf.commands k c' p hk (hold hle hlook)
      · cases hk
        rcases hs.pending _ p hlook with ⟨-, hne⟩ | ⟨-, hcmd, -⟩
        · exact absurd rfl hne
        · exact hcmd
    case lanes =>
      intro k p hk
      rw [hs.sessionID]
      rcases hmem hk with hk | hk
      · exact hf.lanes k p hk
      · cases hk
        exact hs.lane p rfl
    case answers =>
      intro k body hk
      obtain ⟨hle, hhonest⟩ := hf.answers k body hk
      exact ⟨hle, fun p hlook => hhonest p (hold (by omega) hlook)⟩
    case tasks =>
      intro t ht
      obtain ⟨hle, hhonest, hcommand⟩ := hf.tasks t ht
      exact ⟨hle, hhonest, fun p hlook => hcommand p (hold (by omega) hlook)⟩
    case turn =>
      intro t ht
      obtain ⟨hle, hcommand⟩ := hf.turn t ht
      exact ⟨hle, fun p hlook => hcommand p (hold (by omega) hlook)⟩
    case closing =>
      intro hw
      have := (hf.closing hw).1
      simp [hs.opened] at this
    case closes =>
      rcases hp with ⟨-, rfl⟩ | ⟨-, rfl⟩
      · refine List.pairwise_append.mpr
          ⟨hf.closes, List.pairwise_singleton _ _, fun f hf _ _ hc => ?_⟩
        simp [hnoClose f hf] at hc
      · exact hf.closes
    case closeSent =>
      intro f hfm hclose
      rcases hmem hfm with hfm | rfl
      · simp [hnoClose f hfm] at hclose
      · have hrun := hs.run
        cases c <;> simp [OutFrame.isClose] at hclose
        simp [Command.run] at hrun
  · rcases hp with ⟨hdead, rfl⟩ | ⟨hdead, rfl⟩
    · refine .requested hrun ?_ (by rw [hs.runSequence, hsame]) hnoReady hover ?_
      · rw [List.filterMap_append, List.filterMap_eq_nil_iff.mpr hcalm]
        simp [OutFrame.run, hs.run]
      · rcases hacked with hclosed | hd | hack
        · exact .inl hclosed
        · simp [hdead] at hd
        · exact .inr (hack.append _)
    · exact .lost hrun (by rw [hs.dead]; exact hdead) hcalm (by rw [hs.runSequence, hsame])
        hnoReady hover

theorem finishes {id : Nat} (h : Agree v path w) (hrun : v.runID ≠ "")
    (hsame : w.lastSequence = v.runSequence) (hnoReady : ∀ f ∈ w.up, f.isReady = false)
    (hstage : ∀ t, w.turn = some t → t.stage = .ready id)
    (hv : v' = { v with runID := "", dead := v'.dead })
    (hp : Follows v' path [.response id (.result .empty)] path') : Agree v' path' w := by
  have hmem : ∀ {f}, f ∈ path' → f ∈ path ∨ f = .response id (.result .empty) := by
    intro f hf
    simpa using hp.mem hf
  have hcalm : ∀ f ∈ path, f.run = none := by
    cases h.phase with
    | idle none => exact absurd none hrun
    | requested run frame next => omega
    | accepted run calm => exact calm
    | lost run dead calm next => omega
  have hcalm' : ∀ f ∈ path', f.run = none := by
    intro f hf
    rcases hmem hf with hf | rfl
    · exact hcalm f hf
    · rfl
  have hf := h.flight
  have hdown : Numbered w.last v'.nextOut path' :=
    h.numbered_calm (l := [.response id (.result .empty)]) (by rw [hv]; exact .response _ _ _) hp
  rw [hv]
  refine ⟨h.good, fun hne => absurd rfl hne, { h.kit with }, ?_, ?_⟩
  · exact { hf with
      down := by rw [hv] at hdown; exact hdown
      commands := by
        intro k c p hk hlook
        rcases hmem hk with hk | hk
        · exact hf.commands k c p hk hlook
        · cases hk
      lanes := by
        intro k p hk
        rcases hmem hk with hk | hk
        · exact hf.lanes k p hk
        · cases hk
      closing := fun hw => ⟨(hf.closing hw).1, hcalm'⟩
      closes := List.pairwise_iff_forall_sublist.mpr fun hs _ => hcalm' _ (hs.subset (by simp))
      closeSent := by
        intro f hfm hclose
        rcases hmem hfm with hfm | rfl
        · exact hf.closeSent f hfm hclose
        · cases hclose }
  · refine .idle rfl hcalm' hsame hnoReady (fun t ht => ⟨id, hstage t ht⟩) ?_
    rcases hp with ⟨-, rfl⟩ | ⟨hd, -⟩
    · exact .inr (.inr fun t ht => ⟨id, path, [], hstage t ht, rfl, hcalm⟩)
    · exact .inr (.inl hd)

theorem acknowledge {n : Nat} (h : Agree v path w) (hn : n ≤ w.acknowledged) :
    Agree { v with acknowledged := n } path w :=
  ⟨h.good, h.current, { h.kit with acknowledged := hn }, { h.flight with },
    h.phase.congr rfl rfl rfl rfl⟩

theorem passed {n : Nat} (h : Agree v path w)
    (hn : Trace.Ascending n w.next (w.up.filterMap UpFrame.requestID)) :
    Agree { v with lastIn := n } path w :=
  ⟨h.good, h.current, { h.kit with }, { h.flight with up := hn }, h.phase.congr rfl rfl rfl rfl⟩

theorem drop {f : UpFrame} {rest : List UpFrame} (h : Agree v path w) (hup : w.up = f :: rest) :
    Agree v path { w with up := rest } := by
  have hsub : rest.Sublist w.up := by rw [hup]; exact List.sublist_cons_self f rest
  have hf := h.flight
  refine ⟨h.good, h.current, { h.kit with }, ?_, ?_⟩
  · exact { hf with
      up := hf.up.sublist (hsub.filterMap _)
      answers := fun k body hk => hf.answers k body (hsub.subset hk) }
  · cases h.phase with
    | idle none calm same noReady past acked =>
      exact .idle none calm same (fun f hf => noReady f (hsub.subset hf)) past acked
    | requested run frame next noReady past acked =>
      exact .requested run frame next (fun f hf => noReady f (hsub.subset hf)) past acked
    | accepted run calm same ready once =>
      refine .accepted run calm same (fun k x hk => ready k x (hsub.subset hk)) ?_
      exact (hsub.filter _).length_le.trans once
    | lost run dead calm next noReady past =>
      exact .lost run dead calm next (fun f hf => noReady f (hsub.subset hf)) past

end Agree

end Sessionbus
