import Sessionbus.Pair.Spec

/-!
# What the worker can see of the session

A session touches its worker through the frames it queues. `View` is the part of the session
that decides about those frames; `Calm`, `Starts` and the like say what one move does to it.
-/

namespace Sessionbus

/-- The run that a command starts at the worker. -/
def Command.run : Command → Option String
  | .execute p => some p.runID
  | .deliver p => if p.runID = "" then none else some p.runID
  | _ => none

def OutFrame.run : OutFrame → Option String
  | .request _ c => c.run
  | .response _ _ => none

def OutFrame.isClose : OutFrame → Bool
  | .request _ (.close _) => true
  | _ => false

structure View where
  sessionID : String
  generation : String
  runID : String
  runSequence : Nat
  acknowledged : Nat
  nextOut : Nat
  lastIn : Nat
  pending : Map Nat Pending
  closing : Bool
  /-- The descriptor is closed: what is queued is not written. -/
  dead : Bool

def Session.view (s : Session) : View where
  sessionID := s.item.row.sessionID
  generation := s.nextGeneration
  runID := s.runID
  runSequence := s.runSequence
  acknowledged := s.acknowledgedSequence
  nextOut := s.nextOut
  lastIn := s.lastIn
  pending := s.pending
  closing := s.closeCall.isSome
  dead := s.wire.fdClosed

namespace View

/-- The frames `l` are queued, and no run starts or ends. -/
structure Calm (v : View) (l : List OutFrame) (v' : View) : Prop where
  sessionID : v'.sessionID = v.sessionID
  generation : v'.generation = v.generation
  runID : v'.runID = v.runID
  runSequence : v'.runSequence = v.runSequence
  acknowledged : v'.acknowledged = v.acknowledged
  lastIn : v'.lastIn = v.lastIn
  closing : v.closing = true → v'.closing = true
  dead : v.dead = true → v'.dead = true
  numbered : Numbered v.nextOut v'.nextOut l
  plain : ∀ f ∈ l, f.run = none
  closes : ∀ f ∈ l, f.isClose = true → v'.closing = true
  commands : ∀ k c p, .request k c ∈ l → v'.pending.lookup k = some p → p.command = c
  pending : ∀ k p, v'.pending.lookup k = some p → v.pending.lookup k = some p ∨
    v.nextOut < k ∧ (p.command.method ≠ .close → p.request.runID = p.command.seed)

/-- The command `c` is queued and starts a run. -/
structure Starts (v : View) (c : Command) (v' : View) : Prop where
  idle : v.runID = ""
  opened : v.closing = false
  sessionID : v'.sessionID = v.sessionID
  generation : v'.generation = v.generation
  runID : v'.runID = Session.runText v.generation v'.runSequence
  runSequence : v'.runSequence = v.runSequence + 1
  acknowledged : v'.acknowledged = v.acknowledged
  lastIn : v'.lastIn = v.lastIn
  closing : v'.closing = v.closing
  dead : v'.dead = v.dead
  nextOut : v'.nextOut = v.nextOut + 1
  run : c.run = some v'.runID
  lane : ∀ p, c = .execute p → p.sessionID = v.sessionID
  pending : ∀ k p, v'.pending.lookup k = some p → v.pending.lookup k = some p ∧ k ≠ v.nextOut + 1 ∨
    k = v.nextOut + 1 ∧ p.command = c ∧ p.request.runID = c.seed

namespace Calm

variable {v v' v'' : View} {l l' : List OutFrame}

theorem refl (v : View) : Calm v [] v where
  sessionID := rfl
  generation := rfl
  runID := rfl
  runSequence := rfl
  acknowledged := rfl
  lastIn := rfl
  closing := fun h => h
  dead := fun h => h
  numbered := .nil le_rfl
  plain := by simp
  closes := by simp
  commands := by simp
  pending := fun _ _ h => .inl h

theorem trans (h : Calm v l v') (h' : Calm v' l' v'') : Calm v (l ++ l') v'' where
  sessionID := h'.sessionID.trans h.sessionID
  generation := h'.generation.trans h.generation
  runID := h'.runID.trans h.runID
  runSequence := h'.runSequence.trans h.runSequence
  acknowledged := h'.acknowledged.trans h.acknowledged
  lastIn := h'.lastIn.trans h.lastIn
  closing := h'.closing ∘ h.closing
  dead := h'.dead ∘ h.dead
  numbered := h.numbered.append h'.numbered
  plain := by
    intro f hf
    rcases List.mem_append.mp hf with hf | hf
    · exact h.plain f hf
    · exact h'.plain f hf
  closes := by
    intro f hf hc
    rcases List.mem_append.mp hf with hf | hf
    · exact h'.closing (h.closes f hf hc)
    · exact h'.closes f hf hc
  commands := by
    intro k c p hk hp
    rcases List.mem_append.mp hk with hk | hk
    · rcases h'.pending k p hp with hp | ⟨hlt, -⟩
      · exact h.commands k c p hk hp
      · have hmem : k ∈ l.filterMap OutFrame.requestID := List.mem_filterMap.mpr ⟨_, hk, rfl⟩
        have := (h.numbered.within k hmem).2
        omega
    · exact h'.commands k c p hk hp
  pending := by
    intro k p hp
    have hle := h.numbered.le
    rcases h'.pending k p hp with hp | ⟨hlt, hrun⟩
    · exact h.pending k p hp
    · exact .inr ⟨by omega, hrun⟩

theorem of_sub {v v' : View} (hs : v'.sessionID = v.sessionID) (hg : v'.generation = v.generation)
    (hr : v'.runID = v.runID) (hn : v'.runSequence = v.runSequence)
    (ha : v'.acknowledged = v.acknowledged) (hi : v'.lastIn = v.lastIn)
    (ho : v.nextOut ≤ v'.nextOut) (hc : v.closing = true → v'.closing = true)
    (hd : v.dead = true → v'.dead = true)
    (hp : ∀ k p, v'.pending.lookup k = some p → v.pending.lookup k = some p) : Calm v [] v' where
  sessionID := hs
  generation := hg
  runID := hr
  runSequence := hn
  acknowledged := ha
  lastIn := hi
  closing := hc
  dead := hd
  numbered := .nil ho
  plain := by simp
  closes := by simp
  commands := by simp
  pending := fun k p h => .inl (hp k p h)

theorem old (h : Calm v l v') {k : Nat} (hk : k ≤ v.nextOut) {p : Pending}
    (hp : v'.pending.lookup k = some p) : v.pending.lookup k = some p := by
  rcases h.pending k p hp with hp | ⟨hlt, -⟩
  · exact hp
  · omega

end Calm

end View

/-- No run is taken back. -/
def Act.keepsRuns : Act → Bool
  | .refused _ => false
  | .unsent _ c _ => c.run.isNone
  | _ => true

theorem Act.keepsRuns_of_quiet {a : Act} (h : a.quiet = true) : a.keepsRuns = true := by
  cases a with
  | unsent id c encoded =>
    cases c <;> simp_all [Act.quiet, Act.keepsRuns, Command.quiet, Command.run]
  | _ => simp_all [Act.quiet, Act.keepsRuns]

namespace Session

/-- The act takes the run `id` back: the worker refused it, or its frame was not sent. -/
def TakesBack (s : Session) (id : String) : Act → Prop
  | .refused n => id = runText s.nextGeneration n
  | .unsent _ c _ => c.run = some id
  | _ => False

theorem not_takesBack {s : Session} {id : String} {a : Act} (h : a.keepsRuns = true) :
    ¬ s.TakesBack id a := by
  cases a <;> simp_all [Act.keepsRuns, TakesBack]

theorem answerAct_keepsRuns (r : RoutedRequest) (a : Answer) :
    (answerAct r a).keepsRuns = true := by
  unfold answerAct
  split <;> rfl

theorem settledActs_keepsRuns (code : Code) (l : List RoutedRequest) :
    ∀ a ∈ settledActs code l, a.keepsRuns = true := by
  intro a ha
  simp only [settledActs, List.mem_flatMap, List.mem_cons, List.not_mem_nil, or_false] at ha
  obtain ⟨r, -, rfl | rfl⟩ := ha
  · rfl
  · exact answerAct_keepsRuns _ _

/-- What a step adds to the history takes no run back but the next one of an idle lane. -/
def Keeps (s t : Session) : Prop :=
  ∃ l, t.history = s.history ++ l ∧ ∀ a ∈ l, ∀ id, s.TakesBack id a →
    s.runID = "" ∧ id = runText s.nextGeneration (s.runSequence + 1)

theorem Keeps.of_acts {s t : Session} (l : List Act) (hist : t.history = s.history ++ l)
    (hl : ∀ a ∈ l, a.keepsRuns = true) : Keeps s t :=
  ⟨l, hist, fun a ha _ hid => absurd hid (not_takesBack (hl a ha))⟩

theorem Keeps.same {s t : Session} (hist : t.history = s.history) : Keeps s t :=
  .of_acts [] (by simp [hist]) (by simp)

/-- The session queued the frames `l` and its view is calm. -/
def Calms (s t : Session) : Prop :=
  Keeps s t ∧ ∃ l, t.wire.outbox = s.wire.outbox ++ l ∧ View.Calm s.view l t.view

namespace Calms

variable {s t u : Session}

theorem refl (s : Session) : Calms s s := ⟨.same rfl, [], by simp, .refl _⟩

theorem keeps_trans (h : Keeps s t) (h' : Keeps t u) (hrun : t.runID = s.runID)
    (hseq : t.runSequence = s.runSequence) (hgen : t.nextGeneration = s.nextGeneration) :
    Keeps s u := by
  obtain ⟨l, hl, hback⟩ := h
  obtain ⟨l', hl', hback'⟩ := h'
  refine ⟨l ++ l', by rw [hl', hl, List.append_assoc], fun a ha id hid => ?_⟩
  rcases List.mem_append.mp ha with ha | ha
  · exact hback a ha id hid
  · rw [← hrun, ← hseq, ← hgen]
    refine hback' a ha id ?_
    cases a with
    | refused n => exact hid.trans (by rw [hgen])
    | _ => exact hid

theorem trans (h : Calms s t) (h' : Calms t u) : Calms s u := by
  obtain ⟨hk, l, hl, hc⟩ := h
  obtain ⟨hk', l', hl', hc'⟩ := h'
  exact ⟨keeps_trans hk hk' hc.runID hc.runSequence hc.generation, l ++
    l', by rw [hl', hl, List.append_assoc], hc.trans hc'⟩

theorem of_view (hview : t.view = s.view) (hout : t.wire.outbox = s.wire.outbox) (hk : Keeps s t) :
    Calms s t :=
  ⟨hk, [], by simp [hout], by rw [hview]; exact .refl _⟩

theorem answerRouted (s : Session) (r : RoutedRequest) (a : Answer) :
    Calms s (s.answerRouted r a) :=
  .of_view rfl rfl (.of_acts [answerAct r a] rfl (by simp [answerAct_keepsRuns]))

theorem enqueue (s : Session) (r : RoutedRequest) : Calms s (s.enqueue r) :=
  (Calms.answerRouted s r _).trans
    (.of_view rfl rfl (.of_acts [.queued _] rfl (by simp [Act.keepsRuns])))

theorem take (s : Session) (id : Nat) : Calms s (s.take id) := by
  refine ⟨.same rfl, [], by simp, .of_sub rfl rfl rfl rfl rfl rfl le_rfl (fun h => h)
    (fun h => h) ?_⟩
  intro k p hp
  exact (AList.lookup_erase_iff.mp hp).2

theorem quiet (fresh : ∀ k p, s.pending.lookup k = some p → k ≤ s.nextOut) (h : Quiet s t) :
    Calms s t := by
  obtain ⟨l, hl, hq, hn⟩ := h.wire.outbox
  have hcore := h.core
  have hplain : ∀ f ∈ l, f.run = none ∧ f.isClose = false := by
    intro f hf
    have := hq f hf
    cases f with
    | response => exact ⟨rfl, rfl⟩
    | request id c =>
      cases c <;> simp_all [OutFrame.quiet, Command.quiet, OutFrame.run, Command.run,
        OutFrame.isClose]
  obtain ⟨acts, hacts, hquiet⟩ := h.history
  refine ⟨.of_acts acts hacts fun a ha => Act.keepsRuns_of_quiet (hquiet a ha), l, hl, ?_⟩
  constructor
  case sessionID => simp [view, hcore]
  case generation => simp [view, nextGeneration, hcore]
  case runID => simp [view, hcore]
  case runSequence => simp [view, hcore]
  case acknowledged => simp [view, hcore]
  case lastIn => simp [view, hcore]
  case closing => simp [view, hcore]
  case dead => exact h.wire.fdClosed
  case numbered => exact hn
  case plain => exact fun f hf => (hplain f hf).1
  case closes =>
    intro f hf hc
    rw [(hplain f hf).2] at hc
    cases hc
  case commands =>
    intro k c p hk hp
    have hmem : k ∈ l.filterMap OutFrame.requestID := List.mem_filterMap.mpr ⟨_, hk, rfl⟩
    have hnew := (hn.within k hmem).1
    have hold := fresh k p (by simpa [view, hcore] using hp)
    omega
  case pending =>
    intro k p hp
    left
    simpa [view, hcore] using hp

theorem sent {r : RoutedRequest} {c : Command} {item : Entry} (hitem : item.row = s.item.row)
    (hrun : c.run = none) (hclose : c.method = .close → s.closeCall.isSome = true)
    (hseed : c.method ≠ .close → r.runID = c.seed) : Calms s (s.sent r c item) := by
  refine ⟨.of_acts [.wrote (s.nextOut + 1) c] rfl (by simp [Act.keepsRuns]),
    [.request (s.nextOut + 1) c], rfl, ?_⟩
  have hlook : ∀ k p, (s.sent r c item).pending.lookup k = some p →
      k = s.nextOut + 1 ∧ p = ⟨r, c⟩ ∨ k ≠ s.nextOut + 1 ∧ s.pending.lookup k = some p :=
    fun k p hp => AList.lookup_insert_iff.mp hp
  constructor
  case sessionID => simp [view, hitem]
  case generation => rfl
  case runID => rfl
  case runSequence => rfl
  case acknowledged => rfl
  case lastIn => rfl
  case closing => exact fun h => h
  case dead => exact fun h => h
  case numbered => exact .request _ _
  case plain => simpa [OutFrame.run] using hrun
  case closes =>
    intro f hf hc
    rw [List.mem_singleton.mp hf] at hc
    cases c <;> simp [OutFrame.isClose] at hc
    exact hclose rfl
  case commands =>
    intro k c' p hk hp
    simp only [List.mem_singleton, OutFrame.request.injEq] at hk
    rcases hlook k p hp with ⟨-, rfl⟩ | ⟨hne, -⟩
    · exact hk.2.symm
    · exact absurd hk.1 hne
  case pending =>
    intro k p hp
    rcases hlook k p hp with ⟨rfl, rfl⟩ | ⟨-, hp⟩
    · exact .inr ⟨Nat.lt_succ_self _, hseed⟩
    · exact .inl hp

theorem notSent {env : Env} {c : Command} {wire : Wire} {encoded : Bool}
    (why : Unsent env s c wire encoded) (hrun : c.run = none) :
    Calms s (s.notSent c wire encoded) := by
  have hout : wire.outbox = s.wire.outbox := by rcases why.wire with h | h <;> rw [h]; rfl
  have hdead : s.wire.fdClosed = true → wire.fdClosed = true := by
    rcases why.wire with h | h <;> rw [h]
    · exact fun h => h
    · exact fun _ => rfl
  refine ⟨.of_acts [.unsent (s.nextOut + 1) c encoded] rfl (by simp [Act.keepsRuns, hrun]), [],
    by simp [hout], ?_⟩
  exact .of_sub rfl rfl rfl rfl rfl rfl (Nat.le_succ _) (fun h => h) hdead fun _ _ h => h

theorem writeDeferredClose (env : Env) (s : Session) : Calms s (s.writeDeferredClose env) := by
  have h := writeDeferredClose_closed env s
  generalize s.writeDeferredClose env = t at h ⊢
  cases h with
  | waits => exact .refl s
  | sent call params => exact .sent rfl rfl (fun _ => by simp [call]) (fun h => absurd rfl h)
  | unsent call params why =>
    refine (Calms.notSent why rfl).trans ⟨.same rfl, [], by simp [Wire.close], ?_⟩
    exact .of_sub rfl rfl rfl rfl rfl rfl le_rfl (fun h => h) (fun _ => rfl) fun _ _ h => h

theorem beginClose (env : Env) (s : Session) (r : RoutedRequest) (p : SessionCloseRequest) :
    Calms s (s.beginClose env r p) := by
  unfold Session.beginClose
  rw [settleDeferredDeliveries_eq]
  refine Calms.trans ?_ (.writeDeferredClose env _)
  refine ⟨.of_acts (.closing :: settledActs .busy s.deferredDeliveries) (by simp) ?_, [],
    by simp, ?_⟩
  · simpa [Act.keepsRuns] using settledActs_keepsRuns .busy s.deferredDeliveries
  exact .of_sub rfl rfl rfl rfl rfl rfl le_rfl (fun _ => rfl) (fun h => h) fun _ _ h => h

theorem connectionClosed (s : Session) : Calms s s.connectionClosed := by
  unfold Session.connectionClosed
  split
  · exact .refl s
  · rw [settlePending_eq]
    refine ⟨?_, [], ?_, ?_⟩
    · refine .of_acts (.disconnected :: (settledActs .notConnected s.deferredDeliveries ++
        s.settledBy.map fun p => answerAct p.request (.code .notConnected))) ?_ ?_
      · unfold detach
        split
        · split <;> simp [settledBy]
        · simp [settledBy]
      · intro a ha
        simp only [List.mem_cons, List.mem_append, List.mem_map] at ha
        rcases ha with rfl | ha | ⟨p, -, rfl⟩
        · rfl
        · exact settledActs_keepsRuns _ _ a ha
        · exact answerAct_keepsRuns _ _
    · unfold detach
      split
      · split <;> simp [Wire.ownerClosed]
      · simp [Wire.ownerClosed]
    · unfold detach
      split
      · split <;> exact .of_sub rfl rfl rfl rfl rfl rfl le_rfl (fun h => h) (fun h => h)
          fun _ _ h => by simp [view] at h
      · exact .of_sub rfl rfl rfl rfl rfl rfl le_rfl (fun h => h) (fun h => h) fun _ _ h => by
          simp [view] at h

end Calms

def Begins (s t : Session) : Prop :=
  Keeps s t ∧ ∃ c, t.wire.outbox = s.wire.outbox ++ [.request (s.nextOut + 1) c] ∧
    View.Starts s.view c t.view

theorem nextGeneration_reserved {s t : Session} (hdrawn : t.runGeneration = s.nextGeneration)
    (hrandom : t.randomGeneration = s.randomGeneration) : t.nextGeneration = s.nextGeneration := by
  unfold nextGeneration at hdrawn ⊢
  rw [hrandom]
  split_ifs with h₁ h₂ h₂
  · rfl
  · rw [if_neg h₂, h₁] at hdrawn
    exact absurd hdrawn.symm h₂
  · rw [hdrawn, if_pos h₂]
  · rw [hdrawn, if_neg h₂]

theorem ran_view {env : Env} {s s₁ t : Session} {r : RoutedRequest} {c : Command}
    (hs₁ : Reserves s s₁) (hidle : s.runID = "") (hopen : s.closeCall = none)
    (hr : r.runID = s.reserveRun.runID) (hrun : c.run = some s.reserveRun.runID)
    (hseed : c.seed = s.reserveRun.runID)
    (hlane : ∀ p, c = .execute p → p.sessionID = s.item.row.sessionID) (hw : Wrote env s₁ r c t) :
    Calms s t ∨ Begins s t := by
  have hne : r.runID ≠ "" := hr ▸ runText_ne _ _
  cases hw with
  | sent =>
    refine .inr ⟨?_, c, by cases hs₁ <;> rfl, ?_⟩
    · refine .of_acts [.reserved (s.runSequence + 1), .wrote (s.nextOut + 1) c] ?_
        (by simp [Act.keepsRuns])
      cases hs₁ <;> simp
    constructor
    case idle => exact hidle
    case opened => simp [view, hopen]
    case sessionID => cases hs₁ <;> rfl
    case generation => exact nextGeneration_reserved (by cases hs₁ <;> rfl) (by cases hs₁ <;> rfl)
    case runID => cases hs₁ <;> rfl
    case runSequence => cases hs₁ <;> rfl
    case acknowledged => cases hs₁ <;> rfl
    case lastIn => cases hs₁ <;> rfl
    case closing => cases hs₁ <;> rfl
    case dead => cases hs₁ <;> rfl
    case nextOut => cases hs₁ <;> rfl
    case run => rw [hrun]; cases hs₁ <;> rfl
    case lane => exact hlane
    case pending =>
      intro k p hp
      have hp : (s.pending.insert (s.nextOut + 1) ⟨r, c⟩).lookup k = some p := by
        cases hs₁ <;> exact hp
      rcases AList.lookup_insert_iff.mp hp with ⟨rfl, rfl⟩ | ⟨hk, hp⟩
      · exact .inr ⟨rfl, rfl, hr.trans hseed.symm⟩
      · exact .inl ⟨hp, hk⟩
  | unsent why =>
    rename_i wire encoded
    have hrid : s₁.runID = r.runID := by cases hs₁ <;> simp [hr]
    have hwire : wire = s.wire ∨ wire = s.wire.close := by cases hs₁ <;> simpa using why.wire
    refine .inl ⟨?_, [], ?_, ?_⟩
    · refine ⟨[.reserved (s.runSequence + 1), .unsent (s.nextOut + 1) c encoded,
        answerAct r (.code .notConnected)], ?_, ?_⟩
      · rw [if_pos hne, answerRouted_history, refuseRun_history]
        cases hs₁ <;> simp
      · intro a ha id hid
        simp only [List.mem_cons, List.not_mem_nil, or_false] at ha
        rcases ha with rfl | rfl | rfl
        · exact hid.elim
        · exact ⟨hidle, Option.some.inj (hid.symm.trans hrun)⟩
        · exact absurd hid (not_takesBack (answerAct_keepsRuns _ _))
    · rw [if_pos hne, refuseRun, if_neg (by simpa using hrid)]
      rcases hwire with rfl | rfl <;> simp [Wire.close]
    · rw [if_pos hne, refuseRun, if_neg (by simpa using hrid)]
      refine .of_sub ?_ ?_ ?_ ?_ ?_ ?_ ?_ ?_ ?_ ?_
      · cases hs₁ <;> simp [view]
      · exact nextGeneration_reserved (by cases hs₁ <;> simp) (by cases hs₁ <;> simp)
      · cases hs₁ <;> simp [view, hidle]
      · cases hs₁ <;> simp [view]
      · cases hs₁ <;> simp [view]
      · cases hs₁ <;> simp [view]
      · cases hs₁ <;> simp [view]
      · cases hs₁ <;> simp [view]
      · rcases hwire with rfl | rfl <;> simp [view, Wire.close]
      · cases hs₁ <;> simp [view]

section
variable {env : Env} {got : Option InFrame} {s t : Session}

theorem wrotePlain_view {r : RoutedRequest} {c : Command} (hr : r.runID = "") (hrun : c.run = none)
    (hclose : c.method ≠ .close) (hw : Wrote env s r c t) : Calms s t := by
  have hseed : c.seed = "" := by
    cases c <;> simp_all [Command.run, Command.seed]
  cases hw with
  | sent => exact .sent rfl hrun (fun h => absurd h hclose) (fun _ => by rw [hr, hseed])
  | unsent why =>
    rw [if_neg (by simp [hr])]
    exact (Calms.notSent why hrun).trans (.answerRouted _ _ _)

theorem issue_view (h : Base env s) {r : RoutedRequest} (hr : FromClient r) :
    Calms s (s.issue env r) ∨ Begins s (s.issue env r) := by
  have hissued := issue_issued env s r
  generalize s.issue env r = t at hissued ⊢
  cases hissued with
  | refused => exact .inl (.answerRouted _ _ _)
  | closing => exact .inl (.beginClose env s _ _)
  | written adm prepared wrote =>
    have hopen : r.collect = false → s.closeCall = none := by
      intro hc
      by_contra hsome
      have := adm.open_ hsome
      simp [hc] at this
    cases prepared with
    | plain hplain =>
      obtain ⟨hmethod, hclose⟩ := Base.plainCommand_method hplain
      refine .inl (wrotePlain_view hr.idle ?_ hclose wrote)
      cases hcall :
        r.call <;> rw [hcall] at hplain <;> simp only [plainCommand, reduceCtorEq] at hplain
      · cases hplain; rfl
      · cases hplain; rfl
      · cases hplain; rfl
      · cases hplain; rfl
      · obtain ⟨q, hq, hrun⟩ := (hr.delivery _ hcall).delivery
        rw [hcall] at hq
        cases hq
        split at hplain
        · cases hplain
        · cases hplain
          simp [Command.run, hrun]
    | execute call room =>
      have hexec : issuedMethod r.call = .execute := by
        rcases call with ⟨hcall, -⟩ | ⟨hcall, -⟩ <;> rw [hcall] <;> rfl
      have hdirect : r.collect = false := by
        by_contra hc
        obtain ⟨p, hp⟩ := hr.collects (by simpa using hc)
        rcases call with ⟨hcall, -⟩ | ⟨hcall, -⟩ <;> rw [hcall] at hp <;> cases hp
      refine ran_view .run (h.execute_idle adm hexec) (hopen hdirect) rfl rfl rfl ?_ wrote
      rintro p ⟨⟩
      rfl
    | seed call lane idle room openCall =>
      have hne := runText_ne s.nextGeneration (s.runSequence + 1)
      refine ran_view (.seed r) idle openCall rfl ?_ rfl (by simp) wrote
      simp [Command.run, hne]

theorem pop_view (h : Base env s) {r : RoutedRequest} {rest : List RoutedRequest}
    (hq : s.deferredDeliveries = r :: rest) (hidle : s.runID = "") :
    Calms s ((s.pop r rest).issue env r) ∨ Begins s ((s.pop r rest).issue env r) := by
  obtain ⟨-, -, p, hcall⟩ := h.core.deliveries r (by simp [hq])
  have hissued := issue_issued env (s.pop r rest) r
  generalize (s.pop r rest).issue env r = t at hissued ⊢
  have hpop : Calms s (s.pop r rest) :=
    .of_view rfl rfl (.of_acts [.started r] rfl (by simp [Act.keepsRuns]))
  cases hissued with
  | refused => exact .inl (hpop.trans (.answerRouted _ _ _))
  | closing => exact .inl (hpop.trans (.beginClose env _ _ _))
  | written adm prepared wrote =>
    cases prepared with
    | plain hplain => simp [hcall, plainCommand, Session.pop, h.core.lane, hidle] at hplain
    | execute hrun => simp [hcall] at hrun
    | seed call lane idle room openCall =>
      have hne := runText_ne (s.pop r rest).nextGeneration ((s.pop r rest).runSequence + 1)
      rcases ran_view (.seed r) idle openCall rfl (by simp [Command.run, hne]) rfl
        (by simp) wrote with hc | hb
      · exact .inl (hpop.trans hc)
      · exact .inr ⟨Calms.keeps_trans hpop.1 hb.1 rfl rfl rfl, hb.2⟩

end

end Session

end Sessionbus
