import Sessionbus.Directory.History

/-!
# Steps that leave claims and ends alone

Most steps neither claim or release an entry that exists, nor end it, nor conclude a launch. They
may add entries, each with the open launch that claims it.
-/

namespace Sessionbus

/-- The session of a published lane, until its run loop has taken the lane offline. -/
def Party.Keeps (v : Party) (p : Ptr) : Prop :=
  v.committed = true ∧ v.returned = false ∧ v.identity = some p

namespace Directory

attribute [local grind =] Function.update_apply

variable {d d' : Directory}

theorem attach_items (l s : Ptr) (createdAt : Nat) : (d.attach l s createdAt).items =
    Function.update d.items (d.launches l).entry
      ((d.entryOf l).published (stamp (d.entryOf l).row createdAt) s d.nextOwner) := rfl

@[simp]
theorem attach_entries (l s : Ptr) (createdAt : Nat) :
    (d.attach l s createdAt).entries = d.entries := rfl

@[simp]
theorem attach_offlineClosing (l s : Ptr) (createdAt : Nat) :
    (d.attach l s createdAt).offlineClosing = d.offlineClosing :=
  rfl

@[simp]
theorem reply_items (l : Ptr) (answer : Answer) : (d.reply l answer).items = d.items := rfl

@[simp]
theorem reply_entries (l : Ptr) (answer : Answer) : (d.reply l answer).entries = d.entries := rfl

@[simp]
theorem reply_offlineClosing (l : Ptr) (answer : Answer) :
    (d.reply l answer).offlineClosing = d.offlineClosing := rfl

/-- No entry that exists is claimed or released. -/
structure Steady (d d' : Directory) : Prop where
  items : d.nextItem ≤ d'.nextItem
  claimed : ∀ p, p < d.nextItem → (d'.items p).claimed = (d.items p).claimed
  added : ∀ p, d.nextItem ≤ p → (d.items p).claimed = false → (d'.items p).claimed = true →
    ∃ l, d'.Open l ∧ (d'.launches l).entry = p
  opens : ∀ l, d.Open l → d'.Open l ∧ (d'.launches l).entry = (d.launches l).entry
  opened : ∀ l, d'.Open l → d.Open l ∨ d.nextItem ≤ (d'.launches l).entry
  keeps : ∀ s p, (d'.sessions s).Keeps p ↔ (d.sessions s).Keeps p
  closed : ∀ s p, (d.sessions s).Keeps p → (d'.sessions s).closed = (d.sessions s).closed
  offlineClosing : d'.offlineClosing = d.offlineClosing
  listed : ∀ p, p < d.nextItem → (d.items p).claimed = true → d.listed p = true → d'.listed p = true

/-- No entry that exists is claimed, released or ended. -/
structure Still (d d' : Directory) : Prop extends Steady d d' where
  done : ∀ p, p < d.nextItem → (d'.items p).done = (d.items p).done
  ends : ∀ p, (d'.items p).ends = (d.items p).ends ∨ d.nextItem ≤ p ∧ (d'.items p).ends = []

namespace Steady

theorem refl (d : Directory) : Steady d d where
  items := Nat.le_refl _
  claimed _ _ := rfl
  added _ _ unclaimed claimed := by simp [unclaimed] at claimed
  opens _ hl := ⟨hl, rfl⟩
  opened _ hl := .inl hl
  keeps _ _ := Iff.rfl
  closed _ _ _ := rfl
  offlineClosing := rfl
  listed _ _ _ := id

theorem trans {d'' : Directory} (h : Steady d d') (h' : Steady d' d'') : Steady d d'' where
  items := h.items.trans h'.items
  claimed p hp := (h'.claimed p (Nat.lt_of_lt_of_le hp h.items)).trans (h.claimed p hp)
  added p hp unclaimed now := by
    cases between : (d'.items p).claimed with
    | true =>
      obtain ⟨l, hl, rfl⟩ := h.added p hp unclaimed between
      exact ⟨l, h'.opens l hl⟩
    | false =>
      refine h'.added p (Nat.not_lt.mp fun hlt => ?_) between now
      simp [h'.claimed p hlt, between] at now
  opens l hl := by
    obtain ⟨ho, entry⟩ := h.opens l hl
    exact ⟨(h'.opens l ho).1, (h'.opens l ho).2.trans entry⟩
  opened l hl := by
    rcases h'.opened l hl with ho | new
    · rcases h.opened l ho with ho' | new
      · exact .inl ho'
      · exact .inr (by rw [(h'.opens l ho).2]; exact new)
    · exact .inr (h.items.trans new)
  keeps s p := (h'.keeps s p).trans (h.keeps s p)
  closed s p keeps := (h'.closed s p ((h.keeps s p).mpr keeps)).trans (h.closed s p keeps)
  offlineClosing := h'.offlineClosing.trans h.offlineClosing
  listed p hp claimed listed :=
    h'.listed p (Nat.lt_of_lt_of_le hp h.items) ((h.claimed p hp).trans claimed)
    (h.listed p hp claimed listed)

theorem setSession {s : Ptr} {v : Party} (before : ∀ p, ¬ (d.sessions s).Keeps p)
    (after : ∀ p, ¬ v.Keeps p) : Steady d (d.setSession s v) := by
  refine { refl d with keeps := fun s' p => ?_, closed := fun s' p keeps => ?_ }
  · by_cases heq : s' = s
    · subst heq
      simp [before p, after p]
    · simp [Function.update_of_ne heq]
  · have : s' ≠ s := fun heq => before p (heq ▸ keeps)
    simp [Function.update_of_ne this]

theorem setItem {p : Ptr} {v : Item} (claimed : v.claimed = (d.items p).claimed)
    (id : v.row.sessionID = (d.items p).row.sessionID) : Steady d (d.setItem p v) := by
  refine { refl d with
    claimed := fun q _ => ?_, added := fun q hq unclaimed now => ?_,
    listed := fun q _ _ listed => ?_ }
  · grind
  · grind
  · unfold Directory.listed at listed ⊢
    grind

end Steady

namespace Still

theorem refl (d : Directory) : Still d d := ⟨Steady.refl d, fun _ _ => rfl, fun _ => .inl rfl⟩

theorem trans {d'' : Directory} (h : Still d d') (h' : Still d' d'') : Still d d'' where
  toSteady := h.toSteady.trans h'.toSteady
  done p hp := (h'.done p (Nat.lt_of_lt_of_le hp h.items)).trans (h.done p hp)
  ends p := by
    rcases h'.ends p with same | ⟨new, clean⟩
    · rw [same]
      exact h.ends p
    · exact .inr ⟨h.items.trans new, clean⟩

theorem calm (c : Calm d d') : Still d d' := by
  have identity s := (c.sessions s).1
  have committed s := (c.sessions s).2.2.2.1
  have closed s := (c.sessions s).2.2.2.2.1
  have returned s := (c.sessions s).2.2.2.2.2
  refine ⟨?_, fun p _ => by rw [c.items], fun p => .inl (by rw [c.items])⟩
  constructor
  case items => exact c.nextItem.ge
  case claimed => exact fun p _ => by rw [c.items]
  case added => exact fun p _ unclaimed claimed => by simp [c.items, unclaimed] at claimed
  case opens => simp [Open, c.nextLaunch, c.launches]
  case opened => exact fun l hl => .inl (by simpa [Open, c.nextLaunch, c.launches] using hl)
  case keeps => simp [Party.Keeps, committed, returned, identity]
  case closed => exact fun s _ _ => closed s
  case offlineClosing => exact c.offlineClosing
  case listed => simp [Directory.listed, c.entries, c.items]

theorem told (t : Told d d') : Still d d' := calm t.calm

theorem setItem {p : Ptr} {v : Item} (claimed : v.claimed = (d.items p).claimed)
    (done : v.done = (d.items p).done) (ends : v.ends = (d.items p).ends)
    (id : v.row.sessionID = (d.items p).row.sessionID) : Still d (d.setItem p v) :=
  ⟨Steady.setItem claimed id, fun q _ => by grind, fun q => .inl (by grind)⟩

theorem setSession {s : Ptr} {v : Party} (before : ∀ p, ¬ (d.sessions s).Keeps p)
    (after : ∀ p, ¬ v.Keeps p) : Still d (d.setSession s v) :=
  ⟨Steady.setSession before after, fun _ _ => rfl, fun _ => .inl rfl⟩

theorem setLaunch {l : Ptr} {v : Launch} (entry : v.entry = (d.launches l).entry)
    (concluded : v.concluded = (d.launches l).concluded) : Still d (d.setLaunch l v) := by
  refine { refl d with
    added := fun q _ unclaimed now => ?_, opens := fun l' hl => ?_, opened := fun l' hl => .inl ?_ }
  · simp [unclaimed] at now
  · unfold Open at hl ⊢
    grind
  · unfold Open at hl ⊢
    grind

theorem reply (l : Ptr) (answer : Answer) : Still d (d.reply l answer) :=
  setLaunch (v := (d.launches l).reply answer) rfl rfl

theorem setTokens (tokens : List Ptr) : Still d (d.setTokens tokens) := { refl d with }

theorem addLaunch {item : Item} {launch : Launch} {entries names : String → Option Ptr}
    (concluded : launch.concluded = false) (clean : item.ends = [])
    (kept : ∀ p, (d.items p).claimed = true → d.listed p = true →
      entries (d.items p).row.sessionID = some p) :
    Still d { d.addLaunch item launch with entries, names } := by
  refine ⟨?_, fun p _ => by grind, fun p => by grind⟩
  constructor
  case items => exact Nat.le_succ _
  case claimed => grind
  case added =>
    intro p hp unclaimed now
    refine ⟨d.nextLaunch, ?_⟩
    unfold Open
    grind
  case opens =>
    intro l hl
    unfold Open at hl ⊢
    grind
  case opened =>
    intro l hl
    unfold Open at hl ⊢
    grind
  case keeps => exact fun _ _ => Iff.rfl
  case closed => exact fun _ _ _ => rfl
  case offlineClosing => rfl
  case listed =>
    intro p hp claimed listed
    have := kept p claimed listed
    unfold Directory.listed
    grind

/-! ## Operations -/

theorem spawnHere {parent : Ptr} {caller : Caller} {input : LaneSpawnRequest}
    (heq : d.spawnHere parent caller input = some d') : Still d d' := by
  unfold Directory.spawnHere at heq
  split at heq
  · simp only [Option.bind_eq_some_iff] at heq
    obtain ⟨target, -, resumed⟩ := heq
    unfold Directory.reserveResume at resumed
    split at resumed
    · cases resumed
    next previous found =>
      simp only [Option.ite_none_left_eq_some, Option.map_eq_some_iff, Bool.or_eq_true, not_or,
        Bool.not_eq_true] at resumed
      obtain ⟨⟨⟨⟨-, unclaimed⟩, -⟩, -⟩, policy, -, rfl⟩ := resumed
      refine addLaunch rfl rfl fun p claimed listed => ?_
      unfold Directory.listed at listed
      grind
  · simp only [Option.bind_eq_some_iff] at heq
    obtain ⟨row, -, reserved⟩ := heq
    unfold Directory.reserveFresh at reserved
    simp only [Option.ite_none_left_eq_some, Option.some.injEq] at reserved
    obtain ⟨-, rfl⟩ := reserved
    refine addLaunch rfl rfl fun p _ listed => ?_
    simpa [Directory.listed] using listed

theorem unpublished {s : Ptr} {v : Party} (before : (d.sessions s).committed = false)
    (after : v.committed = false) : Still d (d.setSession s v) := by
  refine setSession (fun p keeps => ?_) fun p keeps => ?_
  · simp [Party.Keeps, before] at keeps
  · simp [Party.Keeps, after] at keeps

theorem setEntry {id : String} (free : d.entries id = none) (p : Option Ptr) :
    Still d (d.setEntry id p) := by
  refine { refl d with listed := fun q _ _ listed => ?_ }
  unfold Directory.listed at listed ⊢
  grind

theorem openFailed_committed (p : Party) (answer : Answer) :
    (p.openFailed answer).committed = p.committed := by
  unfold Party.openFailed Party.abortLaunch Party.stop
  grind

theorem identified (h : d.Sound) {s l : Ptr} (launch : (d.sessions s).launch = some l)
    (fresh : (d.launches l).fresh = true) (waiting : (d.sessions s).opening = .waiting)
    (id : String) : Still d (d.identified l id) := by
  refine { refl d with
    claimed := fun q _ =>
      ?_, added := fun q hq unclaimed now => ?_, listed := fun q _ _ listed => ?_
    done := fun q _ => ?_, ends := fun q => .inl ?_ }
  · grind
  · grind
  · -- The entry was under no ID before, so the new one unlists nothing.
    unfold Directory.listed at listed ⊢
    have := h.unlisted launch fresh waiting (d.items q).row.sessionID
    grind
  · grind
  · grind

theorem claim (h : d.Sound) (s l : Ptr) (unknown : (d.sessions s).identity = none) (row : Row)
    (hello : HelloDescription) (sent : Bool) :
    Still d
      (((d.setLaunch l ((d.launches l).claim s)).setTokens (d.tokens.filter (· != l))).setSession s
        ((d.sessions s).startLane l ((d.launches l).claim s) row hello sent)) := by
  have free : (d.sessions s).committed = false := by
    by_contra committed
    obtain ⟨l, launch⟩ :=
      Option.ne_none_iff_exists'.mp (h.seats.committed s (by simpa using committed))
    simp [(h.seats.lane s l launch).2.2] at unknown
  have claimed : Still d (d.setLaunch l ((d.launches l).claim s)) := setLaunch rfl rfl
  exact (claimed.trans (setTokens _)).trans
    (unpublished free ((startLane_frame _ _ _ _ _ _).2.2.1.trans free))

end Still

/-- The action may claim, release or end an entry. -/
def Action.marks : Action → Bool
  | .hello .. | .publish .. | .release .. | .closeWritten .. | .disconnect .. | .finish ..
  | .closeOffline .. | .finishOfflineClose .. => true
  | _ => false

theorem Routine.still (h : d.Sound) {a : Action} (routine : Routine d a d') : Still d d' := by
  cases routine with
  | idle => exact .refl d
  | own own => exact .calm (Calm.session (own.keeps _))
  | forward s => exact .told (Told.postCallerForward s _)
  | remoteOwner => exact .told (Told.remoteOwner _)
  | openFailed s answer opening =>
    have uncommitted := (h.seats.opening s opening).2.1
    exact .unpublished uncommitted ((Still.openFailed_committed _ _).trans uncommitted)

theorem Does.still (h : d.Sound) {a : Action} (does : Does d a d') (quiet : a.marks = false) :
    Still d d' := by
  have uncommitted {s : Ptr} (opening : (d.sessions s).opening ≠ .none) :=
    (h.seats.opening s opening).2.1
  cases does with
  | routine routine => exact routine.still h
  | spawn s input _ _ _ spawned => exact .spawnHere spawned
  | remoteSpawn caller input _ spawned =>
    exact (Still.told (Told.remoteOwner caller)).trans (.spawnHere spawned)
  | remoteEnded event full => exact .told (Told.remoteEnded full event)
  | describe product =>
    refine @Still.addLaunch d _ _ d.entries d.names rfl rfl fun p _ listed => ?_
    simpa [Directory.listed] using listed
  | startChild => exact .setLaunch rfl rfl
  | revoke => exact (Still.setTokens _).trans (.setLaunch rfl rfl)
  | claim s l hello sent _ unknown => exact .claim h s l unknown _ hello sent
  | openID s l id launch fresh waiting _ _ free =>
    have opening := uncommitted (s := s) (by simp [waiting])
    exact ((Still.identified h launch fresh waiting id).trans
      (.setEntry (d := d.identified l id) free _)).trans (.unpublished opening opening)
  | refusedID s l id answer launch fresh waiting =>
    have opening := uncommitted (s := s) (by simp [waiting])
    exact (Still.identified h launch fresh waiting id).trans
      (.unpublished opening ((Still.openFailed_committed _ _).trans opening))
  | execute => exact .setItem rfl rfl rfl rfl
  | finishRun => exact .setItem rfl rfl rfl rfl
  | closeWire s => exact .calm (Calm.session ⟨rfl, rfl, rfl, rfl, rfl, rfl⟩)
  | link => exact .calm { Calm.refl d with }
  | shutdown => exact .calm { Calm.refl d with }
  | _ => cases quiet

end Directory

end Sessionbus
