import Sessionbus.Directory.Runs

/-!
# What no step takes back

Entries and launches are never reused: a launch keeps its entry and what it replaced, an
entry keeps its kind and its owner, and only the entry of an open launch gets a session.
-/

namespace Sessionbus

namespace Directory

attribute [local grind =] Function.update_apply

structure Later (d d' : Directory) : Prop where
  items : d.nextItem ≤ d'.nextItem
  launches : d.nextLaunch ≤ d'.nextLaunch
  launch : ∀ l, l < d.nextLaunch → (d'.launches l).entry = (d.launches l).entry ∧
    (d'.launches l).previous = (d.launches l).previous ∧
    (d'.launches l).describe = (d.launches l).describe ∧
    (d'.launches l).fresh = (d.launches l).fresh ∧
    ((d.launches l).concluded = true → (d'.launches l).concluded = true)
  added : ∀ l, d.nextLaunch ≤ l → l < d'.nextLaunch → d.nextItem ≤ (d'.launches l).entry
  kind : ∀ p, p < d.nextItem → (d'.items p).peer = (d.items p).peer ∧
    (d'.items p).parent = (d.items p).parent
  row : ∀ p, p < d.nextItem → (d.items p).peer = false →
    (∀ l, d.Open l → (d.launches l).entry ≠ p) → (d'.items p).row = (d.items p).row
  name : ∀ p, p < d.nextItem → (d.items p).peer = false →
    (d'.items p).row.name = (d.items p).row.name
  attached : ∀ p s, p < d.nextItem → (d'.items p).attachment = some s →
    (d.items p).attachment = some s ∨ ∃ l, d.Open l ∧ (d.launches l).entry = p

variable {d d' : Directory}

namespace Later

theorem open_old (h : Later d d') {l p : Ptr} (hl : d'.Open l) (entry : (d'.launches l).entry = p)
    (old : p < d.nextItem) : d.Open l ∧ (d.launches l).entry = p := by
  have hlt : l < d.nextLaunch := by
    by_contra hn
    have := h.added l (Nat.not_lt.mp hn) hl.1
    rw [entry] at this
    exact Nat.not_lt.mpr this old
  obtain ⟨same, -, -, -, concluded⟩ := h.launch l hlt
  refine ⟨⟨hlt, ?_⟩, same.symm.trans entry⟩
  by_contra hc
  have := concluded (by simpa using hc)
  simp [hl.2] at this

theorem refl (d : Directory) : Later d d where
  items := Nat.le_refl _
  launches := Nat.le_refl _
  launch _ _ := ⟨rfl, rfl, rfl, rfl, id⟩
  added _ h h' := absurd h' (Nat.not_lt.mpr h)
  kind _ _ := ⟨rfl, rfl⟩
  row _ _ _ _ := rfl
  name _ _ _ := rfl
  attached _ _ _ := .inl

theorem trans {d'' : Directory} (h : Later d d') (h' : Later d' d'') : Later d d'' where
  items := h.items.trans h'.items
  launches := h.launches.trans h'.launches
  launch l hl := by
    obtain ⟨a, b, c, e, f⟩ := h.launch l hl
    obtain ⟨a', b', c', e', f'⟩ := h'.launch l (Nat.lt_of_lt_of_le hl h.launches)
    exact ⟨a'.trans a, b'.trans b, c'.trans c, e'.trans e, f' ∘ f⟩
  added l hl hl' := by
    by_cases hlt : l < d'.nextLaunch
    · rw [(h'.launch l hlt).1]
      exact h.added l hl hlt
    · exact h.items.trans (h'.added l (Nat.not_lt.mp hlt) hl')
  kind p hp := by
    obtain ⟨a, b⟩ := h.kind p hp
    obtain ⟨a', b'⟩ := h'.kind p (Nat.lt_of_lt_of_le hp h.items)
    exact ⟨a'.trans a, b'.trans b⟩
  row p hp lane free := by
    have later : (d''.items p).row = (d'.items p).row := by
      refine h'.row p (Nat.lt_of_lt_of_le hp h.items) ((h.kind p hp).1.trans lane) fun l hl he => ?_
      obtain ⟨ho, entry⟩ := h.open_old hl he hp
      exact free l ho entry
    exact later.trans (h.row p hp lane free)
  name p hp lane :=
    (h'.name p (Nat.lt_of_lt_of_le hp h.items) ((h.kind p hp).1.trans lane)).trans
    (h.name p hp lane)
  attached p s hp ha := by
    rcases h'.attached p s (Nat.lt_of_lt_of_le hp h.items) ha with ha | ⟨l, hl, he⟩
    · exact h.attached p s hp ha
    · exact .inr ⟨l, h.open_old hl he hp⟩

/-! ## Updates -/

theorem same (items : d'.items = d.items) (launches : d'.launches = d.launches)
    (nextItem : d'.nextItem = d.nextItem) (nextLaunch : d'.nextLaunch = d.nextLaunch) :
    Later d d' where
  items := nextItem.ge
  launches := nextLaunch.ge
  launch l _ := by rw [launches]; exact ⟨rfl, rfl, rfl, rfl, id⟩
  added _ h h' := absurd h' (Nat.not_lt.mpr (nextLaunch ▸ h))
  kind p _ := by rw [items]; exact ⟨rfl, rfl⟩
  row p _ _ _ := by rw [items]
  name p _ _ := by rw [items]
  attached p s _ h := .inl (by rw [items] at h; exact h)

theorem calm (c : Calm d d') : Later d d' := same c.items c.launches c.nextItem c.nextLaunch

theorem setSession (s : Ptr) (v : Party) : Later d (d.setSession s v) := same rfl rfl rfl rfl

theorem setItem {p : Ptr} {v : Item} (peer : v.peer = (d.items p).peer)
    (parent : v.parent = (d.items p).parent)
    (row : v.row = (d.items p).row ∨ v.peer = true ∨ ∃ l, d.Open l ∧ (d.launches l).entry = p)
    (name : v.row.name = (d.items p).row.name ∨ v.peer = true)
    (attached : ∀ s, v.attachment = some s → (d.items p).attachment = some s ∨ ∃ l, d.Open l ∧
      (d.launches l).entry = p) :
    Later d (d.setItem p v) := by
  refine { refl d with
    kind := fun q _ => ?_, row := fun q _ lane free => ?_, name := fun q _ lane => ?_,
      attached := fun q s _ ha => ?_ }
  · grind
  · grind
  · grind
  · by_cases heq : q = p
    · subst heq
      exact attached s (by simpa using ha)
    · exact .inl (by simpa [Function.update_of_ne heq] using ha)

theorem mark {p : Ptr} {v : Item} (peer : v.peer = (d.items p).peer)
    (parent : v.parent = (d.items p).parent) (row : v.row = (d.items p).row)
    (attached : v.attachment = (d.items p).attachment ∨ v.attachment = none) :
    Later d (d.setItem p v) :=
  setItem peer parent (.inl row) (.inl (by rw [row])) fun s hs => .inl (by grind)

theorem setLaunch {l : Ptr} {v : Launch} (entry : v.entry = (d.launches l).entry)
    (previous : v.previous = (d.launches l).previous)
    (describe : v.describe = (d.launches l).describe) (fresh : v.fresh = (d.launches l).fresh)
    (concluded : (d.launches l).concluded = true → v.concluded = true) :
    Later d (d.setLaunch l v) := by
  refine { refl d with
    launch := fun l' _ => ?_, added := fun l' hl hl' => absurd hl' (Nat.not_lt.mpr hl) }
  grind

theorem addLaunch (item : Item) (launch : Launch) : Later d (d.addLaunch item launch) := by
  refine ⟨Nat.le_succ _, Nat.le_succ _, fun l hl => ?_, fun l hl hl' => ?_, fun p hp => ?_,
    fun p hp _ _ => ?_, fun p hp _ => ?_, fun p s hp ha => ?_⟩
  all_goals grind

theorem seat (s : Ptr) (id : String) (item : Item) : Later d (d.seat s id item) := by
  refine { refl d with
    items := Nat.le_succ _, added := ?_, kind := fun p hp => ?_, row := fun p hp _ _ =>
      ?_, name := fun p hp _ => ?_
    attached := fun p s hp ha => ?_ }
  · exact fun l hl hl' => absurd hl' (Nat.not_lt.mpr hl)
  all_goals grind

theorem endEntry (full : List Ptr) (p : Ptr) : Later d (d.endEntry full p) := by
  have ended : Later d (d.setItem p (d.items p).ended) := mark rfl rfl rfl (.inr rfl)
  exact ended.trans (calm (Calm.endEntry full p))

/-! ## Operations -/

theorem takeID (full : List Ptr) (host : String) (s : Ptr) (hello : PeerHello) :
    Later d (d.takeID full host s hello) := by
  unfold Directory.takeID
  simp only
  split
  next found _ =>
    have marked : Later d (d.setItem found ((d.items found).setLifetime none)) :=
      mark rfl rfl rfl (.inl rfl)
    exact (marked.trans (endEntry full found)).trans (seat _ _ _)
  · exact (calm (Told.newOwner _).calm).trans (seat _ _ _)

theorem replacePeer (full : List Ptr) (s : Ptr) (hello : PeerHello) (old : Option Ptr) :
    Later d (d.replacePeer full s hello old) := by
  unfold Directory.replacePeer
  split
  · exact takeID full _ s hello
  next o =>
    have unlisted : Later d (d.setEntry (d.items o).row.sessionID none) := same rfl rfl rfl rfl
    exact (unlisted.trans (endEntry full o)).trans (takeID full _ s hello)

theorem installPeer (h : d.Sound) {full : List Ptr} {s : Ptr} {hello : PeerHello}
    (vacant : (d.sessions s).launch = none) (heq : d.installPeer full s hello = some d') :
    Later d d' := by
  obtain ⟨old, identity, -, -, rfl⟩ | ⟨old, -, -, -, rfl⟩ := installPeer_cases heq
  · exact setItem rfl rfl (.inr (.inl (h.seats.peer s old vacant identity).1))
      (.inr (h.seats.peer s old vacant identity).1) fun s => .inl
  · exact replacePeer full s hello old

theorem spawnHere {parent : Ptr} {caller : Caller} {input : LaneSpawnRequest}
    (heq : d.spawnHere parent caller input = some d') : Later d d' := by
  obtain ⟨-, row, launch, entries, names, -, -, -, -, rfl⟩ := spawnHere_cases heq
  exact (addLaunch (.reserved row (some parent)) launch).trans (same rfl rfl rfl rfl)

theorem restore (l : Ptr) : Later d (d.restore l) := by
  rw [restore_frame]
  exact same rfl rfl rfl rfl

theorem releaseLaunch (full : List Ptr) (l : Ptr) : Later d (d.releaseLaunch full l) := by
  have tokens : Later d (d.setTokens (d.tokens.filter (· != l))) := same rfl rfl rfl rfl
  unfold Directory.releaseLaunch
  simp only
  split
  · have unclaimed : Later d ((d.setTokens (d.tokens.filter (· != l))).setItem (d.launches l).entry
        ((d.entryOf l).setClaimed false)) := tokens.trans (mark rfl rfl rfl (.inl rfl))
    refine trans ?_ (restore l)
    refine trans ?_ (setLaunch rfl rfl rfl rfl fun _ => rfl)
    exact unclaimed.trans (endEntry full _)
  · exact tokens

theorem reply (l : Ptr) (answer : Answer) : Later d (d.reply l answer) :=
  setLaunch rfl rfl rfl rfl id

theorem identified {l : Ptr} (hl : d.Open l) (id : String) : Later d (d.identified l id) :=
  setItem rfl rfl (.inr (.inr ⟨l, hl, rfl⟩)) (.inl rfl) fun _ => .inl

theorem attach (s : Ptr) {l : Ptr} (hl : d.Open l) (createdAt : Nat) :
    Later d (d.attach l s createdAt) := by
  have owned :
      Later d (d.newOwner { id := (d.entryOf l).row.sessionID, token := ownerToken d.nextOwner }) :=
    calm (Told.newOwner _).calm
  refine trans ?_ (setLaunch rfl rfl rfl rfl fun _ => rfl)
  exact owned.trans (setItem rfl rfl (.inr (.inr ⟨l, hl, rfl⟩)) (.inl (stamp_frame _ _).2.1)
    fun s' hs' => .inr ⟨l, hl, rfl⟩)

theorem offline (p s : Ptr) (forget : Bool) : Later d (d.offline p s forget) := by
  unfold Directory.offline
  extract_lets item item' d'
  have marked : Later d d' := by
    refine mark ?_ ?_ ?_ ?_
    all_goals simp only [item', item]; split <;> simp
  split
  · unfold Directory.forgetEntry
    split
    · exact marked.trans (same rfl rfl rfl rfl)
    · exact marked
  · exact marked

theorem finish (full : List Ptr) (s : Ptr) (deleted : Bool) :
    Later d (d.finish full s deleted) := by
  unfold Directory.finish
  extract_lets p d₁
  refine trans ?_ (setSession s _)
  simp only [d₁]
  split
  next l item _ _ =>
    split
    · refine trans ?_ (offline item s _)
      split
      · exact reply l _
      · exact refl d
    · split
      · exact (releaseLaunch full l).trans (reply l _)
      · exact releaseLaunch full l
  · exact refl d

theorem finishOfflineClose (p : Ptr) (forget deleted : Bool) :
    Later d (d.finishOfflineClose p forget deleted) := by
  have erased : Later d { d with offlineClosing := d.offlineClosing.erase p } :=
    same rfl rfl rfl rfl
  unfold Directory.finishOfflineClose
  simp only
  split
  · refine erased.trans
      (trans (mark (p := p) (v := (d.items p).setClaimed false) rfl rfl rfl (.inl rfl)) ?_)
    split
    · split <;> exact same rfl rfl rfl rfl
    · exact refl _
  · exact erased

theorem step (h : d.Sound) (a : Action) : Later d (d.step a) := by
  have does := d.does a
  generalize d.step a = d' at does ⊢
  cases does with
  | routine routine =>
    cases routine with
    | idle => exact refl d
    | own => exact setSession _ _
    | forward s => exact calm (Told.postCallerForward s _).calm
    | remoteOwner => exact calm (Told.remoteOwner _).calm
    | openFailed => exact setSession _ _
  | hello s value full vacant _ _ _ _ installed => exact installPeer h vacant installed
  | spawn s input _ _ _ spawned => exact spawnHere spawned
  | remoteSpawn caller input _ spawned =>
    exact (calm (Told.remoteOwner caller).calm).trans (spawnHere spawned)
  | remoteEnded event full => exact calm (Told.remoteEnded full event).calm
  | describe => exact addLaunch _ _
  | startChild => exact setLaunch rfl rfl rfl rfl id
  | revoke l =>
    have tokens : Later d (d.setTokens (d.tokens.filter (· != l))) := same rfl rfl rfl rfl
    exact tokens.trans (setLaunch rfl rfl rfl rfl id)
  | release l full =>
    refine trans ?_ (reply l _)
    exact (releaseLaunch full l).trans (setLaunch rfl rfl rfl rfl id)
  | claim s l =>
    have claimed : Later d (d.setLaunch l ((d.launches l).claim s)) := setLaunch rfl rfl rfl rfl id
    exact claimed.trans (same rfl rfl rfl rfl)
  | openID s l id launch _ waiting =>
    exact (identified (h.open_session launch (by simp [waiting])) id).trans (same rfl rfl rfl rfl)
  | refusedID s l id _ launch _ waiting =>
    exact (identified (h.open_session launch (by simp [waiting])) id).trans (same rfl rfl rfl rfl)
  | publish s l _ answer launch _ may =>
    exact ((attach s (h.open_session launch (mayPublish_opening may)) _).trans
      (setSession s _)).trans (reply l answer)
  | execute => exact mark rfl rfl rfl (.inl rfl)
  | finishRun => exact mark rfl rfl rfl (.inl rfl)
  | closeWritten => exact mark rfl rfl rfl (.inl rfl)
  | closeWire => exact setSession _ _
  | lost => exact setSession _ _
  | detach s full p =>
    refine (endEntry full p).trans (trans ?_ (setSession s _))
    unfold Directory.leave
    split
    · exact same rfl rfl rfl rfl
    · exact mark rfl rfl rfl (.inl rfl)
  | finish s deleted full => exact finish full s deleted
  | closeOffline p =>
    have claimed : Later d (d.setItem p ((d.items p).setClaimed true)) :=
      mark rfl rfl rfl (.inl rfl)
    exact claimed.trans (same rfl rfl rfl rfl)
  | finishOfflineClose p forget deleted => exact finishOfflineClose p forget deleted
  | link => exact same rfl rfl rfl rfl
  | shutdown => exact same rfl rfl rfl rfl

theorem run (h : d.Sound) (actions : List Action) : Later d (d.run actions) := by
  induction actions generalizing d with
  | nil => exact refl d
  | cons a actions ih => exact (step h a).trans (ih (h.step a))

end Later

/-- No later action takes entries and launches back. -/
theorem history_kept (host : String) (u : Unicode) (rows : List Row) (actions more : List Action) :
    Later ((newDirectory host u rows).run actions)
      (((newDirectory host u rows).run actions).run more) :=
  .run ((sound_newDirectory host u rows).run actions) more

end Directory

end Sessionbus
