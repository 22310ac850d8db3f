import Sessionbus.Directory.Launch

/-!
# A launch that is not published leaves the directory as it was
-/

namespace Sessionbus

namespace Directory

attribute [local grind =] Function.update_apply

variable {d : Directory}

theorem restore_previous_entries {l q : Ptr} (previous : (d.launches l).previous = some q)
    (other : q ≠ (d.launches l).entry) :
    (d.restore l).entries = (d.setEntry (d.entryOf l).row.sessionID (some q)).entries := by
  have unlisted :
      ¬ (((d.setEntry (d.entryOf l).row.sessionID (some q)).setName (d.entryOf l).row.name
        (some q)).setName (d.entryOf l).row.name none).listed (d.launches l).entry = true := by
    simp [Directory.listed, other]
  unfold Directory.restore
  simp only [previous]
  split <;> rfl

theorem restore_previous {l q : Ptr} (previous : (d.launches l).previous = some q)
    (created : (d.entryOf l).row.createdAt ≠ 0) :
    d.restore l =
      (d.setEntry (d.entryOf l).row.sessionID (some q)).setName (d.entryOf l).row.name
        (some q) := by
  simp [Directory.restore, previous, created]

theorem restore_new {l : Ptr} (previous : (d.launches l).previous = none)
    (lane : (d.entryOf l).peer = false) (created : (d.entryOf l).row.createdAt = 0) :
    d.restore l =
      (d.setName (d.entryOf l).row.name none).setEntry (d.entryOf l).row.sessionID
        (if d.listed (d.launches l).entry then none
        else d.entries (d.entryOf l).row.sessionID) := by
  have listed : (d.setName (d.entryOf l).row.name none).listed (d.launches l).entry =
      d.listed (d.launches l).entry := rfl
  unfold Directory.restore
  simp only [previous]
  rw [if_pos (by simp [lane, created]), listed]
  split
  · rfl
  · simp [Directory.setEntry, Directory.setName]

/-- The entry of a launch, unclaimed and ended. -/
def closeEntry (d : Directory) (l : Ptr) : Directory :=
  (d.setItem (d.launches l).entry ((d.entryOf l).setClaimed false).ended).setLaunch l
    (d.launches l).conclude

@[simp, grind =]
theorem closeEntry_entry (l l' : Ptr) :
    ((d.closeEntry l).launches l').entry = (d.launches l').entry := by
  unfold closeEntry
  grind

@[simp, grind =]
theorem closeEntry_previous (l l' : Ptr) :
    ((d.closeEntry l).launches l').previous = (d.launches l').previous := by
  unfold closeEntry
  grind

@[simp, grind =]
theorem closeEntry_row (l p : Ptr) : ((d.closeEntry l).items p).row = (d.items p).row := by
  unfold closeEntry
  grind

@[simp, grind =]
theorem closeEntry_peer (l p : Ptr) : ((d.closeEntry l).items p).peer = (d.items p).peer := by
  unfold closeEntry
  grind

@[simp, grind =]
theorem closeEntry_entries (l : Ptr) (id : String) :
    (d.closeEntry l).entries id = d.entries id := rfl

@[simp, grind =]
theorem closeEntry_names (l : Ptr) (n : String) : (d.closeEntry l).names n = d.names n := rfl

@[simp, grind =]
theorem closeEntry_listed (l p : Ptr) : (d.closeEntry l).listed p = d.listed p := by
  simp [Directory.listed]

theorem Sound.previous_unopened (h : d.Sound) {l q k : Ptr} (hl : d.Open l)
    (hq : (d.launches l).previous = some q) (hk : d.Open k) : (d.launches k).entry ≠ q := by
  rintro rfl
  have unclaimed := (h.holds.kept l _ hl hq).1
  rw [(h.holds.claimed k hk).1] at unclaimed
  simp at unclaimed

theorem Sound.without (h : d.Sound) {d' : Directory} {l : Ptr} (hl : d.Open l)
    (rows : ∀ p, (d'.items p).row = (d.items p).row ∧ (d'.items p).peer = (d.items p).peer)
    (entryEq : ∀ l', (d'.launches l').entry = (d.launches l').entry)
    (previousEq : ∀ l', (d'.launches l').previous = (d.launches l').previous)
    (kindEq : ∀ l', (d'.launches l').describe = (d.launches l').describe ∧
      (d'.launches l').fresh = (d.launches l').fresh)
    (opens : ∀ l', d'.Open l' ↔ d.Open l' ∧ l' ≠ l) (nextItem : d'.nextItem = d.nextItem)
    (nextLaunch : d'.nextLaunch = d.nextLaunch)
    (entries : ∀ id p, d'.entries id = some p ↔ d.entries id = some p ∧ p ≠ (d.launches l).entry ∨
      (d.launches l).previous = some p ∧ id = (d.entryOf l).row.sessionID) : d'.Shape := by
  have same : ∀ l', d.Open l' → (d.launches l').entry = (d.launches l).entry → l' = l :=
    fun l' hl' =>
    h.shape.ownEntry l' l hl'.1 hl.1
  have resumed := fun q => h.shape.resumed l q hl
  have hlt := (h.shape.laneEntry l hl.1).1
  have unopened := fun q l' => h.previous_unopened (l := l) (q := q) (k := l') hl
  constructor
  case ids =>
    intro id p he
    rw [entries] at he
    have := h.shape.ids id p
    simp only [rows, nextItem]
    grind
  case ownEntry => simpa only [entryEq, nextLaunch] using h.shape.ownEntry
  case laneEntry =>
    simpa only [entryOf, entryEq, nextLaunch, nextItem, rows] using h.shape.laneEntry
  case kinds => simpa only [kindEq, previousEq, nextLaunch] using h.shape.kinds
  case described =>
    intro l' hl' hd id he
    obtain ⟨ho, hne⟩ := (opens l').mp hl'
    simp only [kindEq, entryEq] at hd he
    have := h.shape.described l' ho hd
    rw [entries] at he
    grind
  case fresh =>
    intro l' hl' hq
    simp only [previousEq, entryOf, entryEq, rows] at hq ⊢
    exact h.shape.fresh l' ((opens l').mp hl').1 hq
  case resumed =>
    intro l' q hl' hq
    obtain ⟨ho, hne⟩ := (opens l').mp hl'
    simp only [previousEq, entryOf, entryEq, rows] at hq ⊢
    rw [entries]
    have := h.shape.resumed l' q ho hq
    grind

theorem Sound.restore_entries (h : d.Sound) {l : Ptr} (hl : d.Open l) (id : String) (p : Ptr) :
    ((d.closeEntry l).restore l).entries id = some p ↔ d.entries id = some p ∧
    p ≠ (d.launches l).entry ∨
      (d.launches l).previous = some p ∧ id = (d.entryOf l).row.sessionID := by
  have lane := (h.shape.laneEntry l hl.1).2
  have ids := h.shape.ids
  cases hq : (d.launches l).previous with
  | none =>
    have zero := h.shape.fresh l hl hq
    rw [restore_new (by simp [hq]) (by simp [lane]) (by simp [zero])]
    simp only [closeEntry_entry, closeEntry_row, closeEntry_listed, closeEntry_entries]
    unfold Directory.listed
    grind
  | some q =>
    obtain ⟨entry, hlt, -⟩ := h.shape.resumed l q hl hq
    have hne : q ≠ (d.launches l).entry := hlt.ne
    rw [restore_previous_entries (by simpa using hq) (by simpa using hne)]
    simp only [closeEntry_entry, closeEntry_row, setEntry_entries]
    grind

theorem restore_frame (d : Directory) (l : Ptr) :
    d.restore l = { d with entries := (d.restore l).entries, names := (d.restore l).names } := by
  unfold Directory.restore
  simp only
  split <;> split <;> try split
  all_goals rfl

/-- What the release of an open launch does, as far as the invariant reads it. -/
structure Released (d : Directory) (l : Ptr) (d' : Directory) : Prop where
  entries : ∀ id p, d'.entries id = some p ↔ d.entries id = some p ∧ p ≠ (d.launches l).entry ∨
    (d.launches l).previous = some p ∧ id = (d.entryOf l).row.sessionID
  names : d'.names = ((d.closeEntry l).restore l).names
  items : d'.items = Function.update d.items (d.launches l).entry
    ((d.entryOf l).setClaimed false).ended
  launches : d'.launches = Function.update d.launches l (d.launches l).conclude
  tokens : d'.tokens = d.tokens.filter (· != l)
  nextItem : d'.nextItem = d.nextItem
  nextLaunch : d'.nextLaunch = d.nextLaunch
  offlineClosing : d'.offlineClosing = d.offlineClosing
  sessions : ∀ s, Heard (d.sessions s) (d'.sessions s)

theorem Released.told {d₁ d₂ : Directory} {l : Ptr} (r : Released d l d₁) (t : Told d₁ d₂) :
    Released d l d₂ where
  entries := by rw [t.entries]; exact r.entries
  names := t.names.trans r.names
  items := t.items.trans r.items
  launches := t.launches.trans r.launches
  tokens := t.tokens.trans r.tokens
  nextItem := t.nextItem.trans r.nextItem
  nextLaunch := t.nextLaunch.trans r.nextLaunch
  offlineClosing := t.offlineClosing.trans r.offlineClosing
  sessions s := (r.sessions s).trans (t.sessions s)

theorem restore_congr {e : Directory} (entries : e.entries = d.entries) (names : e.names = d.names)
    (items : e.items = d.items) (launches : e.launches = d.launches) (l : Ptr) :
    (e.restore l).entries = (d.restore l).entries ∧ (e.restore l).names = (d.restore l).names := by
  unfold Directory.restore Directory.listed Directory.setEntry Directory.setName
  simp only [launches, items]
  cases (d.launches l).previous <;> simp only [items, entries, names] <;> split_ifs <;>
    simp [entries, names]

theorem Told.restore {d' : Directory} (t : Told d d') (l : Ptr) :
    Told (d.restore l) (d'.restore l) := by
  have maps := restore_congr t.entries t.names t.items t.launches l
  rw [restore_frame d, restore_frame d']
  exact { t with entries := maps.1, names := maps.2 }

theorem Told.setLaunch {d' : Directory} (t : Told d d') (l : Ptr) (v : Launch) :
    Told (d.setLaunch l v) (d'.setLaunch l v) :=
  { t with launches := by simp only [Directory.setLaunch, t.launches] }

theorem Sound.releaseLaunch (h : d.Sound) {l : Ptr} (hl : d.Open l) (full : List Ptr) :
    Released d l (d.releaseLaunch full l) := by
  have claimed := (h.holds.claimed l hl).1
  -- The ended entry, up to what the end of its lifetime does to others.
  have ended : Told ((d.setTokens (d.tokens.filter (· != l))).setItem (d.launches l).entry
        ((d.entryOf l).setClaimed false).ended)
      (((d.setTokens (d.tokens.filter (· != l))).setItem (d.launches l).entry
        ((d.entryOf l).setClaimed false)).endEntry full (d.launches l).entry) := by
    simpa [Directory.setItem] using Told.endEntry full (d.launches l).entry
      (d := (d.setTokens (d.tokens.filter (· != l))).setItem (d.launches l).entry
        ((d.entryOf l).setClaimed false))
  have restored :
      Released d l (((d.closeEntry l).setTokens (d.tokens.filter (· != l))).restore l) := by
    have sound : (d.setTokens (d.tokens.filter (· != l))).Sound :=
      ⟨{ h.shape with }, { h.seats with
          tokened := fun l' hl' => h.seats.tokened l' (List.mem_of_mem_filter hl')
          revoked := fun l' hl' =>
            ⟨(h.seats.revoked l' hl').1, (h.seats.revoked l' hl').2.1, fun hm =>
            (h.seats.revoked l' hl').2.2 (List.mem_of_mem_filter hm)⟩ }, { h.holds with }⟩
    have entries := sound.restore_entries (l := l) hl
    have names := (restore_congr (d := d.closeEntry l)
      (e := (d.closeEntry l).setTokens (d.tokens.filter (· != l))) rfl rfl rfl rfl l).2
    rw [restore_frame]
    exact ⟨entries, names, rfl, rfl, rfl, rfl, rfl, rfl, fun _ => Heard.refl _⟩
  refine restored.told ?_
  unfold Directory.releaseLaunch
  simp only [setTokens_items, setTokens_launches]
  rw [if_pos claimed, ended.launches]
  exact (ended.setLaunch l _).restore l

/-- The directory after a release, once the launch's goroutine or its session is done with it. -/
@[simps entries names items launches tokens sessions nextItem nextLaunch offlineClosing]
def settled (d : Directory) (l : Ptr) (sessions : Ptr → Party) : Directory :=
  { d with launches := Function.update d.launches l ((d.launches l).setRevoked none), sessions }

attribute [local grind =] settled_entries settled_names settled_items settled_launches
  settled_tokens settled_sessions settled_nextItem settled_nextLaunch settled_offlineClosing

variable {x : Directory} {l : Ptr} {f : Ptr → Party}

theorem Released.opens (r : Released d l x) (l' : Ptr) :
    (x.settled l f).Open l' ↔ d.Open l' ∧ l' ≠ l := by
  have launches := congrFun r.launches
  have := r.nextLaunch
  unfold Open
  grind

theorem Released.shape (h : d.Sound) (hl : d.Open l) (r : Released d l x) :
    (x.settled l f).Shape := by
  have items := congrFun r.items
  have launches := congrFun r.launches
  exact h.without hl (by grind) (by grind) (by grind)
    (by grind) r.opens r.nextItem r.nextLaunch r.entries

theorem Released.holds (h : d.Sound) (hl : d.Open l) (r : Released d l x)
    (same : ∀ s, (f s).identity = (d.sessions s).identity ∧
      (f s).committed = (d.sessions s).committed ∧ (f s).closed = (d.sessions s).closed) :
    (x.settled l f).Holds := by
  have opens := r.opens (f := f)
  have entries := r.entries
  have items := congrFun r.items
  have launches := congrFun r.launches
  have own : ∀ l', d.Open l' → (d.launches l').entry = (d.launches l).entry → l' = l :=
    fun l' hl' =>
    h.shape.ownEntry l' l hl'.1 hl.1
  have lane := (h.shape.laneEntry l hl.1).2
  have resumed := fun q => h.shape.resumed l q hl
  constructor
  case peers => have := h.holds.peers; grind
  case attached => have := h.holds.attached; have := (h.holds.claimed l hl).2.1; grind
  case idle => have := h.holds.idle; grind
  case live => have := h.holds.live; have := (h.holds.claimed l hl).2.1; grind
  case claimed => have := h.holds.claimed; grind
  case kept => have := h.holds.kept; grind
  case closers => have := h.holds.closers; have := r.offlineClosing; have := r.nextItem; grind

theorem Released.seats (h : d.Sound) (hl : d.Open l) (r : Released d l x)
    (sessions : ∀ s, Keeps (d.sessions s) (f s) ∨ (d.sessions s).launch = some l ∧
      Keeps (d.sessions s).return_ (f s))
    (returned : ∀ s, (d.sessions s).launch = some l → (f s).returned = true) :
    (x.settled l f).Seats := by
  have opens := r.opens (f := f)
  have items := congrFun r.items
  have launches := congrFun r.launches
  have seat s : (f s).identity = (d.sessions s).identity ∧ (f s).launch = (d.sessions s).launch ∧
      (f s).committed = (d.sessions s).committed ∧ (f s).closed = (d.sessions s).closed ∧
      ((f s).opening = (d.sessions s).opening ∧ (f s).returned = (d.sessions s).returned ∨
        (d.sessions s).launch = some l ∧ (f s).opening = .none) := by
    unfold Keeps at sessions
    grind
  have nextItem := r.nextItem
  have nextLaunch := r.nextLaunch
  constructor
  case lane =>
    intro s' l' hs'
    have := seat s'
    have := h.seats.lane s' l'
    grind
  case peer => have := h.seats.peer; grind
  case committed => have := h.seats.committed; grind
  case opening => have := h.seats.opening; grind
  case busy => have := h.seats.busy; grind
  case uncommitted => have := h.seats.uncommitted; grind
  case concluded => have := h.seats.concluded; grind
  case owned => have := h.seats.owned; grind
  case unlisted =>
    intro l' hl' hf hw id he
    obtain ⟨ho, hne⟩ := (opens l').mp hl'
    have entry : ((x.settled l f).launches l').entry = (d.launches l').entry := by grind
    rw [entry] at he
    rcases (r.entries id _).mp he with ⟨he, -⟩ | ⟨hq, -⟩
    · refine h.seats.unlisted l' ho (by grind) (fun s hs => ?_) id he
      have := hw s (by grind)
      have := h.seats.owned l' s ho.1 hs
      grind
    · have := (h.holds.kept l _ hl hq).1
      have := (h.holds.claimed l' ho).1
      simp_all
  case tokened => have := h.seats.tokened; have := r.tokens; grind
  case revoked => have := h.seats.revoked; have := r.tokens; grind

theorem Sound.release (h : d.Sound) (full : List Ptr) {l : Ptr} {answer : Answer}
    (revoked : (d.launches l).revoked = some answer) :
    (((d.releaseLaunch full l).setLaunch l
      (((d.releaseLaunch full l).launches l).setRevoked none)).reply l answer).Sound := by
  obtain ⟨hl, unowned, -⟩ := h.seats.revoked l (by simp [revoked])
  have r := h.releaseLaunch hl full
  have nobody : ∀ s, (d.sessions s).launch ≠ some l := fun s hs => by
    have := (h.seats.lane s l hs).2.1
    simp_all
  have settled : ((d.releaseLaunch full l).settled l (d.releaseLaunch full l).sessions).Sound :=
    ⟨r.shape h hl, r.seats h hl (fun s => .inl (r.sessions s).keeps)
      fun s hs => absurd hs (nobody s), r.holds h hl
      fun s => ⟨(r.sessions s).keeps.1, (r.sessions s).keeps.2.2.2.1,
        (r.sessions s).keeps.2.2.2.2.1⟩⟩
  exact settled.reply l answer

theorem Sound.returns (h : d.Sound) {s : Ptr}
    (done : ∀ l, (d.sessions s).launch = some l → ¬ d.Open l) :
    (d.setSession s (d.sessions s).return_).Sound := by
  refine ⟨{ h.shape with }, ?_, { h.holds with attached := ?_, live := ?_ }⟩
  · constructor
    case lane => have := h.seats.lane; grind
    case peer => have := h.seats.peer; grind
    case committed => have := h.seats.committed; grind
    case opening => have := h.seats.opening; grind
    case busy => have := h.seats.busy; grind
    case uncommitted => have := h.seats.uncommitted; grind
    case concluded => have := h.seats.concluded; grind
    case owned => have := h.seats.owned; grind
    case unlisted =>
      intro l hl hf hw
      refine h.seats.unlisted l hl hf fun s' hs' => ?_
      have := hw s' hs'
      have := h.seats.owned l s' hl.1 hs'
      have := done l
      grind
    case tokened => exact h.seats.tokened
    case revoked => exact h.seats.revoked
  · have := h.holds.attached; grind
  · have := h.holds.live; grind

theorem Sound.abandon (h : d.Sound) {s l : Ptr} (launch : (d.sessions s).launch = some l)
    (uncommitted : (d.sessions s).committed = false) (running : (d.sessions s).returned = false)
    (full : List Ptr) :
    ((d.releaseLaunch full l).setSession s
      ((d.releaseLaunch full l).sessions s).return_).Sound := by
  obtain ⟨hlt, owner, -⟩ := h.seats.lane s l launch
  have hl : d.Open l := ⟨hlt, h.seats.uncommitted s l launch uncommitted running⟩
  have r := h.releaseLaunch hl full
  have unrevoked : (d.launches l).revoked = none := by
    by_contra hr
    have := (h.seats.revoked l hr).2.1
    simp_all
  have only : ∀ s', (d.sessions s').launch = some l → s' = s := fun s' hs' => by
    have := (h.seats.lane s' l hs').2.1
    simp_all
  have same : (d.releaseLaunch full l).setSession s ((d.releaseLaunch full l).sessions s).return_ =
      (d.releaseLaunch full l).settled l
        (Function.update (d.releaseLaunch full l).sessions s
          ((d.releaseLaunch full l).sessions s).return_) := by
    have : ((d.releaseLaunch full l).launches l).setRevoked none =
        (d.releaseLaunch full l).launches l := by
      rw [r.launches, Function.update_self]
      simp only [Launch.setRevoked, Launch.conclude, unrevoked]
    simp [Directory.settled, Directory.setSession, this]
  have kept := fun s' => (r.sessions s').keeps
  unfold Keeps at kept
  rw [same]
  refine ⟨r.shape h hl, r.seats h hl (fun s' => ?_) fun s' hs' => ?_, r.holds h hl fun s' => ?_⟩
  · by_cases heq : s' = s
    · subst heq
      have := kept s'
      refine .inr ⟨launch, ?_⟩
      unfold Keeps
      grind
    · exact .inl (by simpa [Function.update_of_ne heq] using (r.sessions s').keeps)
  · grind
  · grind

theorem forgetEntry_frame (d : Directory) (p : Ptr) :
    (d.forgetEntry p).sessions = d.sessions ∧ (d.forgetEntry p).launches = d.launches ∧
      (d.forgetEntry p).tokens = d.tokens ∧ (d.forgetEntry p).nextLaunch = d.nextLaunch := by
  unfold Directory.forgetEntry
  split <;> exact ⟨rfl, rfl, rfl, rfl⟩

theorem offline_frame (d : Directory) (p s : Ptr) (forget : Bool) :
    (d.offline p s forget).sessions = d.sessions ∧ (d.offline p s forget).launches = d.launches ∧
      (d.offline p s forget).tokens = d.tokens ∧
      (d.offline p s forget).nextLaunch = d.nextLaunch := by
  unfold Directory.offline
  extract_lets item item' d'
  cases forget with
  | true => exact forgetEntry_frame d' p
  | false => exact ⟨rfl, rfl, rfl, rfl⟩

theorem Sound.retire (h : d.Sound) {s l : Ptr} (launch : (d.sessions s).launch = some l)
    (committed : (d.sessions s).committed = true) (closed : (d.sessions s).closed = true)
    (forget : Bool) : ((d.offline (d.launches l).entry s forget).setSession s
      ((d.offline (d.launches l).entry s forget).sessions s).return_).Sound := by
  obtain ⟨sessions, launches, -, -⟩ := offline_frame d (d.launches l).entry s forget
  refine (h.offline launch committed closed forget).returns fun l' hl' ho => ?_
  have concluded := h.seats.concluded s l launch committed
  have := ho.2
  rw [sessions] at hl'
  rw [launches] at this
  simp_all

theorem Sound.finish (h : d.Sound) {s : Ptr} (running : (d.sessions s).returned = false)
    (closed : (d.sessions s).closed = true) (full : List Ptr) (deleted : Bool) :
    (d.finish full s deleted).Sound := by
  cases hl : (d.sessions s).launch with
  | none =>
    have returns := h.returns (s := s) (by simp [hl])
    simpa [Directory.finish, hl] using returns
  | some l =>
    have identity := (h.seats.lane s l hl).2.2
    unfold Directory.finish
    simp only [hl, identity]
    cases hc : (d.sessions s).committed with
    | false =>
      have abandoned := h.abandon hl hc running full
      cases (d.sessions s).launchResult with
      | none => exact abandoned
      | some answer => exact abandoned.reply l answer
    | true =>
      cases (d.sessions s).launchResult with
      | none => exact h.retire hl hc closed _
      | some answer =>
        have retired := (h.reply l answer).retire (s := s) (l := l) hl hc closed
          ((d.sessions s).forget && deleted)
        simpa [Directory.reply] using retired

end Directory

end Sessionbus
