import Sessionbus.Directory.History

/-!
# The map of names

Its part of the representation invariant holds along every run from rows with names and
creation times.
-/

namespace Sessionbus

namespace Directory

attribute [local grind =] Function.update_apply

variable {d d' : Directory}

/-! ## Steps that leave the maps and the rows -/

/-- No row and no kind of entry changes. -/
structure SameRows (d d' : Directory) : Prop where
  host : d'.host = d.host
  unicode : d'.unicode = d.unicode
  rows : ∀ p, (d'.items p).row = (d.items p).row ∧ (d'.items p).peer = (d.items p).peer

/-- Nor do the maps and what the launches are for. -/
structure Alike (d d' : Directory) : Prop extends SameRows d d' where
  entries : d'.entries = d.entries
  names : d'.names = d.names
  launches : ∀ l, (d'.launches l).entry = (d.launches l).entry ∧
    (d'.launches l).previous = (d.launches l).previous ∧
    (d'.launches l).describe = (d.launches l).describe ∧
    (d'.launches l).concluded = (d.launches l).concluded
  nextItem : d'.nextItem = d.nextItem
  nextLaunch : d'.nextLaunch = d.nextLaunch

theorem Names.alike (h : d.Names) (a : Alike d d') : d'.Names := by
  have entry l := (a.launches l).1
  have previous l := (a.launches l).2.1
  have describe l := (a.launches l).2.2.1
  have concluded l := (a.launches l).2.2.2
  have rows := a.rows
  constructor
  case named => simpa only [a.names, rows, a.nextItem] using h.named
  case noName => rw [a.names]; exact h.noName
  case lanes => simpa only [a.entries, a.names, rows] using h.lanes
  case created => simpa only [a.entries, rows, Open, concluded, entry, a.nextLaunch] using h.created
  case reserved =>
    simpa only [Open, concluded, describe, entryOf, entry, a.nextLaunch, a.names, rows]
      using h.reserved
  case unnamed =>
    simpa only [Open, concluded, describe, entryOf, entry, a.nextLaunch, rows] using h.unnamed
  case renewed =>
    simpa only [Open, concluded, previous, entryOf, entry, a.nextLaunch, rows] using h.renewed

theorem SameRows.refl (d : Directory) : SameRows d d := ⟨rfl, rfl, fun _ => ⟨rfl, rfl⟩⟩

theorem SameRows.trans {d'' : Directory} (h : SameRows d d') (h' : SameRows d' d'') :
    SameRows d d'' where
  host := h'.host.trans h.host
  unicode := h'.unicode.trans h.unicode
  rows p := ⟨(h'.rows p).1.trans (h.rows p).1, (h'.rows p).2.trans (h.rows p).2⟩

namespace Alike

theorem refl (d : Directory) : Alike d d :=
  ⟨.refl d, rfl, rfl, fun _ => ⟨rfl, rfl, rfl, rfl⟩, rfl, rfl⟩

theorem trans {d'' : Directory} (h : Alike d d') (h' : Alike d' d'') : Alike d d'' where
  toSameRows := h.toSameRows.trans h'.toSameRows
  entries := h'.entries.trans h.entries
  names := h'.names.trans h.names
  launches l := by
    obtain ⟨a, b, c, e⟩ := h.launches l
    obtain ⟨a', b', c', e'⟩ := h'.launches l
    exact ⟨a'.trans a, b'.trans b, c'.trans c, e'.trans e⟩
  nextItem := h'.nextItem.trans h.nextItem
  nextLaunch := h'.nextLaunch.trans h.nextLaunch

theorem told (t : Told d d') : Alike d d' :=
  ⟨⟨t.host, t.unicode, fun p => by rw [t.items]; exact ⟨rfl, rfl⟩⟩, t.entries, t.names,
    fun l => by rw [t.launches]; exact ⟨rfl, rfl, rfl, rfl⟩, t.nextItem, t.nextLaunch⟩

theorem setSession (s : Ptr) (v : Party) : Alike d (d.setSession s v) := { refl d with }

theorem setItem {p : Ptr} {v : Item} (row : v.row = (d.items p).row)
    (peer : v.peer = (d.items p).peer) : Alike d (d.setItem p v) := by
  refine { refl d with rows := fun q => ?_ }
  grind

theorem setLaunch {l : Ptr} {v : Launch} (entry : v.entry = (d.launches l).entry)
    (previous : v.previous = (d.launches l).previous)
    (describe : v.describe = (d.launches l).describe)
    (concluded : v.concluded = (d.launches l).concluded) : Alike d (d.setLaunch l v) := by
  refine { refl d with launches := fun l' => ?_ }
  grind

theorem endEntry (full : List Ptr) (p : Ptr) : Alike d (d.endEntry full p) := by
  have ended : Alike d (d.setItem p (d.items p).ended) := setItem rfl rfl
  exact ended.trans (told (Told.endEntry full p))

theorem reply (l : Ptr) (answer : Answer) : Alike d (d.reply l answer) := setLaunch rfl rfl rfl rfl

end Alike

/-- The action may change the maps or a row. -/
def Action.lists : Action → Bool
  | .hello .. | .spawn .. | .remoteSpawn .. | .describe _ | .release .. | .openID .. | .publish ..
  | .disconnect .. | .finish .. | .finishOfflineClose .. => true
  | _ => false

theorem Routine.alike {a : Action} (routine : Routine d a d') : Alike d d' := by
  cases routine with
  | idle => exact .refl d
  | own => exact .setSession _ _
  | forward s => exact .told (Told.postCallerForward s _)
  | remoteOwner => exact .told (Told.remoteOwner _)
  | openFailed => exact .setSession _ _

theorem Does.alike {a : Action} (does : Does d a d') : Alike d d' ∨ a.lists = true := by
  cases does with
  | routine routine => exact .inl routine.alike
  | remoteEnded event full => exact .inl (.told (Told.remoteEnded full event))
  | startChild => exact .inl (.setLaunch rfl rfl rfl rfl)
  | revoke l =>
    have untold : Alike d (d.setTokens (d.tokens.filter (· != l))) := { Alike.refl d with }
    exact .inl (untold.trans (.setLaunch rfl rfl rfl rfl))
  | claim s l =>
    have owned : Alike d (d.setLaunch l ((d.launches l).claim s)) := .setLaunch rfl rfl rfl rfl
    exact .inl { owned with }
  | execute => exact .inl (.setItem rfl rfl)
  | finishRun => exact .inl (.setItem rfl rfl)
  | closeWritten => exact .inl (.setItem rfl rfl)
  | closeWire => exact .inl (.setSession _ _)
  | lost => exact .inl (.setSession _ _)
  | closeOffline p =>
    have claimed : Alike d (d.setItem p ((d.items p).setClaimed true)) := .setItem rfl rfl
    exact .inl { claimed with }
  | link => exact .inl { Alike.refl d with }
  | shutdown => exact .inl { Alike.refl d with }
  | _ => exact .inr rfl

theorem Shape.endEntry (h : d.Shape) (full : List Ptr) (p : Ptr) : (d.endEntry full p).Shape := by
  have told := Told.endEntry (d := d) full p
  have ended : (d.setItem p (d.items p).ended).Shape := h.setItem rfl rfl
  exact ended.congr told.entries (fun q => by rw [told.items]; exact ⟨rfl, rfl⟩) told.launches
    told.nextItem told.nextLaunch

/-! ## Entries that leave the directory -/

namespace Names

theorem forget (h : d.Names) (shape : d.Shape) {p : Ptr}
    (entry : d.entries (d.items p).row.sessionID = some p) (lane : (d.items p).peer = false)
    (unopened : ∀ l, d.Open l → (d.launches l).entry ≠ p) :
    ((d.setEntry (d.items p).row.sessionID none).setName (d.items p).row.name none).Names := by
  have name := h.lanes _ p entry lane
  have ids := shape.ids
  have old : ∀ id q, Function.update d.entries (d.items p).row.sessionID none id = some q →
      d.entries id = some q ∧ q ≠ p := by
    grind
  constructor
  case named => have := h.named; grind
  case noName => have := h.noName; grind
  case lanes =>
    intro id q he hq
    obtain ⟨he, hne⟩ := old id q he
    have := h.lanes id q he hq
    grind
  case created => exact fun id q he => h.created id q (old id q he).1
  case reserved =>
    intro l hl hd
    have := h.reserved l hl hd
    have := unopened l hl
    grind
  case unnamed => exact h.unnamed
  case renewed => exact h.renewed

theorem unlist (h : d.Names) (id : String) : (d.setEntry id none).Names := by
  have old : ∀ id' q, Function.update d.entries id none id' = some q → d.entries id' = some q := by
    grind
  exact { h with
    lanes := fun id' q he => h.lanes id' q (old id' q he)
    created := fun id' q he => h.created id' q (old id' q he) }

/-! ## New launches -/

theorem created_old (h : d.Names) (sound : d.Sound) {id : String} {p : Ptr} {item : Item}
    {launch : Launch} (entry : d.entries id = some p)
    (lane : ((d.addLaunch item launch).items p).peer = false)
    (zero : ((d.addLaunch item launch).items p).row.createdAt = 0) :
    ∃ l, (d.addLaunch item launch).Open l ∧ ((d.addLaunch item launch).launches l).entry = p := by
  have hlt := (sound.shape.ids id p entry).2
  obtain ⟨l, hl, rfl⟩ := h.created id p entry (by grind) (by grind)
  obtain ⟨ho, hs, -⟩ := sound.open_old hl item launch
  exact ⟨l, ho, by rw [hs]⟩

theorem describe (h : d.Names) (sound : d.Sound) (product : String) :
    (d.addLaunch (.reserved { product } none) { product, describe := true }).Names := by
  have named := h.named
  have ids := sound.shape.ids
  have laneEntry := sound.shape.laneEntry
  constructor
  case named => grind
  case noName => exact h.noName
  case lanes => have := h.lanes; grind
  case created => exact fun id p he => h.created_old sound he
  case reserved => have := h.reserved; grind [Open]
  case unnamed => have := h.unnamed; grind [Open]
  case renewed => have := h.renewed; have := sound.shape.resumed; grind [Open]

theorem reserveFresh (h : d.Names) (sound : d.Sound) {value : Row} {parent : Ptr} {trace : String}
    (name : value.name ≠ "") (heq : d.reserveFresh value parent trace = some d') : d'.Names := by
  unfold Directory.reserveFresh at heq
  simp only [Option.ite_none_left_eq_some, Option.some.injEq, Bool.or_eq_true, not_or,
    Bool.not_eq_true, Option.isSome_eq_false_iff, Option.isNone_iff_eq_none] at heq
  obtain ⟨⟨⟨-, free⟩, -⟩, rfl⟩ := heq
  have named := h.named
  have ids := sound.shape.ids
  have laneEntry := sound.shape.laneEntry
  constructor
  case named => grind
  case noName => have := h.noName; grind
  case lanes => have := h.lanes; grind
  case created => exact fun id p he => h.created_old sound he
  case reserved => have := h.reserved; grind [Open]
  case unnamed => have := h.unnamed; grind [Open]
  case renewed => have := h.renewed; have := sound.shape.resumed; grind [Open]

theorem reserveResume (h : d.Names) (sound : d.Sound) {id : String} {groups : List String}
    {parent : Ptr} {input : LaneSpawnRequest}
    (heq : d.reserveResume id groups parent input = some d') : d'.Names := by
  unfold Directory.reserveResume at heq
  split at heq
  · simp at heq
  next previous entry =>
  simp only [Option.ite_none_left_eq_some, Option.map_eq_some_iff, Bool.or_eq_true, not_or,
    Bool.not_eq_true, Option.isSome_eq_false_iff, Option.isNone_iff_eq_none] at heq
  obtain ⟨⟨⟨⟨⟨⟨-, lane⟩, -⟩, unclaimed⟩, -⟩, -⟩, policy, -, rfl⟩ := heq
  obtain ⟨hid, hlt⟩ := sound.shape.ids id previous entry
  have name := h.lanes id previous entry lane
  have created : (d.items previous).row.createdAt ≠ 0 := by
    intro hz
    obtain ⟨l, hl, rfl⟩ := h.created id previous entry lane hz
    have := (sound.holds.claimed l hl).1
    simp_all
  have free : ∀ l, d.Open l → (d.launches l).entry ≠ previous := by
    rintro l hl rfl
    have := (sound.holds.claimed l hl).1
    simp_all
  generalize hitem : Item.reserved { (d.items previous).row with policy := some policy }
    (some parent) = item
  obtain ⟨launch, hlaunch⟩ : ∃ launch : Launch, launch =
      { parent := some parent, previous := some previous, product := (d.items previous).row.product
        trace := input.trace } := ⟨_, rfl⟩
  rw [← hlaunch]
  have named := h.named
  have ids := sound.shape.ids
  have laneEntry := sound.shape.laneEntry
  constructor
  case named => grind
  case noName => have := h.noName; grind
  case lanes => have := h.lanes; grind
  case created =>
    intro id' p he hp hz
    by_cases heq : id' = id
    · grind
    · exact h.created_old sound (show d.entries id' = some p by grind) hp hz
  case reserved => have := h.reserved; grind [Open]
  case unnamed => have := h.unnamed; grind [Open]
  case renewed => have := h.renewed; have := sound.shape.resumed; grind [Open]

/-! ## Launches that go on -/

theorem setID (h : d.Names) (sound : d.Sound) {l : Ptr} (hl : d.Open l)
    (unlisted : ∀ id, d.entries id ≠ some (d.launches l).entry) (id : String) :
    (d.setItem (d.launches l).entry
      ((d.entryOf l).setRow { (d.entryOf l).row with sessionID := id })).Names := by
  have free := fun l' q => sound.previous_unopened (l := l') (q := q) (k := l)
  constructor
  case named => have := h.named; grind
  case noName => exact h.noName
  case lanes => have := h.lanes; grind
  case created => exact fun id' p he hp hz => h.created id' p he (by grind) (by grind)
  case reserved => have := h.reserved; grind [Open]
  case unnamed => have := h.unnamed; grind [Open]
  case renewed => have := h.renewed; grind [Open]

theorem listID (h : d.Names) (sound : d.Sound) {l : Ptr} (hl : d.Open l)
    (fresh : (d.launches l).fresh = true) :
    (d.setEntry (d.entryOf l).row.sessionID (some (d.launches l).entry)).Names := by
  have kind := sound.shape.kinds l hl.1
  have name := h.reserved l hl (by grind)
  refine { h with lanes := ?_, created := fun id p he hp hz => ?_ }
  · have := h.lanes
    grind
  · by_cases heq : id = (d.entryOf l).row.sessionID
    · exact ⟨l, hl, by grind⟩
    · exact h.created id p (by grind) hp hz

theorem openID (h : d.Names) (sound : d.Sound) {s l : Ptr} (launch : (d.sessions s).launch = some l)
    (fresh : (d.launches l).fresh = true) (waiting : (d.sessions s).opening = .waiting)
    (id : String) : (d.identified l id).Names ∧
      ((d.identified l id).setEntry (qualify id d.host) (some (d.launches l).entry)).Names := by
  have hl := sound.open_session launch (by simp [waiting])
  have named := h.setID sound hl (sound.unlisted launch fresh waiting) (qualify id d.host)
  have listed := named.listID (sound.identified launch fresh waiting id) hl fresh
  exact ⟨named, by simpa using listed⟩

theorem published (h : d.Names) (sound : d.Sound) {l s o : Ptr} {row : Row} (hl : d.Open l)
    (name : row.name = (d.entryOf l).row.name) (created : row.createdAt ≠ 0) :
    ((d.setItem (d.launches l).entry ((d.entryOf l).published row s o)).setLaunch l
      (d.launches l).conclude).Names := by
  have free := fun l' q => sound.previous_unopened (l := l') (q := q) (k := l)
  have own : ∀ l', l' < d.nextLaunch → (d.launches l').entry = (d.launches l).entry → l' = l :=
    fun l' hl' =>
    sound.shape.ownEntry l' l hl' hl.1
  have opens : ∀ l', ((d.setItem (d.launches l).entry ((d.entryOf l).published row s o)).setLaunch l
      (d.launches l).conclude).Open l' ↔ d.Open l' ∧ l' ≠ l := by
    intro l'
    unfold Open
    grind
  constructor
  case named => have := h.named; grind
  case noName => exact h.noName
  case lanes => have := h.lanes; grind
  case created =>
    intro id p he hp hz
    have hne : p ≠ (d.launches l).entry := by grind
    obtain ⟨l', hl', heq⟩ := h.created id p he (by grind) (by grind)
    exact ⟨l', (opens l').mpr ⟨hl', by grind⟩, by grind⟩
  case reserved => have := h.reserved; grind [Open]
  case unnamed => have := h.unnamed; grind [Open]
  case renewed => have := h.renewed; grind [Open]

theorem attach (h : d.Names) (sound : d.Sound) (s : Ptr) {l : Ptr} (hl : d.Open l)
    (publishes : d.publishes l = true) {now : Nat} (timed : now ≠ 0) :
    (d.attach l s (if (d.launches l).fresh then now else 0)).Names := by
  have entry : d.entries (d.entryOf l).row.sessionID = some (d.launches l).entry := by
    unfold Directory.publishes Directory.listed at publishes
    grind
  -- A new lane gets its creation time now, a resumed one has had it.
  have created :
      (stamp (d.entryOf l).row (if (d.launches l).fresh then now else 0)).createdAt ≠ 0 := by
    cases fresh : (d.launches l).fresh with
    | true => simp [stamp, timed]
    | false =>
      have undescribed : (d.launches l).describe = false := by
        by_contra hd
        exact sound.shape.described l hl (by simpa using hd) _ entry
      obtain ⟨q, hq⟩ :=
        Option.ne_none_iff_exists'.mp ((sound.shape.kinds l hl.1).2.mpr ⟨undescribed, fresh⟩)
      simpa [stamp] using (h.renewed l q hl hq).1
  have told :
      Told d (d.newOwner { id := (d.entryOf l).row.sessionID, token := ownerToken d.nextOwner }) :=
    Told.newOwner _
  exact (h.alike (Alike.told told)).published (sound.calm told.calm) (s := s) (o := d.nextOwner) hl
    (stamp_frame _ _).2.1 created

/-! ## Launches that end without a lane -/

theorem restore (h : d.Names) (sound : d.Sound) {l : Ptr} (hl : d.Open l) (n : String) (p : Ptr) :
    ((d.closeEntry l).restore l).names n = some p ↔ d.names n = some p ∧ p ≠ (d.launches l).entry ∨
      (d.launches l).previous = some p ∧ n = (d.entryOf l).row.name := by
  have lane := (sound.shape.laneEntry l hl.1).2
  have named := h.named
  cases hq : (d.launches l).previous with
  | none =>
    have zero := sound.shape.fresh l hl hq
    have name := h.reserved l hl
    have unnamed := h.unnamed l hl
    have noName := h.noName
    rw [restore_new (by simp [hq]) (by simp [lane]) (by simp [zero])]
    simp only [closeEntry_row, setEntry_names, setName_names]
    cases hd : (d.launches l).describe <;> grind
  | some q =>
    have created := (h.renewed l q hl hq).1
    have name := h.reserved l hl ((sound.shape.kinds l hl.1).2.mp (by simp [hq])).1
    rw [restore_previous (q := q) (by simp [hq]) (by simp [created])]
    simp only [closeEntry_row, setName_names]
    grind

theorem released (h : d.Names) (sound : d.Sound) {l : Ptr} (hl : d.Open l) (r : Released d l d') :
    d'.Names := by
  have names : ∀ n p, d'.names n = some p ↔ d.names n = some p ∧ p ≠ (d.launches l).entry ∨
      (d.launches l).previous = some p ∧ n = (d.entryOf l).row.name := by
    rw [r.names]
    exact h.restore sound hl
  have entries := r.entries
  have items := congrFun r.items
  have launches := congrFun r.launches
  have opens : ∀ l', d'.Open l' ↔ d.Open l' ∧ l' ≠ l := by
    intro l'
    unfold Open
    rw [r.nextLaunch, r.launches]
    grind
  have rows : ∀ p, (d'.items p).row = (d.items p).row ∧ (d'.items p).peer = (d.items p).peer := by
    grind
  have entryEq : ∀ l', (d'.launches l').entry = (d.launches l').entry := by grind
  have own : ∀ l', d.Open l' → (d.launches l').entry = (d.launches l).entry → l' = l :=
    fun l' hl' =>
    sound.shape.ownEntry l' l hl'.1 hl.1
  have resumed := fun q => sound.shape.resumed l q hl
  have renewed := fun q => h.renewed l q hl
  have name := h.reserved l hl
  have unnamed := h.unnamed l hl
  have kinds := sound.shape.kinds l hl.1
  constructor
  case named =>
    intro n p hn
    rw [names] at hn
    have := h.named n p
    have := (sound.shape.laneEntry l hl.1).1
    rw [(rows p).1, (rows p).2, r.nextItem]
    grind
  case noName =>
    have := h.noName
    have := h.named
    cases hn : d'.names "" with
    | none => rfl
    | some p =>
      rw [names] at hn
      grind
  case lanes =>
    intro id p he hp
    rw [entries] at he
    have := h.lanes id p
    rw [(rows p).1, names]
    rw [(rows p).2] at hp
    grind
  case created =>
    intro id p he hp hz
    rw [entries] at he
    rw [(rows p).2] at hp
    rw [(rows p).1] at hz
    rcases he with ⟨he, hne⟩ | ⟨hq, -⟩
    · obtain ⟨l', hl', rfl⟩ := h.created id p he hp hz
      exact ⟨l', (opens l').mpr ⟨hl', by grind⟩, entryEq l'⟩
    · exact absurd hz (renewed p hq).2.2
  case reserved =>
    intro l' hl' hd
    obtain ⟨ho, hne⟩ := (opens l').mp hl'
    unfold entryOf
    rw [entryEq, (rows _).1, names]
    have := h.reserved l' ho (by grind)
    have := own l' ho
    grind
  case unnamed =>
    intro l' hl' hd
    obtain ⟨ho, hne⟩ := (opens l').mp hl'
    unfold entryOf
    rw [entryEq, (rows _).1]
    exact h.unnamed l' ho (by grind)
  case renewed =>
    intro l' q hl' hq
    obtain ⟨ho, hne⟩ := (opens l').mp hl'
    unfold entryOf
    rw [entryEq, (rows _).1, (rows _).1]
    exact h.renewed l' q ho (by grind)

theorem offline (h : d.Names) (sound : d.Sound) {s l : Ptr}
    (launch : (d.sessions s).launch = some l) (committed : (d.sessions s).committed = true)
    (forget : Bool) : (d.offline (d.launches l).entry s forget).Names := by
  have lane := (sound.shape.laneEntry l (sound.seats.lane s l launch).1).2
  have unopened : ∀ l', d.Open l' → (d.launches l').entry ≠ (d.launches l).entry := by
    intro l' hl' he
    have := sound.shape.ownEntry l' l hl'.1 (sound.seats.lane s l launch).1 he
    subst this
    have := hl'.2
    simp [sound.seats.concluded s l' launch committed] at this
  unfold Directory.offline
  extract_lets item item' d₁
  have row : item'.row = (d.entryOf l).row ∧ item'.peer = (d.entryOf l).peer := by
    simp only [item', item]
    split <;> exact ⟨rfl, rfl⟩
  have marked : d₁.Names := h.alike (Alike.setItem row.1 row.2)
  have shape : d₁.Shape := sound.shape.setItem row.1 row.2
  split
  · unfold Directory.forgetEntry
    split
    next listed =>
      refine marked.forget shape (by simpa [Directory.listed] using listed) ?_ fun l' hl' =>
        unopened l' hl'
      simp [d₁, row.2, lane]
    · exact marked
  · exact marked

theorem finish (h : d.Names) (sound : d.Sound) {s : Ptr} (running : (d.sessions s).returned = false)
    (full : List Ptr) (deleted : Bool) : (d.finish full s deleted).Names := by
  unfold Directory.finish
  cases hs : (d.sessions s).launch with
  | none =>
    simp only [hs]
    exact h.alike (Alike.setSession s _)
  | some l =>
    have identity := (sound.seats.lane s l hs).2.2
    simp only [hs, identity]
    refine Names.alike ?_ (Alike.setSession s _)
    cases hc : (d.sessions s).committed with
    | false =>
      have hl : d.Open l := ⟨(sound.seats.lane s l hs).1, sound.seats.uncommitted s l hs hc running⟩
      have released := h.released sound hl (sound.releaseLaunch hl full)
      cases (d.sessions s).launchResult with
      | none => exact released
      | some answer => exact released.alike (Alike.reply l answer)
    | true =>
      cases (d.sessions s).launchResult with
      | none => exact h.offline sound hs hc _
      | some answer =>
        have replied := (h.alike (Alike.reply l answer)).offline (sound.reply l answer) (s := s)
            (l := l) hs hc
          ((d.sessions s).forget && deleted)
        simpa using replied

theorem finishOfflineClose (h : d.Names) (sound : d.Sound) {p : Ptr}
    (closing : p ∈ d.offlineClosing) (forget deleted : Bool) :
    (d.finishOfflineClose p forget deleted).Names := by
  have erased : ({ d with offlineClosing := d.offlineClosing.erase p } : Directory).Names :=
    { h with }
  have unopened := (sound.holds.closers p closing).2
  unfold Directory.finishOfflineClose
  simp only
  split
  case isFalse => exact erased
  case isTrue hc =>
    simp only [Bool.and_eq_true, Option.isNone_iff_eq_none] at hc
    obtain ⟨⟨listed, unattached⟩, -⟩ := hc
    have entry : d.entries (d.items p).row.sessionID = some p := by
      simpa [Directory.listed] using listed
    have lane : (d.items p).peer = false := by
      by_contra hp
      exact sound.holds.peers _ p entry (by simpa using hp) unattached
    have marked : (({ d with offlineClosing := d.offlineClosing.erase p } : Directory).setItem p
        ((d.items p).setClaimed false)).Names := erased.alike (Alike.setItem rfl rfl)
    have shape : (d.setItem p ((d.items p).setClaimed false)).Shape := sound.shape.setItem rfl rfl
    have name := h.lanes _ p entry lane
    split
    · rw [if_pos (by simpa using name)]
      have forgotten := marked.forget { shape with } (p := p) (by simpa using entry)
          (by simpa using lane) unopened
      simpa using forgotten
    · exact marked

/-! ## Peers -/

theorem rename (h : d.Names) (sound : d.Sound) {p : Ptr} (peer : (d.items p).peer = true)
    (name : String) : (d.setItem p ((d.items p).setRow { (d.items p).row with name })).Names := by
  have lane : ∀ l, l < d.nextLaunch → (d.launches l).entry ≠ p := by
    rintro l hl rfl
    simp [(sound.shape.laneEntry l hl).2] at peer
  constructor
  case named => have := h.named; grind
  case noName => exact h.noName
  case lanes => have := h.lanes; grind
  case created => exact fun id q he hp hz => h.created id q he (by grind) (by grind)
  case reserved => have := h.reserved; grind [Open]
  case unnamed => have := h.unnamed; grind [Open]
  case renewed => have := h.renewed; have := sound.shape.resumed; grind [Open]

theorem seat (h : d.Names) (shape : d.Shape) {s : Ptr} {id : String} {item : Item}
    (peer : item.peer = true) : (d.seat s id item).Names := by
  have laneEntry := shape.laneEntry
  constructor
  case named => have := h.named; grind
  case noName => exact h.noName
  case lanes => have := h.lanes; have := shape.ids; grind
  case created => exact fun id' q he hp hz => h.created id' q (by grind) (by grind) (by grind)
  case reserved => have := h.reserved; grind [Open]
  case unnamed => have := h.unnamed; grind [Open]
  case renewed => have := h.renewed; have := shape.resumed; grind [Open]

theorem takeID (h : d.Names) (shape : d.Shape) (full : List Ptr) (host : String) (s : Ptr)
    (hello : PeerHello) : (d.takeID full host s hello).Names := by
  unfold Directory.takeID
  simp only
  split
  next found _ =>
    have marked : Alike d (d.setItem found ((d.items found).setLifetime none)) :=
      Alike.setItem rfl rfl
    have ended := h.alike (marked.trans (Alike.endEntry full found))
    have shape' : (d.setItem found ((d.items found).setLifetime none)).Shape :=
      shape.setItem rfl rfl
    exact ended.seat (shape'.endEntry full found) rfl
  · have told :
        Told d
        (d.newOwner { id := qualify hello.sessionID host, token := ownerToken d.nextOwner }) :=
      Told.newOwner _
    exact (h.alike (Alike.told told)).seat { shape with } rfl

theorem installPeer (h : d.Names) (sound : d.Sound) {full : List Ptr} {s : Ptr} {hello : PeerHello}
    (vacant : (d.sessions s).launch = none) (heq : d.installPeer full s hello = some d') :
    d'.Names := by
  obtain ⟨old, identity, -, -, rfl⟩ | ⟨old, identity, replaced, peers, rfl⟩ := installPeer_cases heq
  · exact h.rename sound (sound.seats.peer s old vacant identity).1 _
  · cases old with
    | none => exact h.takeID sound.shape full d.host s hello
    | some o =>
      have attached := (replaced o rfl).1
      have peer := (sound.seats.peer s o vacant identity).1
      have unlisted := (h.unlist (d.items o).row.sessionID).alike (Alike.endEntry full o)
      have shape : (d.setEntry (d.items o).row.sessionID none).Shape :=
        sound.shape.unlist fun q hq => by
        have entry := (sound.holds.attached o s attached).1
        cases entry.symm.trans hq
        exact peer
      exact unlisted.takeID (shape.endEntry full o) full d.host s hello

/-! ## Steps and runs -/

theorem spawnHere (h : d.Names) (sound : d.Sound) {parent : Ptr} {caller : Caller}
    {input : LaneSpawnRequest} (heq : d.spawnHere parent caller input = some d') : d'.Names := by
  unfold Directory.spawnHere at heq
  split at heq
  · simp only [Option.bind_eq_some_iff] at heq
    obtain ⟨target, -, resumed⟩ := heq
    exact h.reserveResume sound resumed
  · simp only [Option.bind_eq_some_iff] at heq
    obtain ⟨row, new, reserved⟩ := heq
    exact h.reserveFresh sound (spawnRow_new new).1 reserved

theorem step (h : d.Names) (sound : d.Sound) (a : Action) : (d.step a).Names := by
  have does := d.does a
  generalize d.step a = d' at does ⊢
  obtain alike | lists := does.alike
  · exact h.alike alike
  cases does with
  | routine routine => exact h.alike routine.alike
  | hello s value full vacant _ _ _ _ installed => exact h.installPeer sound vacant installed
  | spawn s input _ _ _ spawned => exact h.spawnHere sound spawned
  | remoteSpawn caller input _ spawned =>
    have told : Told d (d.remoteOwner caller).1 := Told.remoteOwner caller
    exact (h.alike (.told told)).spawnHere (sound.calm told.calm) spawned
  | describe product => exact h.describe sound product
  | release l full revoked =>
    have hl := (sound.seats.revoked l (by simp [revoked])).1
    have released := h.released sound hl (sound.releaseLaunch hl full)
    refine Names.alike ?_ (.reply l _)
    exact released.alike (.setLaunch rfl rfl rfl rfl)
  | openID s l id launch fresh waiting =>
    exact (h.openID sound launch fresh waiting id).2.alike (.setSession s _)
  | refusedID s l id _ launch fresh waiting =>
    exact (h.openID sound launch fresh waiting id).1.alike (.setSession s _)
  | publish s l _ answer launch timed may publishes =>
    have attached :=
      h.attach sound s (sound.open_session launch (mayPublish_opening may)) publishes timed
    exact (attached.alike (.setSession s _)).alike (.reply l answer)
  | lost => exact h.alike (.setSession _ _)
  | detach s full p =>
    have ended := h.alike (Alike.endEntry full p)
    refine Names.alike ?_ (.setSession s _)
    unfold Directory.leave
    split
    · exact ended.unlist _
    · exact ended.alike (.setItem rfl rfl)
  | finish s deleted full running => exact h.finish sound running full deleted
  | finishOfflineClose p forget deleted closing =>
    exact h.finishOfflineClose sound closing forget deleted
  | _ => cases lists

theorem run (h : d.Names) (sound : d.Sound) (actions : List Action) : (d.run actions).Names := by
  induction actions generalizing d with
  | nil => exact h
  | cons a actions ih => exact ih (h.step sound a) (sound.step a)

end Names

/-! ## The rows that a daemon starts with -/

attribute [local grind =] addRow_entries addRow_names addRow_items addRow_nextItem

theorem Names.addRow (h : d.Names) (loaded : d.Loaded) {row : Row} (name : d.names row.name = none)
    (written : row.name ≠ "" ∧ row.createdAt ≠ 0) : (d.addRow row).Names := by
  have closed : ∀ l, ¬ (d.addRow row).Open l := by
    intro l hl
    have : l < d.nextLaunch := hl.1
    rw [loaded.nextLaunch] at this
    exact Nat.not_lt_zero l this
  refine ⟨?_, ?_, ?_, ?_, fun l hl => absurd hl (closed l), fun l hl => absurd hl (closed l),
    fun l q hl => absurd hl (closed l)⟩
  · have := h.named
    grind
  · have := h.noName
    grind
  · have := h.lanes
    have := loaded.ids
    grind
  · intro id' p he kind created
    by_cases heq : id' = row.sessionID
    · subst heq
      grind
    · have old : d.entries id' = some p := by grind
      have := (loaded.ids id' p old).2
      obtain ⟨l, hl, -⟩ := h.created id' p old (by grind) (by grind)
      exact absurd hl.1 (by rw [loaded.nextLaunch]; exact Nat.not_lt_zero l)

theorem names_rows (rows : List Row) (h : d.Names) (loaded : d.Loaded)
    (names : (rows.map Row.name).Nodup) (written : ∀ row ∈ rows, row.name ≠ "" ∧ row.createdAt ≠ 0)
    (free : ∀ row ∈ rows, d.names row.name = none) : (rows.foldl Directory.addRow d).Names := by
  induction rows generalizing d with
  | nil => exact h
  | cons row rows ih =>
    simp only [List.map_cons, List.nodup_cons, List.mem_map, not_exists, not_and] at names
    have added := h.addRow loaded (free row (by simp)) (written row (by simp))
    refine ih added (loaded.addRow row) names.2 (fun r hr => written r (by simp [hr]))
      fun r hr => ?_
    have := free r (by simp [hr])
    have := names.1 r hr
    grind

theorem names_newDirectory (host : String) (u : Unicode) {rows : List Row}
    (names : (rows.map Row.name).Nodup)
    (written : ∀ row ∈ rows, row.name ≠ "" ∧ row.createdAt ≠ 0) :
    (newDirectory host u rows).Names := by
  rw [newDirectory_eq]
  refine names_rows rows ⟨?_, ?_, ?_, ?_, ?_, ?_, ?_⟩ ⟨?_, ?_, rfl, rfl, rfl, rfl, rfl⟩
    names written ?_
  all_goals simp [Open]

end Directory

end Sessionbus
