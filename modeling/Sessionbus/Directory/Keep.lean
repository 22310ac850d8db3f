import Sessionbus.Directory.Sound

/-!
# Every operation keeps the representation invariant
-/

namespace Sessionbus

namespace Directory

attribute [local grind =] Function.update_apply

variable {d : Directory}

/-! ## One entry -/

theorem Shape.setItem (h : d.Shape) {p : Ptr} {v : Item} (row : v.row = (d.items p).row)
    (peer : v.peer = (d.items p).peer) : (d.setItem p v).Shape :=
  h.congr rfl (by grind) rfl rfl rfl

theorem Seats.setItem (h : d.Seats) {p : Ptr} {v : Item} (peer : v.peer = (d.items p).peer) :
    (d.setItem p v).Seats :=
  h.congr rfl (by grind) rfl rfl rfl rfl (Calm.refl d).sessions

theorem Sound.mark (h : d.Sound) {p : Ptr} {v : Item} (row : v.row = (d.items p).row)
    (peer : v.peer = (d.items p).peer) (attachment : v.attachment = (d.items p).attachment)
    (done : v.done = (d.items p).done) (running : v.running = true → v.attachment ≠ none)
    (claimed : ∀ l, d.Open l → ((d.launches l).entry = p → v.claimed = true) ∧
      ((d.launches l).previous = some p → v.claimed = false)) : (d.setItem p v).Sound := by
  refine ⟨h.shape.setItem row peer, h.seats.setItem peer, ?_⟩
  constructor
  case peers => have := h.holds.peers; grind
  case attached => have := h.holds.attached; grind
  case idle => have := h.holds.idle; grind
  case live => have := h.holds.live; grind
  case claimed => have := h.holds.claimed; grind [Open]
  case kept => have := h.holds.kept; grind [Open]
  case closers => exact h.holds.closers

theorem Sound.finishRun (h : d.Sound) (p : Ptr) :
    (d.setItem p ((d.items p).setRunning false)).Sound := by
  refine h.mark rfl rfl rfl rfl (by simp) fun l hl => ⟨?_, ?_⟩
  · rintro rfl
    exact (h.holds.claimed l hl).1
  · exact fun hq => (h.holds.kept l p hl hq).1

theorem Sound.attached_free (h : d.Sound) {p s l : Ptr} (attached : (d.items p).attachment = some s)
    (hl : d.Open l) : (d.launches l).entry ≠ p ∧ (d.launches l).previous ≠ some p := by
  constructor
  · rintro rfl
    have := (h.holds.claimed l hl).2.1
    simp_all
  · intro hq
    have := (h.holds.kept l p hl hq).2
    simp_all

theorem Sound.admitted (h : d.Sound) {p s : Ptr} (attached : (d.items p).attachment = some s)
    (method : Method) : (d.admitted p method).Sound := by
  have free l (hl : d.Open l) := h.attached_free attached hl
  unfold Directory.admitted
  split
  · exact h.mark rfl rfl rfl rfl (fun _ => by simp [attached]) fun l hl =>
      ⟨fun he => absurd he (free l hl).1, fun hq => absurd hq (free l hl).2⟩
  · refine h.mark rfl rfl rfl rfl (fun hr => ?_) fun l hl =>
      ⟨fun he => absurd he (free l hl).1, fun hq => absurd hq (free l hl).2⟩
    simp [attached]
  · exact h

theorem Sound.listed_previous (h : d.Sound) {p l : Ptr} (listed : d.listed p = true)
    (hl : d.Open l) : (d.launches l).previous ≠ some p := by
  intro hq
  obtain ⟨hentry, hlt, -, hid⟩ := h.shape.resumed l p hl hq
  simp only [Directory.listed, beq_iff_eq, hid, hentry, Option.some.injEq] at listed
  exact hlt.ne listed.symm

theorem Sound.claimOffline (h : d.Sound) {p : Ptr} (listed : d.listed p = true)
    (unattached : (d.items p).attachment = none) (unclaimed : (d.items p).claimed = false) :
    { d.setItem p ((d.items p).setClaimed true) with
      offlineClosing := d.offlineClosing ++ [p] : Directory }.Sound := by
  have unopened : ∀ l, d.Open l → (d.launches l).entry ≠ p := by
    rintro l hl rfl
    have := (h.holds.claimed l hl).1
    simp_all
  have sound : (d.setItem p ((d.items p).setClaimed true)).Sound :=
    h.mark rfl rfl rfl rfl (fun hr => absurd (h.holds.idle p unattached) (by simp_all)) fun l hl =>
      ⟨fun he => absurd he (unopened l hl), fun hq => absurd hq (h.listed_previous listed hl)⟩
  refine ⟨{ sound.shape with }, { sound.seats with }, { sound.holds with closers := ?_ }⟩
  have := h.holds.closers
  have := (h.shape.ids _ p (by simpa [Directory.listed] using listed)).2
  grind [Open]

theorem Sound.setName (h : d.Sound) (name : String) (p : Option Ptr) : (d.setName name p).Sound :=
  ⟨{ h.shape with }, { h.seats with }, { h.holds with }⟩

theorem Sound.forget (h : d.Sound) {p : Ptr} (listed : d.listed p = true)
    (unattached : (d.items p).attachment = none)
    (unopened : ∀ l, d.Open l → (d.launches l).entry ≠ p) :
    (d.setEntry (d.items p).row.sessionID none).Sound := by
  have entry : d.entries (d.items p).row.sessionID = some p := by
    simpa [Directory.listed] using listed
  have ids := h.shape.ids
  have old : ∀ id q, Function.update d.entries (d.items p).row.sessionID none id = some q →
      d.entries id = some q := by
    grind
  refine ⟨?_, ?_, ?_⟩
  · constructor
    case ids => exact fun id q he => ids id q (old id q he)
    case ownEntry => exact h.shape.ownEntry
    case laneEntry => exact h.shape.laneEntry
    case kinds => exact h.shape.kinds
    case described => exact fun l hl hd id he => h.shape.described l hl hd id (old id _ he)
    case fresh => exact h.shape.fresh
    case resumed => have := h.shape.resumed; grind [Open]
  · exact { h.seats with
      unlisted := fun l hl hf hw id he => h.seats.unlisted l hl hf hw id (old id _ he) }
  · refine { h.holds with peers := fun id q he => h.holds.peers id q (old id q he), attached := ?_ }
    have := h.holds.attached
    grind

theorem Sound.finishOfflineClose (h : d.Sound) {p : Ptr} (closing : p ∈ d.offlineClosing)
    (forget deleted : Bool) : (d.finishOfflineClose p forget deleted).Sound := by
  have sound : ({ d with offlineClosing := d.offlineClosing.erase p } : Directory).Sound :=
    ⟨{ h.shape with }, { h.seats with },
      { h.holds with closers := fun q hq => h.holds.closers q (List.mem_of_mem_erase hq) }⟩
  have unopened := (h.holds.closers p closing).2
  unfold Directory.finishOfflineClose
  simp only
  split
  case isFalse => exact sound
  case isTrue hc =>
    simp only [Bool.and_eq_true, Option.isNone_iff_eq_none] at hc
    obtain ⟨⟨listed, unattached⟩, -⟩ := hc
    have marked : (({ d with offlineClosing := d.offlineClosing.erase p } : Directory).setItem p
        ((d.items p).setClaimed false)).Sound :=
      sound.mark rfl rfl rfl rfl
      (fun hr => absurd (h.holds.idle p unattached) (by simp_all)) fun l hl =>
        ⟨fun he => absurd he (unopened l hl), fun _ => rfl⟩
    split
    · have forgotten := marked.forget (p := p) (by simpa [Directory.listed] using listed)
        (by simpa using unattached) (by simpa [Open] using unopened)
      simp only [setItem_items, Function.update_self, Item.setClaimed_row] at forgotten
      split
      · exact forgotten.setName _ _
      · exact forgotten
    · exact marked

theorem Sound.attached_owner (h : d.Sound) {s s' l : Ptr} (launch : (d.sessions s).launch = some l)
    (attached : (d.entryOf l).attachment = some s') : s' = s := by
  obtain ⟨hl, owner, -⟩ := h.seats.lane s l launch
  obtain ⟨-, -, identity, -, hcommitted⟩ := h.holds.attached _ s' attached
  have committed := hcommitted (h.shape.laneEntry l hl).2
  obtain ⟨l', hl'⟩ := Option.ne_none_iff_exists'.mp (h.seats.committed s' committed)
  obtain ⟨hlt, owner', identity'⟩ := h.seats.lane s' l' hl'
  have : l' = l := h.shape.ownEntry l' l hlt hl (by simp_all)
  subst this
  simp_all

theorem Sound.offline (h : d.Sound) {s l : Ptr} (launch : (d.sessions s).launch = some l)
    (committed : (d.sessions s).committed = true) (closed : (d.sessions s).closed = true)
    (forget : Bool) : (d.offline (d.launches l).entry s forget).Sound := by
  have unattached : (d.entryOf l).attachment = none := by
    cases hs : (d.entryOf l).attachment with
    | none => rfl
    | some s' =>
      have := h.attached_owner launch hs
      have := (h.holds.attached _ s' hs).2.2.2.1
      simp_all
  have unopened : ∀ l', d.Open l' → (d.launches l').entry ≠ (d.launches l).entry := by
    intro l' hl' he
    have := h.shape.ownEntry l' l hl'.1 (h.seats.lane s l launch).1 he
    subst this
    have := h.seats.concluded s l' launch committed
    simp_all [Open]
  have marked : (d.setItem (d.launches l).entry ((d.entryOf l).setClaimed false)).Sound :=
    h.mark rfl rfl rfl rfl (fun hr => absurd (h.holds.idle _ unattached) (by simp_all))
    fun l' hl' =>
      ⟨fun he => absurd he (unopened l' hl'), fun _ => rfl⟩
  unfold Directory.offline
  extract_lets item item' d'
  have same : item' = d.entryOf l := if_neg (by simp [item, unattached])
  have hd : d' = d.setItem (d.launches l).entry ((d.entryOf l).setClaimed false) := by
    simp only [d', same]
  rw [hd]
  split
  · unfold Directory.forgetEntry
    split
    next listed =>
      exact (marked.forget listed (by simpa using unattached)
        (by simpa [Open] using unopened)).setName _ _
    · exact marked
  · exact marked

/-! ## The end of an attachment -/

theorem Told.endEntry (full : List Ptr) (p : Ptr) :
    Told (d.setItem p (d.items p).ended) (d.endEntry full p) := by
  have told : Told d (d.endOwner full (d.items p).lifetime) := Told.endOwner full _
  refine { told with items := ?_ }
  simp only [Directory.endEntry, Directory.setItem, told.items]

theorem Calm.endEntry (full : List Ptr) (p : Ptr) :
    Calm (d.setItem p (d.items p).ended) (d.endEntry full p) :=
  (Told.endEntry full p).calm

/-- A session whose connection is gone is attached to nothing. -/
def Lost (p v : Party) : Prop :=
  v.identity = p.identity ∧ v.launch = p.launch ∧ v.opening = p.opening ∧
    v.committed = p.committed ∧ v.closed = true ∧ v.returned = p.returned

theorem lost_lost (p : Party) : Lost p p.lost := by
  unfold Lost Party.lost Party.abortLaunch Party.stop
  grind

theorem Seats.lost (h : d.Seats) {s : Ptr} {v : Party} (lost : Lost (d.sessions s) v)
    (rests : (d.sessions s).opening ≠ .reserved) : (d.setSession s v).Seats := by
  obtain ⟨identity, launch, opening, committed, -, returned⟩ := lost
  constructor
  case lane => have := h.lane; grind
  case peer => have := h.peer; grind
  case committed => have := h.committed; grind
  case opening => have := h.opening; grind
  case busy => have := h.busy; grind
  case uncommitted => have := h.uncommitted; grind
  case concluded => have := h.concluded; grind
  case owned => have := h.owned; grind
  case unlisted =>
    intro l hl hf hw
    refine h.unlisted l hl hf fun s' hs' => ?_
    have := hw s' hs'
    grind
  case tokened => exact h.tokened
  case revoked => exact h.revoked

theorem Sound.lost (h : d.Sound) {s : Ptr} {v : Party} (lost : Lost (d.sessions s) v)
    (rests : (d.sessions s).opening ≠ .reserved)
    (unattached : ∀ p, (d.items p).attachment ≠ some s) : (d.setSession s v).Sound := by
  refine ⟨{ h.shape with }, h.seats.lost lost rests, { h.holds with attached := ?_, live := ?_ }⟩
  · have := h.holds.attached
    grind
  · obtain ⟨identity, launch, opening, committed, closed, returned⟩ := lost
    have := h.holds.live
    grind

theorem Sound.detachLane (h : d.Sound) {p s : Ptr} {v : Party} (lost : Lost (d.sessions s) v)
    (rests : (d.sessions s).opening ≠ .reserved) (attached : (d.items p).attachment = some s)
    (lane : (d.items p).peer = false) :
    ((d.setItem p ((d.items p).ended.setClaimed true)).setSession s
      v).Sound := by
  have free l (hl : d.Open l) := h.attached_free attached hl
  have shape : (d.setItem p ((d.items p).ended.setClaimed true)).Shape := h.shape.setItem rfl rfl
  have seats : (d.setItem p ((d.items p).ended.setClaimed true)).Seats := h.seats.setItem rfl
  refine ⟨{ shape with }, seats.lost lost rests, ?_⟩
  obtain ⟨identity, launch, opening, committed, closed, returned⟩ := lost
  constructor
  case peers => have := h.holds.peers; grind
  case attached => have := h.holds.attached; grind
  case idle => have := h.holds.idle; grind
  case live =>
    have := h.holds.live
    have := h.holds.attached
    grind
  case claimed => have := h.holds.claimed; grind [Open]
  case kept => have := h.holds.kept; grind [Open]
  case closers => exact h.holds.closers

theorem Shape.unlist (h : d.Shape) {id : String}
    (peer : ∀ p, d.entries id = some p → (d.items p).peer = true) : (d.setEntry id none).Shape := by
  have old : ∀ id' q, Function.update d.entries id none id' = some q → d.entries id' = some q := by
    grind
  refine { h with
    ids := fun id' q he => h.ids id' q (old id' q he)
    described := fun l hl hd id' he => h.described l hl hd id' (old id' _ he)
    resumed := fun l q hl hq => ⟨?_, (h.resumed l q hl hq).2⟩ }
  have entry := (h.resumed l q hl hq).1
  have lane := (h.laneEntry l hl.1).2
  grind

theorem Seats.unlist (h : d.Seats) (id : String) : (d.setEntry id none).Seats :=
  { h with unlisted := fun l hl hf hw id' he => h.unlisted l hl hf hw id' (by grind) }

theorem Sound.dropPeer (h : d.Sound) {p s : Ptr} (attached : (d.items p).attachment = some s)
    (peer : (d.items p).peer = true) :
    ((d.setEntry (d.items p).row.sessionID none).setItem p (d.items p).ended).Sound := by
  obtain ⟨entry, -, -, -, -⟩ := h.holds.attached p s attached
  have free l (hl : d.Open l) := h.attached_free attached hl
  have shape : (d.setEntry (d.items p).row.sessionID none).Shape := h.shape.unlist fun q hq => by
    cases entry.symm.trans hq
    exact peer
  refine ⟨shape.setItem rfl rfl, (h.seats.unlist _).setItem rfl, ?_⟩
  have ids := h.shape.ids
  constructor
  case peers => have := h.holds.peers; grind
  case attached => have := h.holds.attached; grind
  case idle => have := h.holds.idle; grind
  case live =>
    intro s' q committed closed identity
    have live := h.holds.live s' q committed closed identity
    by_cases heq : q = p
    · -- The entry of a committed session is a lane's.
      subst heq
      obtain ⟨l, hl⟩ := Option.ne_none_iff_exists'.mp (h.seats.committed s' committed)
      obtain ⟨hlt, -, hentry⟩ := h.seats.lane s' l hl
      have lane := (h.shape.laneEntry l hlt).2
      grind
    · grind
  case claimed => have := h.holds.claimed; grind [Open]
  case kept => have := h.holds.kept; grind [Open]
  case closers => exact h.holds.closers

theorem Sound.detach (h : d.Sound) (full : List Ptr) {s p : Ptr}
    (rests : (d.sessions s).opening ≠ .reserved) (attached : (d.items p).attachment = some s) :
    (((d.endEntry full p).leave p).setSession s
      (((d.endEntry full p).leave p).sessions s).lost).Sound := by
  have calm : Calm d (d.endOwner full (d.items p).lifetime) := (Told.endOwner full _).calm
  have sound := h.calm calm
  unfold Directory.endEntry Directory.leave
  generalize hd' : d.endOwner full (d.items p).lifetime = d' at calm sound ⊢
  have rests' : (d'.sessions s).opening ≠ .reserved := by rw [(calm.sessions s).2.2.1]; exact rests
  have attached' : (d'.items p).attachment = some s := by rw [calm.items]; exact attached
  split
  next peer =>
    have peer' : (d'.items p).peer = true := by simpa using peer
    have dropped :
        ((d'.setItem p (d'.items p).ended).setEntry (d'.items p).row.sessionID none).Sound :=
      sound.dropPeer attached' peer'
    refine Sound.lost (s := s) (v := (d'.sessions s).lost) (by simpa using dropped)
      (lost_lost _) rests' fun q hq => ?_
    have := sound.holds.attached
    grind
  next lane =>
    have lane' : (d'.items p).peer = false := by simpa using lane
    have detached := sound.detachLane (lost_lost _) rests' attached' lane'
    simpa [Directory.setItem] using detached

/-! ## New launches -/

theorem Sound.identity_old (h : d.Sound) {s p : Ptr} (identity : (d.sessions s).identity = some p) :
    p < d.nextItem := by
  cases hl : (d.sessions s).launch with
  | none => exact (h.seats.peer s p hl identity).2
  | some l =>
    obtain ⟨hlt, -, he⟩ := h.seats.lane s l hl
    have := (h.shape.laneEntry l hlt).1
    grind

theorem open_addLaunch {item : Item} {launch : Launch} (h : launch.concluded = false) (l : Ptr) :
    (d.addLaunch item launch).Open l ↔ d.Open l ∨ l = d.nextLaunch := by
  simp only [Open]
  grind

theorem Sound.addLaunch_seats (h : d.Sound) {item : Item} {launch : Launch}
    (owner : launch.owner = none) (concluded : launch.concluded = false)
    (revoked : launch.revoked = none) : (d.addLaunch item launch).Seats := by
  have opens : ∀ l, (d.addLaunch item launch).Open l ↔ _ := open_addLaunch concluded
  have old := h.seats.lane
  have unopened : ¬ d.Open d.nextLaunch := fun ho => (Nat.lt_irrefl _ ho.1)
  constructor
  case lane => grind
  case peer => have := h.seats.peer; grind
  case committed => exact h.seats.committed
  case opening => exact h.seats.opening
  case busy => exact h.seats.busy
  case uncommitted => have := h.seats.uncommitted; grind
  case concluded => have := h.seats.concluded; grind
  case owned => have := h.seats.owned; grind
  case unlisted =>
    intro l hl hf hw id he
    rcases (opens l).mp hl with hl | rfl
    · have := h.seats.unlisted l hl
      have := hl.1
      grind
    · have := h.shape.ids
      grind
  case tokened => have := h.seats.tokened; grind
  case revoked => have := h.seats.revoked; grind

theorem Sound.addLaunch_holds (h : d.Sound) {item : Item} {launch : Launch}
    (claimed : item.claimed = true) (unattached : item.attachment = none)
    (idle : item.running = false) (undone : item.done = false)
    (concluded : launch.concluded = false)
    (previous : ∀ q, launch.previous = some q → q < d.nextItem ∧ (d.items q).claimed = false ∧
      (d.items q).attachment = none) :
    (d.addLaunch item launch).Holds := by
  have opens : ∀ l, (d.addLaunch item launch).Open l ↔ _ := open_addLaunch concluded
  have unopened : ¬ d.Open d.nextLaunch := fun ho => (Nat.lt_irrefl _ ho.1)
  have ids := h.shape.ids
  constructor
  case peers => have := h.holds.peers; grind
  case attached => have := h.holds.attached; grind
  case idle => have := h.holds.idle; grind
  case live => have := h.holds.live; have := @h.identity_old; grind
  case claimed => have := h.holds.claimed; have := h.shape.laneEntry; grind [Open]
  case kept =>
    have := h.holds.kept; have := h.shape.laneEntry; have := h.shape.resumed; grind [Open]
  case closers => have := h.holds.closers; grind


theorem Sound.open_old (h : d.Sound) {l : Ptr} (hl : d.Open l) (item : Item) (launch : Launch) :
    (d.addLaunch item launch).Open l ∧ (d.addLaunch item launch).launches l = d.launches l ∧
      (d.addLaunch item launch).entryOf l = d.entryOf l := by
  have hlt := hl.1
  have := (h.shape.laneEntry l hlt).1
  have : (d.addLaunch item launch).launches l = d.launches l := by grind
  refine ⟨?_, this, ?_⟩
  · have := hl.2
    unfold Open
    grind
  · grind

theorem Sound.describe (h : d.Sound) (product : String) :
    (d.addLaunch (.reserved { product } none) { product, describe := true }).Sound := by
  refine ⟨?_, h.addLaunch_seats rfl rfl rfl, h.addLaunch_holds rfl rfl rfl rfl rfl (by simp)⟩
  have ids := h.shape.ids
  have laneEntry := h.shape.laneEntry
  constructor
  case ids => grind
  case ownEntry => have := h.shape.ownEntry; grind
  case laneEntry => grind
  case kinds => have := h.shape.kinds; grind
  case described => have := h.shape.described; grind [Open]
  case fresh => have := h.shape.fresh; grind [Open]
  case resumed => have := h.shape.resumed; grind [Open]

theorem Sound.reserveFresh (h : d.Sound) {d' : Directory} {value : Row} {parent : Ptr}
    {trace : String} (created : value.createdAt = 0)
    (heq : d.reserveFresh value parent trace = some d') : d'.Sound := by
  unfold Directory.reserveFresh at heq
  simp only [Option.ite_none_left_eq_some, Option.some.injEq, Bool.or_eq_true, not_or,
    Bool.not_eq_true, Option.isSome_eq_false_iff, Option.isNone_iff_eq_none] at heq
  obtain ⟨-, rfl⟩ := heq
  refine ⟨?_, { h.addLaunch_seats rfl rfl rfl with },
    { h.addLaunch_holds rfl rfl rfl rfl rfl (by simp) with }⟩
  have ids := h.shape.ids
  have laneEntry := h.shape.laneEntry
  constructor
  case ids => grind
  case ownEntry => have := h.shape.ownEntry; grind
  case laneEntry => grind
  case kinds => have := h.shape.kinds; grind
  case described => have := h.shape.described; grind [Open]
  case fresh => have := h.shape.fresh; grind [Open]
  case resumed => have := h.shape.resumed; grind [Open]

theorem Sound.reserveResume (h : d.Sound) {d' : Directory} {id : String} {groups : List String}
    {parent : Ptr} {input : LaneSpawnRequest}
    (heq : d.reserveResume id groups parent input = some d') : d'.Sound := by
  unfold Directory.reserveResume at heq
  split at heq
  · simp at heq
  next previous entry =>
  simp only [Option.ite_none_left_eq_some, Option.map_eq_some_iff, Bool.or_eq_true, not_or,
    Bool.not_eq_true, Option.isSome_eq_false_iff, Option.isNone_iff_eq_none] at heq
  obtain ⟨⟨⟨⟨⟨⟨-, lane⟩, -⟩, unclaimed⟩, unattached⟩, -⟩, policy, -, rfl⟩ := heq
  obtain ⟨hid, hlt⟩ := h.shape.ids id previous entry
  have free : ∀ l, d.Open l → (d.launches l).entry ≠ previous := by
    rintro l hl rfl
    have := (h.holds.claimed l hl).1
    simp_all
  generalize hitem : Item.reserved { (d.items previous).row with policy := some policy }
    (some parent) = item
  obtain ⟨launch, hlaunch⟩ : ∃ launch : Launch, launch =
      { parent := some parent, previous := some previous, product := (d.items previous).row.product
        trace := input.trace } := ⟨_, rfl⟩
  rw [← hlaunch]
  have seats : (d.addLaunch item launch).Seats := h.addLaunch_seats (by grind) (by grind) (by grind)
  have holds : (d.addLaunch item launch).Holds :=
    h.addLaunch_holds (by grind) (by grind) (by grind) (by grind) (by grind) (by grind)
  have ids := h.shape.ids
  have laneEntry := h.shape.laneEntry
  refine ⟨?_, { seats with unlisted := ?_ }, { holds with peers := ?_, attached := ?_ }⟩
  · constructor
    case ids => grind
    case ownEntry => have := h.shape.ownEntry; grind
    case laneEntry => grind
    case kinds => have := h.shape.kinds; grind
    case described => have := h.shape.described; grind [Open]
    case fresh => have := h.shape.fresh; grind [Open]
    case resumed => have := h.shape.resumed; grind [Open]
  · intro l hl hf hw id' he
    have := seats.unlisted l hl hf hw id'
    have := hl.1
    grind
  · have := holds.peers; grind
  · have := holds.attached; grind

end Directory

end Sessionbus
