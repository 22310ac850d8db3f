import Sessionbus.Directory.Keep

/-!
# A launch keeps the representation invariant

From the claim of its token to the published lane, or back to what the directory was before.
-/

namespace Sessionbus

namespace Directory

attribute [local grind =] Function.update_apply

variable {d : Directory}

/-! ## Opening -/

theorem Seats.setOpening (h : d.Seats) {s : Ptr} {opening : Opening} (over_ : opening ≠ .waiting)
    (able : opening = .reserved → (d.sessions s).launch ≠ none ∧ (d.sessions s).committed = false ∧
      (d.sessions s).returned = false ∧ (d.sessions s).closed = false) :
    (d.setSession s ((d.sessions s).setOpening opening)).Seats := by
  constructor
  case lane => have := h.lane; grind
  case peer => have := h.peer; grind
  case committed => have := h.committed; grind
  case opening => have := h.opening; cases opening <;> grind
  case busy => have := h.busy; grind
  case uncommitted => have := h.uncommitted; grind
  case concluded => have := h.concluded; grind
  case owned => have := h.owned; grind
  case unlisted =>
    intro l hl hf hw
    refine h.unlisted l hl hf fun s' hs' => ?_
    have := hw s' hs'
    grind
  case tokened => exact h.tokened
  case revoked => exact h.revoked

theorem Sound.setOpening (h : d.Sound) {s : Ptr} {opening : Opening} (over_ : opening ≠ .waiting)
    (able : opening = .reserved → (d.sessions s).launch ≠ none ∧ (d.sessions s).committed = false ∧
      (d.sessions s).returned = false ∧ (d.sessions s).closed = false) :
    (d.setSession s ((d.sessions s).setOpening opening)).Sound := by
  refine ⟨{ h.shape with }, h.seats.setOpening over_ able,
    { h.holds with attached := ?_, live := ?_ }⟩
  · have := h.holds.attached; grind
  · have := h.holds.live; grind

theorem Sound.openFailed (h : d.Sound) (s : Ptr) (answer : Answer) :
    (d.setSession s ((d.sessions s).openFailed answer)).Sound := by
  have rested : (d.setSession s ((d.sessions s).setOpening .none)).Sound :=
    h.setOpening (by simp) (by simp)
  have keeps : Keeps ((d.sessions s).setOpening .none) ((d.sessions s).openFailed answer) := by
    unfold Keeps Party.openFailed Party.abortLaunch Party.stop
    grind
  have calm :
      Calm _ ((d.setSession s ((d.sessions s).setOpening .none)).setSession s
        ((d.sessions s).openFailed answer)) :=
    Calm.session (by simpa using keeps)
  simpa [Directory.setSession] using rested.calm calm

theorem Sound.setID (h : d.Sound) {l : Ptr} (hl : d.Open l) (fresh : (d.launches l).fresh = true)
    (unlisted : ∀ id, d.entries id ≠ some (d.launches l).entry) (id : String) :
    (d.setItem (d.launches l).entry
      ((d.entryOf l).setRow { (d.entryOf l).row with sessionID := id })).Sound := by
  have claimed := h.holds.claimed
  have kept := h.holds.kept
  have same : ∀ l', d.Open l' → (d.launches l').entry = (d.launches l).entry → l' = l :=
    fun l' hl' =>
    h.shape.ownEntry l' l hl'.1 hl.1
  refine ⟨?_, h.seats.setItem rfl, ?_⟩
  · constructor
    case ids => have := h.shape.ids; grind
    case ownEntry => exact h.shape.ownEntry
    case laneEntry => have := h.shape.laneEntry; grind
    case kinds => exact h.shape.kinds
    case described => have := h.shape.described; grind [Open]
    case fresh => have := h.shape.fresh; grind [Open]
    case resumed => have := h.shape.resumed; have := h.shape.kinds l hl.1; grind [Open]
  · constructor
    case peers => have := h.holds.peers; grind
    case attached => have := h.holds.attached; grind
    case idle => have := h.holds.idle; grind
    case live => have := h.holds.live; grind
    case claimed => grind [Open]
    case kept => grind [Open]
    case closers => exact h.holds.closers

theorem Sound.listID (h : d.Sound) {s l : Ptr} (launch : (d.sessions s).launch = some l)
    (uncommitted : (d.sessions s).committed = false) (open_ : (d.sessions s).closed = false)
    (running : (d.sessions s).returned = false) (fresh : (d.launches l).fresh = true)
    (free : d.entries (d.entryOf l).row.sessionID = none) :
    ((d.setEntry (d.entryOf l).row.sessionID (some (d.launches l).entry)).setSession s
      ((d.sessions s).setOpening .reserved)).Sound := by
  obtain ⟨hlt, owner, identity⟩ := h.seats.lane s l launch
  have hl : d.Open l := ⟨hlt, h.seats.uncommitted s l launch uncommitted running⟩
  have kind := h.shape.kinds l hlt
  have lane := h.shape.laneEntry l hlt
  have same : ∀ l', d.Open l' → (d.launches l').entry = (d.launches l).entry → l' = l :=
    fun l' hl' =>
    h.shape.ownEntry l' l hl'.1 hlt
  refine ⟨?_, ?_, ?_⟩
  · constructor
    case ids => have := h.shape.ids; grind
    case ownEntry => exact h.shape.ownEntry
    case laneEntry => exact h.shape.laneEntry
    case kinds => exact h.shape.kinds
    case described => have := h.shape.described; grind [Open]
    case fresh => exact h.shape.fresh
    case resumed => have := h.shape.resumed; grind [Open]
  · have seats : (d.setSession s ((d.sessions s).setOpening .reserved)).Seats :=
      h.seats.setOpening (by simp) fun _ => ⟨by simp [launch], uncommitted, running, open_⟩
    refine { seats with unlisted := fun l' hl' hf hw id he => ?_ }
    have opening := hw s
    have old := seats.unlisted l' hl' hf hw id
    have := same l' hl'
    grind
  · refine { h.holds with peers := ?_, attached := ?_, live := ?_ }
    · have := h.holds.peers; grind
    · have := h.holds.attached; grind
    · have := h.holds.live; grind

theorem Sound.open_session (h : d.Sound) {s l : Ptr} (launch : (d.sessions s).launch = some l)
    (opening : (d.sessions s).opening ≠ .none) : d.Open l := by
  obtain ⟨-, uncommitted, running⟩ := h.seats.opening s opening
  exact ⟨(h.seats.lane s l launch).1, h.seats.uncommitted s l launch uncommitted running⟩

theorem Sound.unlisted (h : d.Sound) {s l : Ptr} (launch : (d.sessions s).launch = some l)
    (fresh : (d.launches l).fresh = true) (waiting : (d.sessions s).opening = .waiting)
    (id : String) : d.entries id ≠ some (d.launches l).entry := by
  have owner := (h.seats.lane s l launch).2.1
  exact h.seats.unlisted l (h.open_session launch (by simp [waiting])) fresh (by grind) id

theorem Sound.identified (h : d.Sound) {s l : Ptr} (launch : (d.sessions s).launch = some l)
    (fresh : (d.launches l).fresh = true) (waiting : (d.sessions s).opening = .waiting)
    (id : String) : (d.identified l id).Sound :=
  h.setID (h.open_session launch (by simp [waiting])) fresh (h.unlisted launch fresh waiting)
    (qualify id d.host)

theorem Sound.openID (h : d.Sound) {s l : Ptr} (launch : (d.sessions s).launch = some l)
    (fresh : (d.launches l).fresh = true) (waiting : (d.sessions s).opening = .waiting)
    (reads : (d.sessions s).reads = true) {id : String}
    (free : d.entries (qualify id d.host) = none) :
    (((d.identified l id).setEntry (qualify id d.host) (some (d.launches l).entry)).setSession s
      ((d.sessions s).setOpening .reserved)).Sound := by
  obtain ⟨-, uncommitted, running⟩ := h.seats.opening s (by simp [waiting])
  simp only [Party.reads, Bool.and_eq_true, Bool.not_eq_eq_eq_not, Bool.not_true] at reads
  have listed := (h.identified launch fresh waiting id).listID launch uncommitted reads.2 running
      fresh (by simpa using free)
  simpa using listed

/-! ## Claims -/

theorem startLane_frame (p : Party) (l : Ptr) (launch : Launch) (row : Row)
    (hello : HelloDescription) (sent : Bool) :
    let v := p.startLane l launch row hello sent
    v.identity = some launch.entry ∧ v.launch = some l ∧ v.committed = p.committed ∧
    v.closed = p.closed ∧
      v.returned = p.returned := by
  unfold Party.startLane Party.abortLaunch Party.stop
  grind

theorem Sound.claimed (h : d.Sound) {s l : Ptr} {v : Party} (token : l ∈ d.tokens)
    (unknown : (d.sessions s).identity = none) (open_ : (d.sessions s).closed = false)
    (running : (d.sessions s).returned = false) (identity : v.identity = some (d.launches l).entry)
    (launch : v.launch = some l) (committed : v.committed = (d.sessions s).committed)
    (closed : v.closed = (d.sessions s).closed) (returned : v.returned = (d.sessions s).returned) :
    (((d.setLaunch l ((d.launches l).claim s)).setTokens (d.tokens.filter (· != l))).setSession s
      v).Sound := by
  obtain ⟨hl, unowned, unrevoked⟩ := h.seats.tokened l token
  have vacant : (d.sessions s).launch = none := by
    cases hs : (d.sessions s).launch with
    | none => rfl
    | some l' => have := (h.seats.lane s l' hs).2.2; simp_all
  have uncommitted : (d.sessions s).committed = false := by
    by_contra hc
    exact h.seats.committed s (by simpa using hc) vacant
  have rests : (d.sessions s).opening = .none := by
    by_contra hc
    exact (h.seats.opening s hc).1 vacant
  have hlt := hl.1
  have hconcluded := hl.2
  have opens :
      ∀ l',
      (((d.setLaunch l ((d.launches l).claim s)).setTokens (d.tokens.filter (· != l))).setSession s
        v).Open l' ↔ d.Open l' := by
    intro l'
    unfold Open
    grind
  refine ⟨?_, ?_, ?_⟩
  · constructor
    case ids => exact h.shape.ids
    case ownEntry => have := h.shape.ownEntry; grind
    case laneEntry => have := h.shape.laneEntry; grind
    case kinds => have := h.shape.kinds; grind
    case described => have := h.shape.described; grind
    case fresh => have := h.shape.fresh; grind
    case resumed => have := h.shape.resumed; grind
  · constructor
    case lane =>
      intro s' l' hs'
      have := h.seats.lane s' l'
      by_cases heq : s' = s <;> grind
    case peer => have := h.seats.peer; grind
    case committed => have := h.seats.committed; grind
    case opening => have := h.seats.opening; grind
    case busy => have := h.seats.busy; grind
    case uncommitted => have := h.seats.uncommitted; grind
    case concluded => have := h.seats.concluded; grind
    case owned => have := h.seats.owned; grind
    case unlisted =>
      intro l' hl' hf hw
      have old := (opens l').mp hl'
      have owned := h.seats.owned l'
      have unlisted := h.seats.unlisted l' old
      by_cases heq : l' = l
      · subst heq
        simpa using unlisted (by grind) (by grind)
      · refine fun id he => unlisted (by grind) (fun s' hs' => ?_) id (by grind)
        have := hw s' (by grind)
        have := owned s' old.1 hs'
        grind
    case tokened => have := h.seats.tokened; grind
    case revoked => have := h.seats.revoked; grind
  · constructor
    case peers => exact h.holds.peers
    case attached => have := h.holds.attached; grind
    case idle => exact h.holds.idle
    case live => have := h.holds.live; grind
    case claimed => have := h.holds.claimed; grind
    case kept => have := h.holds.kept; grind
    case closers => have := h.holds.closers; grind

/-! ## Launch records -/

theorem Sound.markLaunch (h : d.Sound) {l : Ptr} {v : Launch} (tokens : List Ptr)
    (parent : v.previous = (d.launches l).previous) (entry : v.entry = (d.launches l).entry)
    (owner : v.owner = (d.launches l).owner) (describe : v.describe = (d.launches l).describe)
    (fresh : v.fresh = (d.launches l).fresh) (concluded : v.concluded = (d.launches l).concluded)
    (fewer : ∀ l', l' ∈ tokens → l' ∈ d.tokens)
    (revoked : v.revoked ≠ none → (d.launches l).revoked ≠ none ∨ l ∈ d.tokens)
    (token : l ∈ tokens → v.revoked = none) : ((d.setLaunch l v).setTokens tokens).Sound := by
  have opens : ∀ l', ((d.setLaunch l v).setTokens tokens).Open l' ↔ d.Open l' := by
    intro l'
    unfold Open
    grind
  have same : ∀ l', (((d.setLaunch l v).setTokens tokens).launches l').entry =
      (d.launches l').entry := by grind
  refine ⟨?_, ?_, ?_⟩
  · constructor
    case ids => exact h.shape.ids
    case ownEntry => have := h.shape.ownEntry; grind
    case laneEntry => have := h.shape.laneEntry; grind
    case kinds => have := h.shape.kinds; grind
    case described => have := h.shape.described; grind
    case fresh => have := h.shape.fresh; grind
    case resumed => have := h.shape.resumed; grind
  · constructor
    case lane => have := h.seats.lane; grind
    case peer => exact h.seats.peer
    case committed => exact h.seats.committed
    case opening => exact h.seats.opening
    case busy => exact h.seats.busy
    case uncommitted => have := h.seats.uncommitted; grind
    case concluded => have := h.seats.concluded; grind
    case owned => have := h.seats.owned; grind
    case unlisted =>
      intro l' hl' hf hw
      have := h.seats.unlisted l' ((opens l').mp hl')
      grind
    case tokened => have := h.seats.tokened; grind
    case revoked => have := h.seats.revoked; have := h.seats.tokened; grind
  · constructor
    case peers => exact h.holds.peers
    case attached => exact h.holds.attached
    case idle => exact h.holds.idle
    case live => exact h.holds.live
    case claimed => have := h.holds.claimed; grind
    case kept => have := h.holds.kept; grind
    case closers => have := h.holds.closers; grind

theorem Sound.reply (h : d.Sound) (l : Ptr) (answer : Answer) : (d.reply l answer).Sound :=
  h.markLaunch d.tokens rfl rfl rfl rfl rfl rfl (fun _ => id) .inl fun hl =>
    (h.seats.tokened l hl).2.2

/-! ## Publishing -/

theorem Seats.conclude (h : d.Seats) {s l : Ptr} {v : Party}
    (launch : (d.sessions s).launch = some l) (identity : v.identity = (d.sessions s).identity)
    (same : v.launch = (d.sessions s).launch) (opening : v.opening = .none)
    (finished : v.committed = true ∨ v.committed = (d.sessions s).committed ∧ v.returned = true) :
    ((d.setLaunch l (d.launches l).conclude).setSession s v).Seats := by
  obtain ⟨hlt, owner, -⟩ := h.lane s l launch
  have only : ∀ s', (d.sessions s').launch = some l → s' = s := fun s' hs' => by
    have := (h.lane s' l hs').2.1
    simp_all
  constructor
  case lane =>
    intro s' l' hs'
    have := h.lane s' l'
    by_cases heq : s' = s <;> grind
  case peer => have := h.peer; grind
  case committed => have := h.committed; grind
  case opening => have := h.opening; grind
  case busy => have := h.busy; grind
  case uncommitted => have := h.uncommitted; grind
  case concluded => have := h.concluded; grind
  case owned => have := h.owned; grind
  case unlisted =>
    intro l' hl' hf hw
    have hne : l' ≠ l := by
      rintro rfl
      have := hl'.2
      grind
    have hl : d.Open l' := by
      unfold Open at hl' ⊢
      grind
    have := h.unlisted l' hl
    have := h.owned l'
    grind
  case tokened => have := h.tokened; grind [Open]
  case revoked => have := h.revoked; grind [Open]

theorem Sound.published (h : d.Sound) {s l o : Ptr} {row : Row}
    (launch : (d.sessions s).launch = some l) (uncommitted : (d.sessions s).committed = false)
    (open_ : (d.sessions s).closed = false) (running : (d.sessions s).returned = false)
    (listed : d.listed (d.launches l).entry = true)
    (id : row.sessionID = (d.entryOf l).row.sessionID) :
    (((d.setItem (d.launches l).entry ((d.entryOf l).published row s o)).setLaunch l
      (d.launches l).conclude).setSession s (d.sessions s).commit).Sound := by
  obtain ⟨hlt, owner, identity⟩ := h.seats.lane s l launch
  have hl : d.Open l := ⟨hlt, h.seats.uncommitted s l launch uncommitted running⟩
  have entry : d.entries (d.entryOf l).row.sessionID = some (d.launches l).entry := by
    simpa [Directory.listed] using listed
  have claimed := h.holds.claimed
  have kept := h.holds.kept
  have same : ∀ l', l' < d.nextLaunch → (d.launches l').entry = (d.launches l).entry → l' = l :=
    fun l' hl' =>
    h.shape.ownEntry l' l hl' hlt
  have opens :
      ∀ l',
      (((d.setItem (d.launches l).entry ((d.entryOf l).published row s o)).setLaunch l
        (d.launches l).conclude).setSession s (d.sessions s).commit).Open l' ↔ d.Open l' ∧
        l' ≠ l := by
    intro l'
    unfold Open
    grind
  refine ⟨?_, ?_, ?_⟩
  · constructor
    case ids => have := h.shape.ids; grind
    case ownEntry => have := h.shape.ownEntry; grind
    case laneEntry => have := h.shape.laneEntry; grind
    case kinds => have := h.shape.kinds; grind
    case described => have := h.shape.described; grind [Open]
    case fresh => have := h.shape.fresh; grind [Open]
    case resumed => have := h.shape.resumed; grind [Open]
  · have seats : (d.setItem (d.launches l).entry ((d.entryOf l).published row s o)).Seats :=
      h.seats.setItem rfl
    exact seats.conclude launch rfl rfl rfl (.inl rfl)
  · constructor
    case peers => have := h.holds.peers; grind
    case attached => have := h.holds.attached; grind
    case idle => have := h.holds.idle; grind
    case live =>
      intro s' p
      have := h.holds.live s' p
      have := claimed l hl
      by_cases heq : s' = s <;> grind
    case claimed => grind [Open]
    case kept => grind [Open]
    case closers => have := h.holds.closers; grind

end Directory

end Sessionbus
