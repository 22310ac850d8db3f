import Sessionbus.Directory.Release

/-!
# Peers that say hello
-/

namespace Sessionbus

namespace Directory

attribute [local grind =] Function.update_apply

variable {d : Directory}

theorem Sound.rename (h : d.Sound) {p : Ptr} (peer : (d.items p).peer = true) (name : String) :
    (d.setItem p ((d.items p).setRow { (d.items p).row with name })).Sound := by
  have lane : ∀ l, l < d.nextLaunch → (d.launches l).entry ≠ p := by
    rintro l hl rfl
    simp [(h.shape.laneEntry l hl).2] at peer
  refine ⟨?_, h.seats.setItem rfl, ?_⟩
  · constructor
    case ids => have := h.shape.ids; grind
    case ownEntry => exact h.shape.ownEntry
    case laneEntry => have := h.shape.laneEntry; grind
    case kinds => exact h.shape.kinds
    case described => have := h.shape.described; grind [Open]
    case fresh => have := h.shape.fresh; grind [Open]
    case resumed => have := h.shape.resumed; grind [Open]
  · constructor
    case peers => have := h.holds.peers; grind
    case attached => have := h.holds.attached; grind
    case idle => have := h.holds.idle; grind
    case live => have := h.holds.live; grind
    case claimed => have := h.holds.claimed; grind [Open]
    case kept => have := h.holds.kept; grind [Open]
    case closers => exact h.holds.closers

theorem Sound.seat (h : d.Sound) {s : Ptr} {id : String} {item : Item} (free : d.entries id = none)
    (vacant : (d.sessions s).launch = none) (open_ : (d.sessions s).closed = false)
    (unattached : ∀ p, (d.items p).attachment ≠ some s) (sessionID : item.row.sessionID = id)
    (peer : item.peer = true) (attachment : item.attachment = some s) (undone : item.done = false) :
    (d.seat s id item).Sound := by
  have opens : ∀ l, (d.seat s id item).Open l ↔ d.Open l := fun l => Iff.rfl
  have ids := h.shape.ids
  have laneEntry := h.shape.laneEntry
  refine ⟨?_, ?_, ?_⟩
  · constructor
    case ids => grind
    case ownEntry => exact h.shape.ownEntry
    case laneEntry => grind
    case kinds => exact h.shape.kinds
    case described => have := h.shape.described; grind [Open]
    case fresh => have := h.shape.fresh; grind [Open]
    case resumed =>
      intro l q hl hq
      have := h.shape.resumed l q hl hq
      have := (laneEntry l hl.1).1
      grind
  · constructor
    case lane =>
      intro s' l hs'
      have := h.seats.lane s' l
      by_cases heq : s' = s <;> grind
    case peer => have := h.seats.peer; grind
    case committed => have := h.seats.committed; grind
    case opening => have := h.seats.opening; grind
    case busy => have := h.seats.busy; grind
    case uncommitted => have := h.seats.uncommitted; grind
    case concluded => have := h.seats.concluded; grind
    case owned => have := h.seats.owned; grind
    case unlisted =>
      intro l hl hf hw id' he
      have := (laneEntry l hl.1).1
      refine h.seats.unlisted l hl hf (fun s' hs' => ?_) id' (by grind)
      have := hw s' hs'
      grind
    case tokened => exact h.seats.tokened
    case revoked => exact h.seats.revoked
  · constructor
    case peers => have := h.holds.peers; grind
    case attached => have := h.holds.attached; grind
    case idle => have := h.holds.idle; grind
    case live =>
      have := h.holds.live
      have := h.seats.committed
      have := @h.identity_old
      grind
    case claimed => have := h.holds.claimed; grind [Open]
    case kept => have := h.holds.kept; have := h.shape.resumed; grind [Open]
    case closers => have := h.holds.closers; grind [Open]

theorem Calm.seat {d' : Directory} (c : Calm d d') (s : Ptr) (id : String) (item : Item) :
    Calm (d.seat s id item) (d'.seat s id item) := by
  refine { c with entries := ?_, items := ?_, nextItem := ?_, sessions := fun s' => ?_ }
  · simp only [Directory.seat, c.entries, c.nextItem]
  · simp only [Directory.seat, c.items, c.nextItem]
  · simp only [Directory.seat, c.nextItem]
  · have kept := c.sessions s'
    have next := c.nextItem
    unfold Keeps at kept ⊢
    grind

theorem Sound.takeID (h : d.Sound) {s : Ptr} (full : List Ptr) (host : String) (hello : PeerHello)
    (vacant : (d.sessions s).launch = none) (open_ : (d.sessions s).closed = false)
    (unattached : ∀ p, (d.items p).attachment ≠ some s)
    (peer : ∀ p, d.entries (qualify hello.sessionID host) = some p → (d.items p).peer = true) :
    (d.takeID full host s hello).Sound := by
  unfold Directory.takeID
  simp only
  cases found : d.entries (qualify hello.sessionID host) with
  | none =>
    have sound :=
      h.calm
      (Told.newOwner { id := qualify hello.sessionID host, token := ownerToken d.nextOwner }).calm
    exact sound.seat found vacant open_ unattached rfl rfl rfl rfl
  | some p =>
    obtain ⟨s', attached⟩ := Option.ne_none_iff_exists'.mp (h.holds.peers _ p found (peer p found))
    have id := (h.shape.ids _ p found).1
    -- The lifetime is taken from the old entry before it ends.
    have marked : (d.setItem p ((d.items p).setLifetime none)).Sound :=
      h.mark rfl rfl rfl rfl (fun _ => by simp [attached]) fun l hl =>
        ⟨fun he => absurd he (h.attached_free attached hl).1,
          fun hq => absurd hq (h.attached_free attached hl).2⟩
    have dropped := marked.dropPeer (p := p) (s := s') (by simpa using attached)
        (by simpa using peer p found)
    have seated : (Directory.seat _ s (qualify hello.sessionID host)
        (peerItem host s hello (d.items p).lifetime)).Sound :=
      dropped.seat (by simp [id]) vacant open_ (by grind) rfl rfl rfl rfl
    have same : ((((d.setItem p ((d.items p).setLifetime none)).setEntry
          ((d.setItem p ((d.items p).setLifetime none)).items p).row.sessionID none).setItem p
          ((d.setItem p ((d.items p).setLifetime none)).items p).ended).seat s
          (qualify hello.sessionID host) (peerItem host s hello (d.items p).lifetime)) =
        (((d.setItem p ((d.items p).setLifetime none)).setItem p
          ((d.setItem p ((d.items p).setLifetime none)).items p).ended).seat s
          (qualify hello.sessionID host) (peerItem host s hello (d.items p).lifetime)) := by
      simp [Directory.seat, Directory.setItem, Directory.setEntry, id]
    rw [same] at seated
    exact seated.calm ((Calm.endEntry full p).seat _ _ _)

theorem Sound.replacePeer (h : d.Sound) {s old : Ptr} (full : List Ptr) (hello : PeerHello)
    (vacant : (d.sessions s).launch = none) (open_ : (d.sessions s).closed = false)
    (attached : (d.items old).attachment = some s) (peer : (d.items old).peer = true)
    (peers : ∀ p, d.entries (qualify hello.sessionID d.host) = some p → (d.items p).peer = true) :
    (d.replacePeer full s hello (some old)).Sound := by
  have calm : Calm _ ((d.setEntry (d.items old).row.sessionID none).endEntry full old) :=
    Calm.endEntry full old
  have dropped := (h.dropPeer attached peer).calm calm
  unfold Directory.replacePeer
  simp only
  generalize (d.setEntry (d.items old).row.sessionID none).endEntry full old = d' at calm dropped ⊢
  have identity := (h.holds.attached old s attached).2.2.1
  refine dropped.takeID full d.host hello ((calm.sessions s).2.1.trans vacant)
    ((calm.sessions s).2.2.2.2.1.trans open_) (fun p => ?_) fun p hp => ?_
  · have := h.holds.attached p s
    rw [calm.items]
    grind
  · have := peers p
    rw [calm.entries] at hp
    rw [calm.items]
    grind

theorem installPeer_cases {d' : Directory} {full : List Ptr} {s : Ptr} {hello : PeerHello}
    (heq : d.installPeer full s hello = some d') :
    (∃ old, (d.sessions s).identity = some old ∧ (d.items old).attachment = some s ∧
      (d.items old).row.sessionID = qualify hello.sessionID d.host ∧
      d' = d.setItem old
        ((d.items old).setRow { (d.items old).row with name := qualify hello.name d.host })) ∨
    (∃ old, (d.sessions s).identity = old ∧
      (∀ o, old = some o → (d.items o).attachment = some s ∧
        (d.items o).row.sessionID ≠ qualify hello.sessionID d.host) ∧
      (∀ p, d.entries (qualify hello.sessionID d.host) = some p → (d.items p).peer = true) ∧
      d' = d.replacePeer full s hello old) := by
  unfold Directory.installPeer at heq
  simp only at heq
  cases identity : (d.sessions s).identity with
  | none =>
    refine .inr ⟨none, rfl, by simp, ?_⟩
    cases entry : d.entries (qualify hello.sessionID d.host) <;> simp_all
  | some old =>
    simp only [identity, Option.ite_none_left_eq_some, not_not] at heq
    obtain ⟨attached, heq⟩ := heq
    split at heq
    next same =>
      simp only [Option.ite_none_left_eq_some, Option.some.injEq] at heq
      exact .inl ⟨old, rfl, attached, same, heq.2.symm⟩
    next other =>
      refine .inr ⟨some old, rfl, by simp_all, ?_⟩
      cases entry : d.entries (qualify hello.sessionID d.host) <;> simp_all

theorem Sound.installPeer (h : d.Sound) {d' : Directory} {full : List Ptr} {s : Ptr}
    {hello : PeerHello} (vacant : (d.sessions s).launch = none)
    (open_ : (d.sessions s).closed = false) (heq : d.installPeer full s hello = some d') :
    d'.Sound := by
  obtain ⟨old, identity, -, -, rfl⟩ | ⟨old, identity, replaced, peers, rfl⟩ := installPeer_cases heq
  · exact h.rename (h.seats.peer s old vacant identity).1 _
  · cases old with
    | none =>
      refine h.takeID full d.host hello vacant open_ (fun p hp => ?_) peers
      have := (h.holds.attached p s hp).2.2.1
      simp_all
    | some o =>
      exact h.replacePeer full hello vacant open_ (replaced o rfl).1
        (h.seats.peer s o vacant identity).1 peers

end Directory

end Sessionbus
