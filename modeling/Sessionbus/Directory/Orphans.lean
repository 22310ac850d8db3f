import Sessionbus.Directory.Retiring
import Sessionbus.Directory.Still

/-!
# Lanes do not outlive their owners unseen

A lane that is not persistent has to close when its owner ends. The owner's end may come at any time
of the lane's launch, and the lane's session takes notice of it later.
-/

namespace Sessionbus

namespace Directory

variable {d d' : Directory}

theorem Replaces.found {s o : Ptr} {value : PeerHello} (h : d.Replaces s value (some o))
    (sound : d.Sound) (full : List Ptr) :
    ((d.setEntry (d.items o).row.sessionID none).endEntry full o).entries
        (qualify value.sessionID d.host) =
      d.entries (qualify value.sessionID d.host) ∧
    ∀ found, d.entries (qualify value.sessionID d.host) = some found →
      ((d.setEntry (d.items o).row.sessionID none).endEntry full o).items found =
        d.items found := by
  obtain ⟨-, -, other⟩ := h.former o rfl
  rw [endEntry_entries, endEntry_items]
  refine ⟨Function.update_of_ne other.symm _ _, fun found entry => ?_⟩
  have apart : found ≠ o := by
    rintro rfl
    exact other (sound.shape.ids _ found entry).1
  rw [Function.update_of_ne apart]
  rfl

theorem takeID_succeeds {host : String} {hello : PeerHello} {found : Ptr}
    (entry : d.entries (qualify hello.sessionID host) = some found) (full : List Ptr) (s : Ptr) :
    ∃ p, (d.takeID full host s hello).entries (qualify hello.sessionID host) = some p ∧
      ((d.takeID full host s hello).items p).lifetime = (d.items found).lifetime ∧
      ((d.takeID full host s hello).items p).attachment = some s := by
  rw [takeID_found entry]
  refine ⟨d.nextItem, Function.update_self .., ?_, ?_⟩
  all_goals rw [seat_items, setItem_nextItem, Function.update_self]; rfl

theorem Replaces.succeeds {s found : Ptr} {value : PeerHello} {old : Option Ptr}
    (h : d.Replaces s value old) (sound : d.Sound)
    (entry : d.entries (qualify value.sessionID d.host) = some found) (full : List Ptr) :
    ∃ p, (d.replacePeer full s value old).entries (qualify value.sessionID d.host) = some p ∧
      ((d.replacePeer full s value old).items p).lifetime = (d.items found).lifetime ∧
      ((d.replacePeer full s value old).items p).attachment = some s := by
  unfold Directory.replacePeer
  split
  · exact takeID_succeeds entry full s
  next o =>
    obtain ⟨entries, items⟩ := h.found sound full
    rw [← items found entry]
    exact takeID_succeeds (entries.trans entry) full s

/-! ## Orphans close -/

/-- The session of every orphan will close. -/
def Tended (d : Directory) : Prop := ∀ p s o, d.Orphan p s o → (d.sessions s).Pressed o

namespace Tended

theorem of (h : d.Tended) (owners : ∀ o, (d'.owners o).ended = true → (d.owners o).ended = true)
    (items : ∀ p, (d'.items p).peer = true ∨ (d.items p).Fades (d'.items p))
    (sessions : ∀ s, (d.sessions s).Presses (d'.sessions s)) : d'.Tended := by
  intro p s o orphan
  rcases items p with peer | fades
  · rw [orphan.lane] at peer
    cases peer
  · exact sessions s o (h p s o (orphan.fades (owners o) fades))

theorem plain (h : d.Tended) (change : Plain d d') : d'.Tended := by
  intro p s o orphan
  have before : d.Orphan p s o := orphan.fades (by rw [change.owners]; exact id) (change.items p)
  exact change.pressed p s o orphan (h p s o before)

theorem endOwner (h : d.Tended) (seated : d.Seated) (full : List Ptr) (owner : Option Ptr) :
    (d.endOwner full owner).Tended := by
  obtain ⟨heq, -⟩ | ⟨o, -, -, ends⟩ := endOwner_cases (d := d) full owner
  · rw [heq]
    exact h
  · intro p s o' orphan
    obtain ⟨lane, attached, nonpersistent, parent, ended⟩ := orphan
    rw [ends.told.items] at lane attached nonpersistent parent
    by_cases same : o' = o
    · subst same
      exact ends.reached seated p s lane attached nonpersistent parent
    · rw [ends.owners, Function.update_of_ne same] at ended
      exact heard_presses (ends.told.sessions s) o'
        (h p s o' ⟨lane, attached, nonpersistent, parent, ended⟩)

theorem endEntry (h : d.Tended) (seated : d.Seated) (full : List Ptr) (p : Ptr) :
    (d.endEntry full p).Tended :=
  (h.endOwner seated full (d.items p).lifetime).plain (.setItem (.detached rfl rfl))

theorem retiring (h : d.Tended) (run : Retiring d d') : d'.Tended := by
  induction run with
  | refl => exact h
  | plain _ change ih => exact ih.plain change
  | endEntry _ seated full p ih => exact ih.endEntry seated full p
  | endRemote _ seated full e o ih =>
    unfold Directory.endRemote
    split
    · exact (ih.endOwner seated full (some o)).of (fun _ => id) (fun _ => .inr (.refl _))
        fun _ => .refl _
    · exact ih

theorem newOwner (h : d.Tended) {owner : Ownership} (unended : owner.ended = false) :
    (d.newOwner owner).Tended := by
  refine h.of (fun o ended => ?_) (fun _ => .inr (.refl _)) fun _ => .refl _
  change (Function.update d.owners d.nextOwner owner o).ended = true at ended
  rw [Function.update_apply] at ended
  split at ended
  · rw [unended] at ended
    cases ended
  · exact ended

theorem seat (h : d.Tended) (s : Ptr) (name : String) {item : Item} (peer : item.peer = true) :
    (d.seat s name item).Tended := by
  refine h.of (fun _ => id) (fun p => ?_) fun s' => ?_
  · rw [seat_items, Function.update_apply]
    split
    · exact .inl peer
    · exact .inr (.refl _)
  · rw [seat_sessions, Function.update_apply]
    split
    next same =>
      subst same
      exact .of rfl id id id
    · exact .refl _

theorem takeID (h : d.Tended) (full : List Ptr) (host : String) (s : Ptr) (hello : PeerHello) :
    (d.takeID full host s hello).Tended := by
  cases entry : d.entries (qualify hello.sessionID host) with
  | some found =>
    rw [takeID_found entry]
    exact (h.plain (.setItem (.vacant rfl rfl))).seat s _ rfl
  | none =>
    unfold Directory.takeID
    simp only [entry]
    exact (h.newOwner rfl).seat s _ rfl

theorem attach (h : d.Tended) {l : Ptr} (publishes : d.publishes l = true) (s : Ptr)
    (createdAt : Nat) : (d.attach l s createdAt).Tended := by
  have added :
      (d.newOwner { id := (d.entryOf l).row.sessionID, token := ownerToken d.nextOwner }).Tended :=
    h.newOwner rfl
  intro p s' o orphan
  obtain ⟨lane, attached, nonpersistent, parent, ended⟩ := orphan
  by_cases same : p = (d.launches l).entry
  · have unended : (d.owners o).ended = true := by
      change (Function.update d.owners d.nextOwner _ o).ended = true at ended
      rw [Function.update_apply] at ended
      split at ended
      · cases ended
      · exact ended
    rw [attach_items, same, Function.update_self] at nonpersistent parent
    have parent : (d.items (d.launches l).entry).parent = some o := parent
    have nonpersistent : (d.items (d.launches l).entry).nonpersistent = true := by
      unfold Item.nonpersistent at nonpersistent ⊢
      rw [Item.published_row, (stamp_frame _ createdAt).2.2] at nonpersistent
      exact nonpersistent
    unfold Directory.publishes at publishes
    simp [parent, unended, nonpersistent] at publishes
  · rw [attach_items, Function.update_of_ne same] at lane attached nonpersistent parent
    exact added p s' o ⟨lane, attached, nonpersistent, parent, ended⟩

theorem postCallerForward (h : d.Tended) (s : Ptr) (target : String) :
    (d.postCallerForward s target).Tended := by
  unfold Directory.postCallerForward
  split
  · exact h
  next o _ =>
    split
    · exact h
    · refine h.of (fun o' ended => ?_) (fun _ => .inr (.refl _)) fun _ => .refl _
      rw [setOwner_owners, Function.update_apply] at ended
      split at ended
      next same =>
        subst same
        exact ended
      · exact ended

theorem remoteOwner (h : d.Tended) (caller : Caller) : (d.remoteOwner caller).1.Tended := by
  unfold Directory.remoteOwner
  split
  · exact h
  · split
    · exact h
    · exact (h.newOwner rfl).of (fun _ => id) (fun _ => .inr (.refl _)) fun _ => .refl _

theorem replacePeer (h : d.Tended) (sound : d.Sound) (full : List Ptr) {s : Ptr} {value : PeerHello}
    {old : Option Ptr} (replaces : d.Replaces s value old) :
    (d.replacePeer full s value old).Tended := by
  unfold Directory.replacePeer
  split
  · exact h.takeID full _ s value
  next o =>
    obtain ⟨peer, attached, -⟩ := replaces.former o rfl
    exact ((h.plain (.setEntry d _ none)).endEntry (sound.unlist_seated peer attached) full
      o).takeID full _ s value

theorem step (h : d.Tended) (sound : d.Sound) (a : Action) : (d.step a).Tended := by
  obtain retiring | ⟨s, target, -, heq⟩ | ⟨caller, -, plain⟩ | ⟨l, s, createdAt, publishes, plain⟩ |
    ⟨up, room, rfl⟩ | ⟨s, value, full, old, -, replaces, heq⟩ := sound.step_cases a
  · exact h.retiring retiring
  · rw [heq]
    exact h.postCallerForward s target
  · exact (h.remoteOwner caller).plain plain
  · exact (h.attach publishes s createdAt).plain plain
  · exact h.of (fun _ => id) (fun _ => .inr (.refl _)) fun _ => .refl _
  · rw [heq]
    exact h.replacePeer sound full replaces

end Tended

/-! ## Owners of attached entries -/

/-- Every attached entry has a lifetime of its own, which has not ended. -/
structure Lives (d : Directory) : Prop where
  known : ∀ p o, (d.items p).lifetime = some o → o < d.nextOwner
  distinct : ∀ p q o, (d.items p).lifetime = some o → (d.items q).lifetime = some o → p = q
  attached : ∀ p, (d.items p).attachment ≠ none → ∃ o, (d.items p).lifetime = some o ∧
    (d.owners o).ended = false
  remote : ∀ k o, d.remoteOwners k = some o → o < d.nextOwner ∧ ∀ p, (d.items p).lifetime ≠ some o

namespace Lives

theorem of (h : d.Lives) (nextOwner : d'.nextOwner = d.nextOwner)
    (items : ∀ p, (d.items p).Fades (d'.items p))
    (remoteOwners : ∀ k o, d'.remoteOwners k = some o → d.remoteOwners k = some o)
    (ended : ∀ p o, (d'.items p).attachment ≠ none → (d.items p).lifetime = some o →
      (d'.owners o).ended = (d.owners o).ended) :
    d'.Lives where
  known p o hp := nextOwner ▸ h.known p o ((items p).lifetime o hp)
  distinct p q o hp hq := h.distinct p q o ((items p).lifetime o hp) ((items q).lifetime o hq)
  attached p hp := by
    obtain ⟨s, attachment⟩ := Option.ne_none_iff_exists'.mp hp
    obtain ⟨before, lifetime, -⟩ := (items p).attached s attachment
    obtain ⟨o, own, unended⟩ := h.attached p (by simp [before])
    exact ⟨o, lifetime.trans own, (ended p o hp own).trans unended⟩
  remote k o hk := by
    obtain ⟨known, other⟩ := h.remote k o (remoteOwners k o hk)
    exact ⟨nextOwner ▸ known, fun p hp => other p ((items p).lifetime o hp)⟩

theorem plain (h : d.Lives) (change : Plain d d') : d'.Lives :=
  h.of change.nextOwner change.items (fun k o hk => change.remoteOwners ▸ hk) fun _ _ _ _ => by
    rw [change.owners]

theorem endEntry (h : d.Lives) (full : List Ptr) (p : Ptr) : (d.endEntry full p).Lives := by
  obtain ⟨heq, -⟩ | ⟨o, own, -, ends⟩ := endOwner_cases (d := d) full (d.items p).lifetime
  · unfold Directory.endEntry
    rw [heq]
    exact h.plain (.setItem (.detached rfl rfl))
  · refine h.of ends.nextOwner (fun q => ?_) (fun k o' hk => ends.remoteOwners ▸ hk)
      fun q o' attached lifetime => ?_
    · have fades : (d.items p).Fades (d.items p).ended := .detached rfl rfl
      rw [endEntry_items]
      exact fades_update fades q
    · rw [endEntry_items, Function.update_apply] at attached
      split at attached
      · exact absurd rfl attached
      next other =>
        have apart : o' ≠ o := by
          rintro rfl
          exact other (h.distinct q p o' lifetime own)
        show ((d.endOwner full (d.items p).lifetime).owners o').ended = _
        rw [ends.owners, Function.update_of_ne apart]

theorem endRemote (h : d.Lives) (full : List Ptr) (e : LifetimeEvent) (o : Ptr) :
    (d.endRemote full e o).Lives := by
  unfold Directory.endRemote
  split
  next ends =>
    simp only [Bool.and_eq_true, beq_iff_eq] at ends
    have foreign := (h.remote _ o ends.1).2
    have told : Told d (d.endOwner full (some o)) := Told.endOwner full (some o)
    have forgotten : ∀ k o', Function.update (d.endOwner full (some o)).remoteOwners
        (ownerKey ((d.endOwner full (some o)).owners o)) none k = some o' →
        (d.endOwner full (some o)).remoteOwners k = some o' := by
      intro k o' hk
      rw [Function.update_apply] at hk
      split at hk
      · cases hk
      · exact hk
    obtain ⟨heq, -⟩ | ⟨o', same, -, ended⟩ := endOwner_cases (d := d) full (some o)
    · rw [heq] at forgotten ⊢
      exact h.of rfl (fun _ => .refl _) forgotten fun _ _ _ _ => rfl
    · cases same
      refine h.of ended.nextOwner (fun p => ?_)
        (fun k o' hk => ended.remoteOwners ▸ forgotten k o' hk) fun p o' _ lifetime => ?_
      · show (d.items p).Fades ((d.endOwner full (some o)).items p)
        rw [told.items]
        exact .refl _
      · have apart : o' ≠ o := by
          rintro rfl
          exact foreign p lifetime
        show ((d.endOwner full (some o)).owners o').ended = _
        rw [ended.owners, Function.update_of_ne apart]
  · exact h

theorem retiring (h : d.Lives) (run : Retiring d d') : d'.Lives := by
  induction run with
  | refl => exact h
  | plain _ change ih => exact ih.plain change
  | endEntry _ _ full p ih => exact ih.endEntry full p
  | endRemote _ _ full e o ih => exact ih.endRemote full e o

theorem begin (h : d.Lives) {owner : Ownership} (unended : owner.ended = false) {p : Ptr} {v : Item}
    (lifetime : v.lifetime = some d.nextOwner)
    (owners : d'.owners = Function.update d.owners d.nextOwner owner)
    (nextOwner : d'.nextOwner = d.nextOwner + 1) (remoteOwners : d'.remoteOwners = d.remoteOwners)
    (items : d'.items = Function.update d.items p v) : d'.Lives := by
  have cases_ : ∀ q o, (d'.items q).lifetime = some o → q = p ∧ o = d.nextOwner ∨ q ≠ p ∧
      (d.items q).lifetime = some o := by
    intro q o hq
    rw [items, Function.update_apply] at hq
    split at hq
    next same =>
      rw [lifetime] at hq
      cases hq
      exact .inl ⟨same, rfl⟩
    next other => exact .inr ⟨other, hq⟩
  refine ⟨fun q o hq => ?_, fun q r o hq hr => ?_, fun q hq => ?_, fun k o hk => ?_⟩
  · rw [nextOwner]
    rcases cases_ q o hq with ⟨-, rfl⟩ | ⟨-, old⟩
    · exact Nat.lt_succ_self _
    · exact Nat.lt_succ_of_lt (h.known q o old)
  · rcases cases_ q o hq with ⟨rfl, rfl⟩ | ⟨-, old⟩
    · rcases cases_ r _ hr with ⟨rfl, -⟩ | ⟨-, old⟩
      · rfl
      · exact absurd (h.known r _ old) (lt_irrefl _)
    · rcases cases_ r o hr with ⟨-, rfl⟩ | ⟨-, old'⟩
      · exact absurd (h.known q _ old) (lt_irrefl _)
      · exact h.distinct q r o old old'
  · rw [items, owners] at *
    rw [Function.update_apply] at hq ⊢
    split
    next same =>
      refine ⟨d.nextOwner, lifetime, ?_⟩
      rw [Function.update_self]
      exact unended
    next other =>
      rw [if_neg other] at hq
      obtain ⟨o, own, live⟩ := h.attached q hq
      refine ⟨o, own, ?_⟩
      rw [Function.update_of_ne (Nat.ne_of_lt (h.known q o own))]
      exact live
  · obtain ⟨known, other⟩ := h.remote k o (remoteOwners ▸ hk)
    refine ⟨nextOwner ▸ Nat.lt_succ_of_lt known, fun q hq => ?_⟩
    rcases cases_ q o hq with ⟨-, rfl⟩ | ⟨-, old⟩
    · exact absurd known (lt_irrefl _)
    · exact other q old

theorem takeID (h : d.Lives) (full : List Ptr) (host : String) (s : Ptr) (hello : PeerHello)
    (held : ∀ found, d.entries (qualify hello.sessionID host) = some found →
      (d.items found).attachment ≠ none) :
    (d.takeID full host s hello).Lives := by
  cases entry : d.entries (qualify hello.sessionID host) with
  | none =>
    unfold Directory.takeID
    simp only [entry]
    exact h.begin (v := peerItem host s hello (some d.nextOwner)) rfl rfl rfl rfl rfl rfl
  | some found =>
    rw [takeID_found entry]
    obtain ⟨own, lifetime, unended⟩ := h.attached found (held found entry)
    -- the lifetime moves from the entry that was found to the new one
    have moved :
        ∀ p o,
        (((d.setItem found ((d.items found).setLifetime none).ended).seat s
          (qualify hello.sessionID host)
        (peerItem host s hello (d.items found).lifetime)).items p).lifetime = some o →
        p = d.nextItem ∧ o = own ∨ p ≠ d.nextItem ∧ p ≠ found ∧ (d.items p).lifetime = some o := by
      intro p o hp
      rw [seat_items, Function.update_apply] at hp
      split at hp
      next same =>
        refine .inl ⟨same, ?_⟩
        rw [peerItem_lifetime, lifetime] at hp
        cases hp
        rfl
      next other =>
        rw [setItem_items, Function.update_apply] at hp
        split at hp
        · cases hp
        next apart => exact .inr ⟨other, apart, hp⟩
    refine ⟨fun p o hp => ?_, fun p q o hp hq => ?_, fun p hp => ?_, fun k o hk => ?_⟩
    · rcases moved p o hp with ⟨-, rfl⟩ | ⟨-, -, old⟩
      · exact h.known found _ lifetime
      · exact h.known p o old
    · rcases moved p o hp with ⟨rfl, rfl⟩ | ⟨-, apart, old⟩
      · rcases moved q _ hq with ⟨rfl, -⟩ | ⟨-, apart, old⟩
        · rfl
        · exact absurd (h.distinct q found _ old lifetime) apart
      · rcases moved q o hq with ⟨-, rfl⟩ | ⟨-, -, old'⟩
        · exact absurd (h.distinct p found _ old lifetime) apart
        · exact h.distinct p q o old old'
    · rw [seat_items, Function.update_apply] at hp ⊢
      split
      · exact ⟨own, lifetime, unended⟩
      next other =>
        rw [if_neg other, setItem_items, Function.update_apply] at hp
        rw [setItem_items, Function.update_apply]
        split
        next same =>
          rw [if_pos same] at hp
          exact absurd rfl hp
        next apart =>
          rw [if_neg apart] at hp
          exact h.attached p hp
    · obtain ⟨known, other⟩ := h.remote k o hk
      refine ⟨known, fun p hp => ?_⟩
      rcases moved p o hp with ⟨-, rfl⟩ | ⟨-, -, old⟩
      · exact other found lifetime
      · exact other p old

theorem replacePeer (h : d.Lives) (sound : d.Sound) (full : List Ptr) {s : Ptr} {value : PeerHello}
    {old : Option Ptr} (replaces : d.Replaces s value old) :
    (d.replacePeer full s value old).Lives := by
  have held : ∀ found, d.entries (qualify value.sessionID d.host) = some found →
      (d.items found).attachment ≠ none :=
    fun found entry => sound.holds.peers _ found entry (replaces.peers found entry)
  unfold Directory.replacePeer
  split
  · exact h.takeID full _ s value held
  next o =>
    obtain ⟨peer, attached, other⟩ := replaces.former o rfl
    refine ((h.plain (.setEntry d _ none)).endEntry full o).takeID full _ s value
      fun found entry => ?_
    obtain ⟨entries, items⟩ := replaces.found sound full
    have entry : d.entries (qualify value.sessionID d.host) = some found := entries.symm.trans entry
    rw [items found entry]
    exact held found entry

theorem postCallerForward (h : d.Lives) (s : Ptr) (target : String) :
    (d.postCallerForward s target).Lives := by
  unfold Directory.postCallerForward
  split
  · exact h
  next o _ =>
    split
    · exact h
    · refine h.of rfl (fun _ => .refl _) (fun _ _ => id) fun p o' _ _ => ?_
      rw [setOwner_owners, Function.update_apply]
      split
      next same =>
        subst same
        rfl
      · rfl

theorem remoteOwner (h : d.Lives) (caller : Caller) : (d.remoteOwner caller).1.Lives := by
  unfold Directory.remoteOwner
  split
  · exact h
  · split
    · exact h
    · refine ⟨fun p o hp => Nat.lt_succ_of_lt (h.known p o hp), h.distinct, fun p hp => ?_,
        fun k o hk => ?_⟩
      · obtain ⟨o, own, unended⟩ := h.attached p hp
        refine ⟨o, own, ?_⟩
        show (Function.update d.owners d.nextOwner _ o).ended = false
        rw [Function.update_of_ne (Nat.ne_of_lt (h.known p o own))]
        exact unended
      · change Function.update d.remoteOwners _ (some d.nextOwner) k = some o at hk
        rw [Function.update_apply] at hk
        split at hk
        · cases hk
          exact ⟨Nat.lt_succ_self _, fun p hp => absurd (h.known p _ hp) (lt_irrefl _)⟩
        · obtain ⟨known, other⟩ := h.remote k o hk
          exact ⟨Nat.lt_succ_of_lt known, other⟩

theorem step (h : d.Lives) (sound : d.Sound) (a : Action) : (d.step a).Lives := by
  obtain retiring | ⟨s, target, -, heq⟩ | ⟨caller, -, plain⟩ | ⟨l, s, createdAt, -, plain⟩ |
    ⟨up, room, rfl⟩ | ⟨s, value, full, old, -, replaces, heq⟩ := sound.step_cases a
  · exact h.retiring retiring
  · rw [heq]
    exact h.postCallerForward s target
  · exact (h.remoteOwner caller).plain plain
  · have attached : (d.attach l s createdAt).Lives :=
      h.begin rfl rfl rfl rfl rfl (attach_items l s createdAt)
    exact attached.plain plain
  · exact h.of rfl (fun _ => .refl _) (fun _ _ => id) fun _ _ _ _ => rfl
  · rw [heq]
    exact h.replacePeer sound full replaces

end Lives

/-! ## Whole runs -/

theorem newDirectory_vacant (host : String) (u : Unicode) (rows : List Row) (p : Ptr) :
    ((newDirectory host u rows).items p).lifetime = none ∧
    ((newDirectory host u rows).items p).attachment = none ∧
      (newDirectory host u rows).remoteOwners = fun _ => none := by
  rw [newDirectory_eq]
  have all :
      ∀ d : Directory, ((d.items p).lifetime = none ∧ (d.items p).attachment = none ∧
        d.remoteOwners = fun _ => none) →
      ((rows.foldl addRow d).items p).lifetime = none ∧
      ((rows.foldl addRow d).items p).attachment = none ∧
        (rows.foldl addRow d).remoteOwners = fun _ => none := by
    induction rows with
    | nil => exact fun _ => id
    | cons row rows ih =>
      rintro d ⟨lifetime, attachment, remote⟩
      refine ih (d.addRow row) ?_
      rw [addRow_items, Function.update_apply]
      split
      · exact ⟨rfl, rfl, remote⟩
      · exact ⟨lifetime, attachment, remote⟩
  exact all _ ⟨rfl, rfl, rfl⟩

theorem Tended.newDirectory (host : String) (u : Unicode) (rows : List Row) :
    (newDirectory host u rows).Tended := by
  intro p s o orphan
  have attached := orphan.attached
  rw [(newDirectory_vacant host u rows p).2.1] at attached
  cases attached

theorem Lives.newDirectory (host : String) (u : Unicode) (rows : List Row) :
    (newDirectory host u rows).Lives := by
  have vacant := newDirectory_vacant host u rows
  refine ⟨fun p o hp => ?_, fun p q o hp _ => ?_, fun p hp => ?_, fun k o hk => ?_⟩
  · exact absurd ((vacant p).1.symm.trans hp) (by simp)
  · exact absurd ((vacant p).1.symm.trans hp) (by simp)
  · exact absurd (vacant p).2.1 hp
  · rw [(vacant 0).2.2] at hk
    cases hk

/-- The owner of a peer's lanes goes on when another session takes its ID. -/
theorem Lives.superseded (h : d.Lives) (sound : d.Sound) {value : PeerHello} {found o : Ptr}
    (entry : d.entries (qualify value.sessionID d.host) = some found)
    (peer : (d.items found).peer = true) (lifetime : (d.items found).lifetime = some o) (s : Ptr)
    (full : List Ptr) :
    ∃ p, (d.step (.hello s value full)).entries (qualify value.sessionID d.host) = some p ∧
      ((d.step (.hello s value full)).items p).lifetime = some o ∧
      ((d.step (.hello s value full)).owners o).ended = false := by
  have after : (d.step (.hello s value full)).Lives := h.step sound _
  have held : ∀ {p}, ((d.step (.hello s value full)).items p).attachment ≠ none →
      ((d.step (.hello s value full)).items p).lifetime = some o →
      ((d.step (.hello s value full)).owners o).ended = false := by
    intro p attached own
    obtain ⟨o', own', unended⟩ := after.attached p attached
    rw [own] at own'
    cases own'
    exact unended
  have kept := sound.holds.peers _ found entry peer
  simp only [Directory.step] at held ⊢
  obtain heq | ⟨old, -, attached, id, heq⟩ | ⟨old, replaces, heq⟩ :=
    helloStep_cases sound full s value
  · rw [heq] at held ⊢
    exact ⟨found, entry, lifetime, held kept lifetime⟩
  · -- the session's own entry is the one under its ID
    have same : old = found := by
      have listed := (sound.holds.attached old s attached).1
      rw [id, entry] at listed
      exact (Option.some.inj listed).symm
    subst same
    rw [heq] at held ⊢
    have own :
        ((d.setItem old
          ((d.items old).setRow { (d.items old).row with name := qualify value.name d.host })).items
        old).lifetime = some o := by
      rw [setItem_items, Function.update_self]
      exact lifetime
    refine ⟨old, entry, own, held ?_ own⟩
    rw [setItem_items, Function.update_self]
    exact kept
  · rw [heq] at held ⊢
    obtain ⟨p, listed, own, attached⟩ := replaces.succeeds sound entry full
    exact ⟨p, listed, own.trans lifetime, held (by simp [attached]) (own.trans lifetime)⟩

theorem takeID_ended {o : Ptr} (known : o < d.nextOwner) (ended : (d.owners o).ended = true)
    (full : List Ptr) (host : String) (s : Ptr) (hello : PeerHello) :
    ((d.takeID full host s hello).owners o).ended = true := by
  cases entry : d.entries (qualify hello.sessionID host) with
  | some found =>
    rw [takeID_found entry]
    exact ended
  | none =>
    unfold Directory.takeID
    simp only [entry]
    show (Function.update d.owners d.nextOwner _ o).ended = true
    rw [Function.update_of_ne (Nat.ne_of_lt known)]
    exact ended

/-- A peer that comes back under another ID leaves the owner of its lanes ended. -/
theorem Lives.replaced (h : d.Lives) (sound : d.Sound) {s old : Ptr} {value : PeerHello}
    {full : List Ptr} (identity : (d.sessions s).identity = some old)
    (attached : (d.items old).attachment = some s)
    (changed : ((d.step (.hello s value full)).sessions s).identity ≠ some old) :
    ∃ o, (d.items old).lifetime = some o ∧
    ((d.step (.hello s value full)).owners o).ended = true := by
  obtain ⟨o, lifetime, -⟩ := h.attached old (by simp [attached])
  refine ⟨o, lifetime, ?_⟩
  simp only [Directory.step] at changed ⊢
  obtain heq | ⟨_, -, -, -, heq⟩ | ⟨old', replaces, heq⟩ := helloStep_cases sound full s value
  · rw [heq] at changed
    exact absurd identity changed
  · rw [heq] at changed
    exact absurd identity changed
  · obtain rfl : old' = some old := replaces.identity.symm.trans identity
    rw [heq]
    have ended : ((d.setEntry (d.items old).row.sessionID none).endEntry full old).Lives :=
      (h.plain (.setEntry d _ none)).endEntry full old
    have kept : ((d.setEntry (d.items old).row.sessionID none).endEntry full old).items old =
        (d.items old).ended := by
      rw [endEntry_items, Function.update_self]
      rfl
    refine takeID_ended (ended.known old o ?_) (endEntry_ended full lifetime) full _ s value
    rw [kept]
    exact lifetime

theorem Lives.lost (h : d.Lives) (sound : d.Sound) {s p : Ptr}
    (identity : (d.sessions s).identity = some p) (attached : (d.items p).attachment = some s)
    (handles : (d.sessions s).handles = true) (full : List Ptr) :
    ∃ o, (d.items p).lifetime = some o ∧ ((d.step (.disconnect s full)).owners o).ended = true := by
  obtain ⟨o, lifetime, -⟩ := h.attached p (by simp [attached])
  refine ⟨o, lifetime, ?_⟩
  have connected := (sound.holds.attached p s attached).2.2.2.1
  have step : (d.step (.disconnect s full)).owners = (d.endEntry full p).owners := by
    simp only [Directory.step, Directory.disconnectStep, handles, connected, identity,
      Directory.detach, attached, Bool.not_false, Bool.and_self, if_true]
    unfold Directory.leave
    split <;> rfl
  rw [step]
  exact endEntry_ended full lifetime

theorem displaced_lost {s p : Ptr} (identity : (d.sessions s).identity = some p)
    (displaced : (d.items p).attachment ≠ some s) (full : List Ptr) :
    (d.step (.disconnect s full)).owners = d.owners := by
  simp only [Directory.step, Directory.disconnectStep]
  split
  · simp only [identity, Directory.detach, if_neg displaced]
    rfl
  · rfl

theorem spawned_parent {s : Ptr} {input : LaneSpawnRequest}
    (spawned : (d.step (.spawn s input)).nextItem ≠ d.nextItem) :
    ((d.step (.spawn s input)).items d.nextItem).parent = d.callerOwner s := by
  have does := d.does (.spawn s input)
  generalize d.step (.spawn s input) = d' at does spawned ⊢
  cases does with
  | spawn _ _ owner _ _ here =>
    obtain ⟨-, row, launch, entries, names, -, -, -, -, rfl⟩ := spawnHere_cases here
    rw [owner]
    simp
  | routine routine =>
    cases routine with
    | forward s' => exact absurd (Told.postCallerForward s' _).nextItem spawned
    | remoteOwner remote => cases remote
    | _ => exact absurd rfl spawned

/-- Owners and their lanes between two steps, and what the next hello or lost connection of a peer
does to its owner. -/
structure OwnsLanes (d : Directory) : Prop where
  spawned : ∀ s input, (d.step (.spawn s input)).nextItem ≠ d.nextItem →
    ((d.step (.spawn s input)).items d.nextItem).parent = d.callerOwner s
  orphans : ∀ p s o, d.Orphan p s o → (d.sessions s).Pressed o
  superseded : ∀ s value full found o, d.entries (qualify value.sessionID d.host) = some found →
    (d.items found).peer = true → (d.items found).lifetime = some o →
    ∃ p, (d.step (.hello s value full)).entries (qualify value.sessionID d.host) = some p ∧
      ((d.step (.hello s value full)).items p).lifetime = some o ∧
      ((d.step (.hello s value full)).owners o).ended = false
  displaced : ∀ s p full, (d.sessions s).identity = some p → (d.items p).attachment ≠ some s →
    (d.step (.disconnect s full)).owners = d.owners
  replaced : ∀ s value full old, (d.sessions s).identity = some old →
    (d.items old).attachment = some s →
    ((d.step (.hello s value full)).sessions s).identity ≠ some old →
    ∃ o, (d.items old).lifetime = some o ∧ ((d.step (.hello s value full)).owners o).ended = true
  lost : ∀ s p full, (d.sessions s).identity = some p → (d.items p).attachment = some s →
    (d.sessions s).handles = true → ∃ o, (d.items p).lifetime = some o ∧
    ((d.step (.disconnect s full)).owners o).ended = true

/-- The lanes of an ended owner close or are closing, and a peer's owner ends exactly with the peer.
-/
theorem owners_tend_lanes (host : String) (u : Unicode) (rows : List Row) (actions : List Action) :
    ((newDirectory host u rows).run actions).OwnsLanes := by
  have all : ∀ (actions : List Action) (d : Directory), d.Sound → d.Tended → d.Lives →
      (d.run actions).Sound ∧ (d.run actions).Tended ∧ (d.run actions).Lives := by
    intro actions
    induction actions with
    | nil => exact fun d sound tended lives => ⟨sound, tended, lives⟩
    | cons a actions ih =>
      exact fun d sound tended lives =>
        ih (d.step a) (sound.step a) (tended.step sound a) (lives.step sound a)
  obtain ⟨sound, tended, lives⟩ := all actions _ (sound_newDirectory host u rows)
    (Tended.newDirectory host u rows) (Lives.newDirectory host u rows)
  exact {
    spawned := fun s input => spawned_parent
    orphans := tended
    superseded := fun s value full found o entry peer lifetime =>
      lives.superseded sound entry peer lifetime s full
    displaced := fun s p full identity displaced => displaced_lost identity displaced full
    replaced := fun s value full old identity attached changed =>
      lives.replaced sound identity attached changed
    lost := fun s p full identity attached handles => lives.lost sound identity attached
      handles full }

end Directory

end Sessionbus
