import Sessionbus.Directory.Runs

/-!
# How owners end

A step that makes no owner consists of changes that leave all owners as they are, of ends of
entries, and of ends of owners of other hosts.
-/

namespace Sessionbus

/-! ## Changes that leave the owners alone -/

namespace Party

/-- The session will take the event that an owner ended, or it is closing already. -/
def Pressed (p : Party) (o : Ptr) : Prop :=
  o ∈ p.inbox ∨ p.wireClosed = true ∨ p.closing = true ∨ p.stopping = true

def Presses (p p' : Party) : Prop := ∀ o, p.Pressed o → p'.Pressed o

theorem Presses.refl (p : Party) : p.Presses p := fun _ => id

theorem Presses.of {p p' : Party} (inbox : p'.inbox = p.inbox)
    (wire : p.wireClosed = true → p'.wireClosed = true)
    (closing : p.closing = true → p'.closing = true)
    (stopping : p.stopping = true → p'.stopping = true) : p.Presses p' := by
  rintro o (queued | closed | close | stopped)
  · exact .inl (inbox ▸ queued)
  · exact .inr (.inl (wire closed))
  · exact .inr (.inr (.inl (closing close)))
  · exact .inr (.inr (.inr (stopping stopped)))

theorem presses_stopping {p p' : Party} (stopping : p'.stopping = true) : p.Presses p' :=
  fun _ _ => .inr (.inr (.inr stopping))

theorem presses_opening (p : Party) (opening : Opening) : p.Presses (p.setOpening opening) :=
  .of rfl id id id

theorem presses_lost (p : Party) : p.Presses p.lost := by
  unfold Party.lost
  simp only
  split
  · exact presses_stopping rfl
  · exact .of rfl (fun _ => rfl) id id

theorem presses_timedOut (p : Party) : p.Presses p.timedOut := by
  unfold Party.timedOut
  split
  · exact presses_stopping rfl
  · exact .refl p

theorem presses_startLane (p : Party) (l : Ptr) (launch : Launch) (row : Row)
    (hello : HelloDescription) (sent : Bool) : p.Presses (p.startLane l launch row hello sent) := by
  unfold Party.startLane
  extract_lets p₁ field
  split
  · exact presses_stopping rfl
  · split
    · exact .of rfl id id id
    · exact presses_stopping rfl

theorem pressed_policyClose {p : Party} (committed : p.committed = true) (o : Ptr) :
    p.policyClose.Pressed o := by
  unfold Party.policyClose
  split
  next idle =>
    simp only [committed, Bool.not_true, Bool.or_false, Bool.or_eq_true] at idle
    exact .inr (.inr idle.symm)
  · exact .inr (.inr (.inl rfl))

theorem presses_policyClose (p : Party) : p.Presses p.policyClose := by
  unfold Party.policyClose
  split
  · exact .refl p
  · exact .of rfl id (fun _ => rfl) id

end Party

/-- An entry loses its lifetime or its attachment, and nothing else that its owner's end is about.
-/
structure Item.Fades (item item' : Item) : Prop where
  lifetime : ∀ o, item'.lifetime = some o → item.lifetime = some o
  attached : ∀ s, item'.attachment = some s → item.attachment = some s ∧
    item'.lifetime = item.lifetime ∧ item'.peer = item.peer ∧ item'.parent = item.parent ∧
    item'.row.policy = item.row.policy

theorem Item.Fades.refl (item : Item) : item.Fades item :=
  ⟨fun _ => id, fun _ h => ⟨h, rfl, rfl, rfl, rfl⟩⟩

theorem Item.Fades.trans {item item' item'' : Item} (h : item.Fades item')
    (h' : item'.Fades item'') : item.Fades item'' where
  lifetime o ho := h.lifetime o (h'.lifetime o ho)
  attached s hs := by
    obtain ⟨attached', lifetime', peer', parent', policy'⟩ := h'.attached s hs
    obtain ⟨attached, lifetime, peer, parent, policy⟩ := h.attached s attached'
    exact ⟨attached, lifetime'.trans lifetime, peer'.trans peer, parent'.trans parent,
      policy'.trans policy⟩

theorem Item.Fades.vacant {item item' : Item} (lifetime : item'.lifetime = none)
    (attachment : item'.attachment = none) : item.Fades item' := by
  refine ⟨fun o ho => ?_, fun s hs => ?_⟩
  · rw [lifetime] at ho
    cases ho
  · rw [attachment] at hs
    cases hs

theorem Item.Fades.detached {item item' : Item} (lifetime : item'.lifetime = item.lifetime)
    (attachment : item'.attachment = none) : item.Fades item' := by
  refine ⟨fun o ho => lifetime ▸ ho, fun s hs => ?_⟩
  rw [attachment] at hs
  cases hs

theorem Item.Fades.of {item item' : Item} (lifetime : item'.lifetime = item.lifetime)
    (attachment : item'.attachment = item.attachment) (peer : item'.peer = item.peer)
    (parent : item'.parent = item.parent) (policy : item'.row.policy = item.row.policy) :
    item.Fades item' :=
  ⟨fun _ ho => lifetime ▸ ho, fun _ hs => ⟨attachment ▸ hs, lifetime, peer, parent, policy⟩⟩

theorem fades_update {items : Ptr → Item} {p : Ptr} {v : Item} (h : (items p).Fades v) (q : Ptr) :
    (items q).Fades (Function.update items p v q) := by
  rw [Function.update_apply]
  split
  next same =>
    subst same
    exact h
  · exact .refl _

namespace Directory

/-- A published lane that should not outlive its owner, and the owner has ended. -/
structure Orphan (d : Directory) (p s o : Ptr) : Prop where
  lane : (d.items p).peer = false
  attached : (d.items p).attachment = some s
  nonpersistent : (d.items p).nonpersistent = true
  parent : (d.items p).parent = some o
  ended : (d.owners o).ended = true

/-- No owner is made, told or ended. -/
structure Plain (d d' : Directory) : Prop where
  owners : d'.owners = d.owners
  nextOwner : d'.nextOwner = d.nextOwner
  link : d'.link = d.link
  remoteOwners : d'.remoteOwners = d.remoteOwners
  items : ∀ p, (d.items p).Fades (d'.items p)
  pressed : ∀ p s o, d'.Orphan p s o → (d.sessions s).Pressed o → (d'.sessions s).Pressed o

variable {d d' d'' : Directory}

theorem Orphan.fades {p s o : Ptr} (h : d'.Orphan p s o)
    (owners : (d'.owners o).ended = true → (d.owners o).ended = true)
    (item : (d.items p).Fades (d'.items p)) : d.Orphan p s o := by
  obtain ⟨attached, -, peer, parent, policy⟩ := item.attached s h.attached
  refine ⟨peer ▸ h.lane, attached, ?_, parent ▸ h.parent, owners h.ended⟩
  have persistent := h.nonpersistent
  unfold Item.nonpersistent at persistent ⊢
  rw [policy] at persistent
  exact persistent

namespace Plain

theorem of (owners : d'.owners = d.owners) (nextOwner : d'.nextOwner = d.nextOwner)
    (link : d'.link = d.link) (remoteOwners : d'.remoteOwners = d.remoteOwners)
    (items : ∀ p, (d.items p).Fades (d'.items p))
    (sessions : ∀ s, (d.sessions s).Presses (d'.sessions s)) : Plain d d' :=
  ⟨owners, nextOwner, link, remoteOwners, items, fun _ s o _ => sessions s o⟩

theorem refl (d : Directory) : Plain d d := of rfl rfl rfl rfl (fun _ => .refl _) fun _ => .refl _

theorem trans (h : Plain d d') (h' : Plain d' d'') : Plain d d'' where
  owners := h'.owners.trans h.owners
  nextOwner := h'.nextOwner.trans h.nextOwner
  link := h'.link.trans h.link
  remoteOwners := h'.remoteOwners.trans h.remoteOwners
  items p := (h.items p).trans (h'.items p)
  pressed p s o orphan pressed := by
    have before : d'.Orphan p s o := orphan.fades (by rw [h'.owners]; exact id) (h'.items p)
    exact h'.pressed p s o orphan (h.pressed p s o before pressed)

theorem maps (owners : d'.owners = d.owners) (nextOwner : d'.nextOwner = d.nextOwner)
    (link : d'.link = d.link) (remoteOwners : d'.remoteOwners = d.remoteOwners)
    (items : d'.items = d.items) (sessions : d'.sessions = d.sessions) : Plain d d' :=
  of owners nextOwner link remoteOwners (fun p => by rw [items]; exact .refl _) fun s => by
    rw [sessions]; exact .refl _

theorem setItem {p : Ptr} {v : Item} (fades : (d.items p).Fades v) : Plain d (d.setItem p v) :=
  of rfl rfl rfl rfl (fades_update fades) fun _ => .refl _

theorem setSession {s : Ptr} {v : Party} (presses : (d.sessions s).Presses v) :
    Plain d (d.setSession s v) := by
  refine of rfl rfl rfl rfl (fun _ => .refl _) fun s' => ?_
  rw [setSession_sessions, Function.update_apply]
  split
  next same =>
    subst same
    exact presses
  · exact .refl _

theorem spawnHere {parent : Ptr} {caller : Caller} {input : LaneSpawnRequest}
    (heq : d.spawnHere parent caller input = some d') : Plain d d' := by
  obtain ⟨-, row, launch, entries, names, -, -, -, -, rfl⟩ := spawnHere_cases heq
  exact of rfl rfl rfl rfl (fades_update (.vacant rfl rfl)) fun _ => .refl _

theorem setEntry (d : Directory) (id : String) (p : Option Ptr) : Plain d (d.setEntry id p) :=
  maps rfl rfl rfl rfl rfl rfl

theorem conclude (d : Directory) (l : Ptr) : Plain d (d.setLaunch l (d.launches l).conclude) :=
  maps rfl rfl rfl rfl rfl rfl

theorem reply (d : Directory) (l : Ptr) (answer : Answer) : Plain d (d.reply l answer) :=
  maps rfl rfl rfl rfl rfl rfl

theorem committing (d : Directory) (l s : Ptr) (createdAt : Nat) (answer : Answer) :
    Plain (d.attach l s createdAt)
      (((d.attach l s createdAt).setSession s (d.sessions s).commit).reply l answer) := by
  have committed :
      Plain (d.attach l s createdAt)
        ((d.attach l s createdAt).setSession s (d.sessions s).commit) :=
    setSession (.of rfl id id id)
  exact committed.trans (reply _ l answer)

theorem restore (l : Ptr) : Plain d (d.restore l) := by
  unfold Directory.restore
  simp only
  split <;> split <;> try exact maps rfl rfl rfl rfl rfl rfl
  all_goals split <;> exact maps rfl rfl rfl rfl rfl rfl

theorem offline (p s : Ptr) (forget : Bool) : Plain d (d.offline p s forget) := by
  unfold Directory.offline
  extract_lets item item' d₁
  have set : Plain d d₁ := by
    refine setItem ?_
    simp only [item', item]
    split
    · exact .detached rfl rfl
    · exact .of rfl rfl rfl rfl rfl
  split
  · refine set.trans ?_
    unfold Directory.forgetEntry
    split
    · exact maps rfl rfl rfl rfl rfl rfl
    · exact refl _
  · exact set

/-- A lane that takes the end of its own owner closes. -/
theorem ownerEnd (h : d.Sound) {s o : Ptr} {v : Party} {rest : List Ptr}
    (queue : (d.sessions s).inbox = o :: rest)
    (kept : ({ d.sessions s with inbox := rest } : Party).Presses v)
    (taken : ∀ p, d.Orphan p s o → (d.sessions s).identity = some p →
      (d.sessions s).committed = true → v.Pressed o) :
    Plain d (d.setSession s v) := by
  refine ⟨rfl, rfl, rfl, rfl, fun _ => .refl _, fun p s' o' orphan pressed => ?_⟩
  rw [setSession_sessions, Function.update_apply]
  split
  case isFalse => exact pressed
  next same =>
  subst same
  have before : d.Orphan p s' o' :=
    ⟨orphan.lane, orphan.attached, orphan.nonpersistent, orphan.parent, orphan.ended⟩
  obtain ⟨-, -, identity, -, committed⟩ := h.holds.attached p s' before.attached
  by_cases first : o' = o
  · subst first
    exact taken p before identity (committed before.lane)
  · refine kept o' ?_
    rcases pressed with queued | rest
    · rw [queue] at queued
      exact .inl ((List.mem_cons.mp queued).resolve_left first)
    · exact .inr rest

theorem own (h : d.Sound) {s : Ptr} {f : Party → Party} (own : Own d s f) :
    Plain d (d.setSession s (f (d.sessions s))) := by
  cases own with
  | beginClose forget =>
    refine setSession ?_
    beta_reduce
    split
    · exact .of rfl id (fun _ => rfl) id
    · exact .refl _
  | reject => exact setSession (Party.presses_stopping rfl)
  | hardStop => exact setSession (Party.presses_stopping rfl)
  | spawnTimeout => exact setSession (Party.presses_timedOut _)
  | shutDown => exact setSession (Party.presses_stopping rfl)
  | exited => exact setSession (.of rfl id id id)
  | ownerEnd queue stays =>
    exact ownerEnd h queue (.refl _) fun p orphan identity _ =>
      absurd orphan.parent (stays p identity orphan.nonpersistent orphan.ended)
  | @policyClose o rest queue =>
    refine ownerEnd h queue (Party.presses_policyClose _) fun _ _ _ committed => ?_
    exact Party.pressed_policyClose (p := { d.sessions s with inbox := rest }) committed o

end Plain

/-! ## Ends -/

/-- Every published lane is listed, so that the end of its owner reaches it. -/
def Seated (d : Directory) : Prop :=
  ∀ p, (d.items p).peer = false → (d.items p).attachment ≠ none → d.listed p = true ∧ p < d.nextItem

theorem Sound.seated (h : d.Sound) : d.Seated := by
  intro p _ attached
  obtain ⟨s, attachment⟩ := Option.ne_none_iff_exists'.mp attached
  have entry := (h.holds.attached p s attachment).1
  refine ⟨?_, (h.shape.ids _ p entry).2⟩
  unfold Directory.listed
  rw [beq_iff_eq]
  exact entry

theorem Seated.congr (h : d.Seated) (entries : d'.entries = d.entries)
    (nextItem : d'.nextItem = d.nextItem)
    (items : ∀ p, (d'.items p).attachment ≠ none → (d.items p).attachment ≠ none ∧
      (d'.items p).peer = (d.items p).peer ∧
      (d'.items p).row.sessionID = (d.items p).row.sessionID) : d'.Seated := by
  intro p lane attached
  obtain ⟨before, peer, id⟩ := items p attached
  obtain ⟨listed, old⟩ := h p (peer ▸ lane) before
  unfold Directory.listed at listed ⊢
  rw [entries, nextItem, id]
  exact ⟨listed, old⟩

theorem Seated.setItem (h : d.Seated) {p : Ptr} {v : Item}
    (attachment : v.attachment ≠ none → (d.items p).attachment ≠ none)
    (peer : v.peer = (d.items p).peer) (id : v.row.sessionID = (d.items p).row.sessionID) :
    (d.setItem p v).Seated := by
  refine h.congr rfl rfl fun q attached => ?_
  rw [setItem_items, Function.update_apply] at attached ⊢
  split at attached
  next same =>
    subst same
    rw [if_pos rfl]
    exact ⟨attachment attached, peer, id⟩
  next other =>
    rw [if_neg other]
    exact ⟨attached, rfl, rfl⟩

theorem Seated.told (h : d.Seated) (told : Told d d') : d'.Seated := by
  refine h.congr told.entries told.nextItem fun p attached => ?_
  rw [told.items] at attached ⊢
  exact ⟨attached, rfl, rfl⟩

/-- An owner ends: its destinations are told, and its lanes. -/
structure OwnerEnds (d : Directory) (o : Ptr) (d' : Directory) : Prop where
  owners : d'.owners = Function.update d.owners o { d.owners o with ended := true }
  nextOwner : d'.nextOwner = d.nextOwner
  remoteOwners : d'.remoteOwners = d.remoteOwners
  link : d'.link = d.link ∨ (d.owners o).host = "" ∧ d'.link = (d.owners o).destinations.foldl
    (fun l host => l.post { host, sessionID := (d.owners o).id, lifetime := (d.owners o).token })
    d.link
  told : Told d d'
  reached : d.Seated → ∀ p s, (d.items p).peer = false → (d.items p).attachment = some s →
    (d.items p).nonpersistent = true → (d.items p).parent = some o → (d'.sessions s).Pressed o

theorem notify_frame (full : List Ptr) (o p : Ptr) : (d.notify full o p).owners = d.owners ∧
    (d.notify full o p).nextOwner = d.nextOwner ∧
    (d.notify full o p).remoteOwners = d.remoteOwners ∧ (d.notify full o p).link = d.link := by
  unfold Directory.notify
  split
  · exact ⟨rfl, rfl, rfl, rfl⟩
  · split <;> exact ⟨rfl, rfl, rfl, rfl⟩

theorem notifyAll_frame (full : List Ptr) (o : Ptr) (l : List Ptr) (d : Directory) :
    (l.foldl (notify full o) d).owners = d.owners ∧
    (l.foldl (notify full o) d).nextOwner = d.nextOwner ∧
    (l.foldl (notify full o) d).remoteOwners = d.remoteOwners ∧
    (l.foldl (notify full o) d).link = d.link := by
  induction l generalizing d with
  | nil => exact ⟨rfl, rfl, rfl, rfl⟩
  | cons p l ih =>
    obtain ⟨owners, nextOwner, remoteOwners, link⟩ := ih (d.notify full o p)
    obtain ⟨owners', nextOwner', remoteOwners', link'⟩ := notify_frame (d := d) full o p
    exact ⟨owners.trans owners', nextOwner.trans nextOwner', remoteOwners.trans remoteOwners',
      link.trans link'⟩

theorem notify_reaches {p s : Ptr} (full : List Ptr) (o : Ptr) (listed : d.listed p = true)
    (attached : (d.items p).attachment = some s) (nonpersistent : (d.items p).nonpersistent = true)
    (parent : (d.items p).parent = some o) : ((d.notify full o p).sessions s).Pressed o := by
  unfold Directory.notify
  rw [attached]
  simp only [listed, parent, nonpersistent, BEq.rfl, Bool.and_self, if_true, setSession_sessions,
    Function.update_self]
  split
  · exact .inr (.inl rfl)
  · exact .inl (by simp)

theorem heard_presses {p p' : Party} (h : Heard p p') : p.Presses p' := by
  rintro o (queued | closed | rest)
  · exact .inl (h.inbox o queued)
  · exact .inr (.inl (h.wire closed))
  · rw [h.same]
    exact .inr (.inr rest)

theorem notifyAll_reaches {p s : Ptr} (full : List Ptr) (o : Ptr) {l : List Ptr} (mem : p ∈ l)
    (listed : d.listed p = true) (attached : (d.items p).attachment = some s)
    (nonpersistent : (d.items p).nonpersistent = true) (parent : (d.items p).parent = some o) :
    ((l.foldl (notify full o) d).sessions s).Pressed o := by
  induction l generalizing d with
  | nil => cases mem
  | cons q l ih =>
    have told : Told d (d.notify full o q) := Told.notify full o q
    rcases List.mem_cons.mp mem with rfl | mem
    · have reached := notify_reaches full o listed attached nonpersistent parent
      exact heard_presses ((Told.notifyAll full o l).sessions s) o reached
    · refine ih mem ?_ ?_ ?_ ?_
      · unfold Directory.listed at listed ⊢
        rw [told.entries, told.items]
        exact listed
      all_goals rw [told.items]; assumption

theorem endOwner_cases (full : List Ptr) (owner : Option Ptr) :
    (d.endOwner full owner = d ∧ ∀ o, owner = some o → (d.owners o).ended = true) ∨
    ∃ o, owner = some o ∧ (d.owners o).ended = false ∧ OwnerEnds d o (d.endOwner full owner) := by
  have told : Told d (d.endOwner full owner) := Told.endOwner full owner
  unfold Directory.endOwner at told ⊢
  split
  · exact .inl ⟨rfl, by simp⟩
  next o =>
    split
    next ended =>
      refine .inl ⟨rfl, fun o' same => ?_⟩
      cases same
      exact ended
    next unended =>
      refine .inr ⟨o, rfl, Bool.eq_false_iff.mpr unended, ?_⟩
      simp only [unended] at told
      generalize marked : d.setOwner o { d.owners o with ended := true } = d₁ at told ⊢
      generalize after : (List.range d.nextItem).foldl (notify full o) d₁ = d₂ at told ⊢
      obtain ⟨owners, nextOwner, remoteOwners, link⟩ :=
        notifyAll_frame full o (List.range d.nextItem) d₁
      rw [after] at owners nextOwner remoteOwners link
      subst marked
      have frame : (d₂.forwardOwnerEnd o).owners = d₂.owners ∧
          (d₂.forwardOwnerEnd o).nextOwner = d₂.nextOwner ∧
          (d₂.forwardOwnerEnd o).remoteOwners = d₂.remoteOwners ∧
          (d₂.forwardOwnerEnd o).sessions = d₂.sessions := by
        unfold Directory.forwardOwnerEnd
        split <;> exact ⟨rfl, rfl, rfl, rfl⟩
      refine ⟨frame.1.trans owners, frame.2.1.trans nextOwner,
        frame.2.2.1.trans remoteOwners, ?_, told,
        fun seated p s lane attached nonpersistent parent => ?_⟩
      · unfold Directory.forwardOwnerEnd
        rw [owners, setOwner_owners, Function.update_self]
        split
        · exact .inl link
        next here =>
          simp only [Bool.or_eq_true, decide_eq_true_eq, not_or, not_not] at here
          exact .inr ⟨here.1, by rw [link]; rfl⟩
      · obtain ⟨listed, known⟩ := seated p lane (by simp [attached])
        rw [frame.2.2.2, ← after]
        exact notifyAll_reaches full o (List.mem_range.mpr known) listed attached
          nonpersistent parent

theorem endEntry_items (full : List Ptr) (p : Ptr) :
    (d.endEntry full p).items = Function.update d.items p (d.items p).ended := by
  have told : Told d (d.endOwner full (d.items p).lifetime) := Told.endOwner full _
  show Function.update (d.endOwner full (d.items p).lifetime).items p
    ((d.endOwner full (d.items p).lifetime).items p).ended = _
  rw [told.items]

theorem endEntry_entries (full : List Ptr) (p : Ptr) : (d.endEntry full p).entries = d.entries :=
  (Told.endOwner full (d.items p).lifetime).entries

theorem endEntry_ended (full : List Ptr) {p o : Ptr} (lifetime : (d.items p).lifetime = some o) :
    ((d.endEntry full p).owners o).ended = true := by
  show ((d.endOwner full (d.items p).lifetime).owners o).ended = true
  rw [lifetime]
  obtain ⟨heq, ended⟩ | ⟨o', same, -, ends⟩ := endOwner_cases (d := d) full (some o)
  · rw [heq]
    exact ended o rfl
  · cases same
    rw [ends.owners, Function.update_self]

theorem takeID_found {host : String} {hello : PeerHello} {found : Ptr}
    (entry : d.entries (qualify hello.sessionID host) = some found) (full : List Ptr) (s : Ptr) :
    d.takeID full host s hello =
      (d.setItem found ((d.items found).setLifetime none).ended).seat s
        (qualify hello.sessionID host) (peerItem host s hello (d.items found).lifetime) := by
  unfold Directory.takeID
  simp only [entry]
  unfold Directory.endEntry
  simp only [setItem_items, Function.update_self, Item.setLifetime_lifetime, Directory.endOwner]
  unfold Directory.setItem
  simp only [Function.update_idem]

/-- What a step does that makes no owner. -/
inductive Retiring (d : Directory) : Directory → Prop
  | refl : Retiring d d
  | plain {d₁ d₂ : Directory} (run : Retiring d d₁) (change : Plain d₁ d₂) : Retiring d d₂
  | endEntry {d₁ : Directory} (run : Retiring d d₁) (seated : d₁.Seated)
      (full : List Ptr) (p : Ptr) : Retiring d (d₁.endEntry full p)
  | endRemote {d₁ : Directory} (run : Retiring d d₁) (seated : d₁.Seated) (full : List Ptr)
      (e : LifetimeEvent) (o : Ptr) : Retiring d (d₁.endRemote full e o)

theorem Retiring.of (h : Plain d d') : Retiring d d' := .plain .refl h

namespace Retiring

theorem releaseLaunch (seated : d.Seated) (full : List Ptr) (l : Ptr) :
    Retiring d (d.releaseLaunch full l) := by
  unfold Directory.releaseLaunch
  simp only
  have freed : Plain d (d.setTokens (d.tokens.filter (· != l))) := .maps rfl rfl rfl rfl rfl rfl
  split
  · have unclaimed :=
      freed.trans
      (Plain.setItem (p := (d.launches l).entry) (v := (d.entryOf l).setClaimed false)
        (.of rfl rfl rfl rfl rfl))
    have still : ((d.setTokens (d.tokens.filter (· != l))).setItem (d.launches l).entry
        ((d.entryOf l).setClaimed false)).Seated :=
        (seated.congr rfl rfl fun _ h => ⟨h, rfl, rfl⟩).setItem id rfl rfl
    have ended := (Retiring.of unclaimed).endEntry still full (d.launches l).entry
    exact (ended.plain (Plain.conclude _ l)).plain (Plain.restore l)
  · exact .of freed

theorem remoteEnded (seated : d.Seated) (full : List Ptr) (e : LifetimeEvent) :
    Retiring d (d.remoteEnded full e) := by
  -- the sessions hear of each end before the next one
  have all : ∀ (l : List Ptr) (d₁ : Directory), Retiring d d₁ → d₁.Seated →
      Retiring d (l.foldl (Directory.endRemote full e) d₁) := by
    intro l
    induction l with
    | nil => exact fun _ run _ => run
    | cons o l ih =>
      exact fun d₁ run seated =>
        ih _ (run.endRemote seated full e o) (seated.told (Told.endRemote full e o))
  exact all _ d .refl seated

theorem finish (seated : d.Seated) (full : List Ptr) (s : Ptr) (deleted : Bool) :
    Retiring d (d.finish full s deleted) := by
  unfold Directory.finish
  extract_lets p d₁
  suffices Retiring d d₁ from this.plain (Plain.setSession (.of rfl id id id))
  simp only [d₁]
  split
  next l item _ _ =>
    cases p.committed with
    | false =>
      have released : Retiring d (d.releaseLaunch full l) := releaseLaunch seated full l
      cases p.launchResult with
      | none => exact released
      | some answer => exact released.plain (Plain.reply _ l answer)
    | true =>
      cases p.launchResult with
      | none => exact .of (Plain.offline item s _)
      | some answer => exact .of ((Plain.reply d l answer).trans (Plain.offline item s _))
  · exact .refl

theorem detach (seated : d.Seated) (full : List Ptr) (p s : Ptr) :
    Retiring d (((d.endEntry full p).leave p).setSession s
      (((d.endEntry full p).leave p).sessions s).lost) := by
  refine Retiring.plain ?_ (Plain.setSession (Party.presses_lost _))
  have ended := Retiring.refl.endEntry seated full p
  unfold Directory.leave
  split
  · exact ended.plain (.maps rfl rfl rfl rfl rfl rfl)
  · exact ended.plain (Plain.setItem (.of rfl rfl rfl rfl rfl))

theorem finishOfflineClose (p : Ptr) (forget deleted : Bool) :
    Retiring d (d.finishOfflineClose p forget deleted) := by
  have freed :
      ∀ q, (d.items q).Fades (Function.update d.items p ((d.items p).setClaimed false) q) :=
    fades_update (.of rfl rfl rfl rfl rfl)
  unfold Directory.finishOfflineClose
  simp only
  split
  · split
    · split <;> exact .of (.of rfl rfl rfl rfl freed fun _ => .refl _)
    · exact .of (.of rfl rfl rfl rfl freed fun _ => .refl _)
  · exact .of (Plain.maps rfl rfl rfl rfl rfl rfl)

end Retiring

/-! ## Hellos -/

/-- The session's hello makes a new entry, in the place of its former one and of another peer's. -/
structure Replaces (d : Directory) (s : Ptr) (value : PeerHello) (old : Option Ptr) : Prop where
  valid : validIDPart d.unicode value.sessionID = true
  identity : (d.sessions s).identity = old
  former : ∀ o, old = some o → (d.items o).peer = true ∧ (d.items o).attachment = some s ∧
    (d.items o).row.sessionID ≠ qualify value.sessionID d.host
  peers : ∀ p, d.entries (qualify value.sessionID d.host) = some p → (d.items p).peer = true

theorem Sound.installs (h : d.Sound) {full : List Ptr} {s : Ptr} {value : PeerHello}
    (vacant : (d.sessions s).launch = none) (valid : validIDPart d.unicode value.sessionID = true)
    (installed : d.installPeer full s value = some d') :
    (∃ old, (d.sessions s).identity = some old ∧ (d.items old).attachment = some s ∧
      (d.items old).row.sessionID = qualify value.sessionID d.host ∧
      d' = d.setItem old
        ((d.items old).setRow { (d.items old).row with name := qualify value.name d.host })) ∨
    ∃ old, d.Replaces s value old ∧ d' = d.replacePeer full s value old := by
  obtain same | ⟨old, identity, attached, peers, rfl⟩ := installPeer_cases installed
  · exact .inl same
  · refine .inr ⟨old, ⟨valid, identity, fun o same => ?_, peers⟩, rfl⟩
    exact ⟨(h.seats.peer s o vacant (identity.trans same)).1, attached o same⟩

theorem helloStep_cases (h : d.Sound) (full : List Ptr) (s : Ptr) (value : PeerHello) :
    d.helloStep full s value = d ∨
    (∃ old, (d.sessions s).identity = some old ∧ (d.items old).attachment = some s ∧
      (d.items old).row.sessionID = qualify value.sessionID d.host ∧
      d.helloStep full s value = d.setItem old
        ((d.items old).setRow { (d.items old).row with name := qualify value.name d.host })) ∨
    ∃ old, d.Replaces s value old ∧ d.helloStep full s value = d.replacePeer full s value old := by
  unfold Directory.helloStep
  split
  next valid =>
    simp only [Bool.and_eq_true, Option.isNone_iff_eq_none] at valid
    cases installed : d.installPeer full s value with
    | none => exact .inl rfl
    | some d' => exact .inr (h.installs valid.1.1.1.2 valid.1.1.2 installed)
  · exact .inl rfl

theorem Sound.unlist_seated (h : d.Sound) {o s : Ptr} (peer : (d.items o).peer = true)
    (attached : (d.items o).attachment = some s) :
    (d.setEntry (d.items o).row.sessionID none).Seated := by
  intro p lane seated
  obtain ⟨listed, known⟩ := h.seated p lane seated
  refine ⟨?_, known⟩
  unfold Directory.listed at listed ⊢
  rw [beq_iff_eq] at listed ⊢
  have other : (d.items p).row.sessionID ≠ (d.items o).row.sessionID := by
    intro same
    have entry := (h.holds.attached o s attached).1
    rw [← same, listed, Option.some.injEq] at entry
    subst entry
    exact absurd (peer.symm.trans lane) (by decide)
  show Function.update d.entries (d.items o).row.sessionID none (d.items p).row.sessionID = some p
  rw [Function.update_of_ne other]
  exact listed

/-! ## Steps -/

/-- A step ends owners, forwards a request for one, or makes one: for a caller of another host, a
published lane or a peer. -/
theorem Sound.step_cases (h : d.Sound) (a : Action) :
    Retiring d (d.step a) ∨
    (∃ s target, d.forwardTarget a = some target ∧ d.step a = d.postCallerForward s target) ∨
    (∃ caller, a.remoteCaller = some caller ∧ Plain (d.remoteOwner caller).1 (d.step a)) ∨
    (∃ l s createdAt, d.publishes l = true ∧ Plain (d.attach l s createdAt) (d.step a)) ∨
    (∃ up room, a = .link up room) ∨
    ∃ s value full old, a = .hello s value full ∧ d.Replaces s value old ∧
    d.step a = d.replacePeer full s value old := by
  have does := d.does a
  generalize d.step a = d' at does ⊢
  cases does with
  | routine routine =>
    cases routine with
    | idle => exact .inl .refl
    | own own => exact .inl (.of (.own h own))
    | forward s forwarded => exact .inr (.inl ⟨s, _, forwarded, rfl⟩)
    | remoteOwner remote => exact .inr (.inr (.inl ⟨_, remote, .refl _⟩))
    | openFailed => exact .inl (.of (.setSession (Party.presses_stopping rfl)))
  | hello s value full vacant _ id _ _ installed =>
    obtain ⟨old, -, -, -, rfl⟩ | ⟨old, replaces, rfl⟩ := h.installs vacant id installed
    · exact .inl (.of (.setItem (.of rfl rfl rfl rfl rfl)))
    · exact .inr (.inr (.inr (.inr (.inr ⟨s, value, full, old, rfl, replaces, rfl⟩))))
  | spawn s input _ _ _ spawned => exact .inl (.of (.spawnHere spawned))
  | remoteSpawn caller input _ spawned => exact .inr (.inr (.inl ⟨caller, rfl, .spawnHere spawned⟩))
  | remoteEnded event full => exact .inl (.remoteEnded h.seated full event)
  | describe =>
    exact .inl (.of (.of rfl rfl rfl rfl (fades_update (.vacant rfl rfl)) fun _ => .refl _))
  | startChild => exact .inl (.of (.maps rfl rfl rfl rfl rfl rfl))
  | revoke => exact .inl (.of (.maps rfl rfl rfl rfl rfl rfl))
  | release l full =>
    exact .inl ((Retiring.releaseLaunch h.seated full l).plain (.maps rfl rfl rfl rfl rfl rfl))
  | claim s l =>
    have taken :
        Plain d ((d.setLaunch l ((d.launches l).claim s)).setTokens (d.tokens.filter (· != l))) :=
      .maps rfl rfl rfl rfl rfl rfl
    exact .inl (.of (taken.trans (.setSession (Party.presses_startLane _ _ _ _ _ _))))
  | openID s l id =>
    have named : Plain d (d.identified l id) := .setItem (.of rfl rfl rfl rfl rfl)
    exact .inl
      (.of ((named.trans (.setEntry _ _ _)).trans (.setSession (Party.presses_opening _ _))))
  | refusedID s l id =>
    have named : Plain d (d.identified l id) := .setItem (.of rfl rfl rfl rfl rfl)
    exact .inl (.of (named.trans (.setSession (Party.presses_stopping rfl))))
  | publish s l _ answer _ _ _ publishes =>
    exact .inr (.inr (.inr (.inl ⟨l, s, _, publishes, .committing d l s _ answer⟩)))
  | execute => exact .inl (.of (.setItem (.of rfl rfl rfl rfl rfl)))
  | finishRun => exact .inl (.of (.setItem (.of rfl rfl rfl rfl rfl)))
  | closeWritten => exact .inl (.of (.setItem (.of rfl rfl rfl rfl rfl)))
  | closeWire => exact .inl (.of (.setSession (.of rfl (fun _ => rfl) id id)))
  | lost => exact .inl (.of (.setSession (Party.presses_lost _)))
  | detach s full p => exact .inl (.detach h.seated full p s)
  | finish s deleted full => exact .inl (.finish h.seated full s deleted)
  | closeOffline =>
    exact .inl (.of (.of rfl rfl rfl rfl (fades_update (.of rfl rfl rfl rfl rfl)) fun _ => .refl _))
  | finishOfflineClose p forget deleted => exact .inl (.finishOfflineClose p forget deleted)
  | link up room => exact .inr (.inr (.inr (.inr (.inl ⟨up, room, rfl⟩))))
  | shutdown => exact .inl (.of (.maps rfl rfl rfl rfl rfl rfl))

end Directory

end Sessionbus
