import Sessionbus.Directory.Cases

/-!
# The representation invariant of the directory

`Shape` is about the IDs, the rows and the launches, `Seats` about the sessions and their
launches, and `Holds` about what changes while an entry is used: who is attached to it and
who has claimed it. `Names` is about the map of names, and holds when all rows that the
daemon was started with have names and creation times.
-/

namespace Sessionbus

namespace Directory

/-- The launch was added and its entry is neither published nor released. -/
def Open (d : Directory) (l : Ptr) : Prop := l < d.nextLaunch ∧ (d.launches l).concluded = false

structure Shape (d : Directory) : Prop where
  ids : ∀ id p, d.entries id = some p → (d.items p).row.sessionID = id ∧ p < d.nextItem
  ownEntry : ∀ l l', l < d.nextLaunch → l' < d.nextLaunch →
    (d.launches l).entry = (d.launches l').entry → l = l'
  laneEntry : ∀ l, l < d.nextLaunch → (d.launches l).entry < d.nextItem ∧ (d.entryOf l).peer = false
  kinds : ∀ l, l < d.nextLaunch → ((d.launches l).describe = true → (d.launches l).fresh = false) ∧
    ((d.launches l).previous ≠ none ↔ (d.launches l).describe = false ∧
      (d.launches l).fresh = false)
  described : ∀ l, d.Open l → (d.launches l).describe = true →
    ∀ id, d.entries id ≠ some (d.launches l).entry
  fresh : ∀ l, d.Open l → (d.launches l).previous = none → (d.entryOf l).row.createdAt = 0
  resumed : ∀ l q, d.Open l → (d.launches l).previous = some q →
    d.entries (d.entryOf l).row.sessionID = some (d.launches l).entry ∧ q < (d.launches l).entry ∧
      (d.items q).peer = false ∧ (d.items q).row.sessionID = (d.entryOf l).row.sessionID

structure Names (d : Directory) : Prop where
  named : ∀ n p, d.names n = some p → (d.items p).row.name = n ∧ (d.items p).peer = false ∧
    p < d.nextItem
  noName : d.names "" = none
  lanes : ∀ id p, d.entries id = some p → (d.items p).peer = false →
    d.names (d.items p).row.name = some p
  created : ∀ id p, d.entries id = some p → (d.items p).peer = false →
    (d.items p).row.createdAt = 0 → ∃ l, d.Open l ∧ (d.launches l).entry = p
  reserved : ∀ l, d.Open l → (d.launches l).describe = false →
    d.names (d.entryOf l).row.name = some (d.launches l).entry
  unnamed : ∀ l, d.Open l → (d.launches l).describe = true → (d.entryOf l).row.name = ""
  renewed : ∀ l q, d.Open l → (d.launches l).previous = some q → (d.entryOf l).row.createdAt ≠ 0 ∧
    (d.items q).row.name = (d.entryOf l).row.name ∧ (d.items q).row.createdAt ≠ 0

structure Seats (d : Directory) : Prop where
  lane : ∀ s l, (d.sessions s).launch = some l → l < d.nextLaunch ∧ (d.launches l).owner = some s ∧
    (d.sessions s).identity = some (d.launches l).entry
  peer : ∀ s p, (d.sessions s).launch = none → (d.sessions s).identity = some p →
    (d.items p).peer = true ∧ p < d.nextItem
  committed : ∀ s, (d.sessions s).committed = true → (d.sessions s).launch ≠ none
  opening : ∀ s, (d.sessions s).opening ≠ .none → (d.sessions s).launch ≠ none ∧
    (d.sessions s).committed = false ∧ (d.sessions s).returned = false
  busy : ∀ s, (d.sessions s).opening = .reserved → (d.sessions s).closed = false
  uncommitted : ∀ s l, (d.sessions s).launch = some l → (d.sessions s).committed = false →
    (d.sessions s).returned = false → (d.launches l).concluded = false
  concluded : ∀ s l, (d.sessions s).launch = some l → (d.sessions s).committed = true →
    (d.launches l).concluded = true
  owned : ∀ l s, l < d.nextLaunch → (d.launches l).owner = some s → (d.sessions s).launch = some l
  unlisted : ∀ l, d.Open l → (d.launches l).fresh = true →
    (∀ s, (d.launches l).owner = some s → (d.sessions s).opening = .waiting) →
    ∀ id, d.entries id ≠ some (d.launches l).entry
  tokened : ∀ l, l ∈ d.tokens → d.Open l ∧ (d.launches l).owner = none ∧
    (d.launches l).revoked = none
  revoked : ∀ l, (d.launches l).revoked ≠ none → d.Open l ∧ (d.launches l).owner = none ∧
    l ∉ d.tokens

structure Holds (d : Directory) : Prop where
  peers : ∀ id p, d.entries id = some p → (d.items p).peer = true → (d.items p).attachment ≠ none
  attached : ∀ p s, (d.items p).attachment = some s →
    d.entries (d.items p).row.sessionID = some p ∧ (d.items p).done = false ∧
    (d.sessions s).identity = some p ∧
      (d.sessions s).closed = false ∧ ((d.items p).peer = false → (d.sessions s).committed = true)
  idle : ∀ p, (d.items p).attachment = none → (d.items p).running = false
  live : ∀ s p, (d.sessions s).committed = true → (d.sessions s).closed = false →
    (d.sessions s).identity = some p → (d.items p).attachment = some s
  claimed : ∀ l, d.Open l → (d.entryOf l).claimed = true ∧ (d.entryOf l).attachment = none ∧
    (d.entryOf l).done = false
  kept : ∀ l q, d.Open l → (d.launches l).previous = some q → (d.items q).claimed = false ∧
    (d.items q).attachment = none
  closers : ∀ p, p ∈ d.offlineClosing → p < d.nextItem ∧ ∀ l, d.Open l → (d.launches l).entry ≠ p

structure Sound (d : Directory) : Prop where
  shape : d.Shape
  seats : d.Seats
  holds : d.Holds

attribute [local grind =] Function.update_apply

variable {d : Directory}

/-! ## Updates that the invariant does not see -/

/-- What the invariant reads of a session. -/
def Keeps (p p' : Party) : Prop :=
  p'.identity = p.identity ∧ p'.launch = p.launch ∧ p'.opening = p.opening ∧
    p'.committed = p.committed ∧ p'.closed = p.closed ∧ p'.returned = p.returned

/-- Only owners, queued events and flags of sessions that the invariant does not read. -/
structure Calm (d d' : Directory) : Prop where
  entries : d'.entries = d.entries
  names : d'.names = d.names
  items : d'.items = d.items
  launches : d'.launches = d.launches
  tokens : d'.tokens = d.tokens
  nextItem : d'.nextItem = d.nextItem
  nextLaunch : d'.nextLaunch = d.nextLaunch
  offlineClosing : d'.offlineClosing = d.offlineClosing
  sessions : ∀ s, Keeps (d.sessions s) (d'.sessions s)

theorem Shape.congr {d' : Directory} (h : d.Shape) (entries : d'.entries = d.entries)
    (rows : ∀ p, (d'.items p).row = (d.items p).row ∧ (d'.items p).peer = (d.items p).peer)
    (launches : d'.launches = d.launches) (nextItem : d'.nextItem = d.nextItem)
    (nextLaunch : d'.nextLaunch = d.nextLaunch) : d'.Shape := by
  constructor
  case ids => simpa only [entries, rows, nextItem] using h.ids
  case ownEntry => simpa only [launches, nextLaunch] using h.ownEntry
  case laneEntry => simpa only [launches, nextLaunch, nextItem, rows] using h.laneEntry
  case kinds => simpa only [launches, nextLaunch] using h.kinds
  case described => simpa only [Open, launches, nextLaunch, entries] using h.described
  case fresh => simpa only [Open, launches, nextLaunch, rows] using h.fresh
  case resumed => simpa only [Open, launches, nextLaunch, entries, rows] using h.resumed

theorem Names.congr {d' : Directory} (h : d.Names) (entries : d'.entries = d.entries)
    (names : d'.names = d.names)
    (rows : ∀ p, (d'.items p).row = (d.items p).row ∧ (d'.items p).peer = (d.items p).peer)
    (launches : d'.launches = d.launches) (nextItem : d'.nextItem = d.nextItem)
    (nextLaunch : d'.nextLaunch = d.nextLaunch) : d'.Names := by
  constructor
  case named => simpa only [names, rows, nextItem] using h.named
  case noName => rw [names]; exact h.noName
  case lanes => simpa only [entries, names, rows] using h.lanes
  case created => simpa only [entries, rows, Open, launches, nextLaunch] using h.created
  case reserved => simpa only [Open, launches, nextLaunch, names, rows] using h.reserved
  case unnamed => simpa only [Open, launches, nextLaunch, rows] using h.unnamed
  case renewed => simpa only [Open, launches, nextLaunch, rows] using h.renewed

theorem Seats.congr {d' : Directory} (h : d.Seats) (entries : d'.entries = d.entries)
    (peers : ∀ p, (d'.items p).peer = (d.items p).peer) (launches : d'.launches = d.launches)
    (tokens : d'.tokens = d.tokens) (nextItem : d'.nextItem = d.nextItem)
    (nextLaunch : d'.nextLaunch = d.nextLaunch)
    (sessions : ∀ s, Keeps (d.sessions s) (d'.sessions s)) : d'.Seats := by
  have identity s := (sessions s).1
  have launch s := (sessions s).2.1
  have opening s := (sessions s).2.2.1
  have committed s := (sessions s).2.2.2.1
  have closed s := (sessions s).2.2.2.2.1
  have returned s := (sessions s).2.2.2.2.2
  constructor
  case lane => simpa only [launch, nextLaunch, launches, identity] using h.lane
  case peer => simpa only [launch, identity, peers, nextItem] using h.peer
  case committed => simpa only [committed, launch] using h.committed
  case opening => simpa only [opening, launch, committed, returned] using h.opening
  case busy => simpa only [opening, closed] using h.busy
  case uncommitted => simpa only [launch, committed, returned, launches] using h.uncommitted
  case concluded => simpa only [launch, committed, launches] using h.concluded
  case owned => simpa only [nextLaunch, launches, launch] using h.owned
  case unlisted => simpa only [Open, nextLaunch, launches, opening, entries] using h.unlisted
  case tokened => simpa only [tokens, Open, nextLaunch, launches] using h.tokened
  case revoked => simpa only [tokens, Open, nextLaunch, launches] using h.revoked

theorem Sound.calm {d' : Directory} (h : d.Sound) (c : Calm d d') : d'.Sound := by
  have identity s := (c.sessions s).1
  have committed s := (c.sessions s).2.2.2.1
  have closed s := (c.sessions s).2.2.2.2.1
  refine ⟨h.shape.congr c.entries (fun p => by rw [c.items]; exact ⟨rfl, rfl⟩) c.launches c.nextItem
    c.nextLaunch, h.seats.congr c.entries (fun p => by rw [c.items]) c.launches c.tokens c.nextItem
    c.nextLaunch c.sessions, ?_⟩
  constructor
  case peers => simpa only [c.entries, c.items] using h.holds.peers
  case attached =>
    simpa only [c.entries, c.items, identity, closed, committed] using h.holds.attached
  case idle => simpa only [c.items] using h.holds.idle
  case live => simpa only [committed, closed, identity, c.items] using h.holds.live
  case claimed =>
    simpa only [entryOf, Open, c.nextLaunch, c.launches, c.items] using h.holds.claimed
  case kept => simpa only [Open, c.nextLaunch, c.launches, c.items] using h.holds.kept
  case closers =>
    simpa only [c.offlineClosing, c.nextItem, Open, c.nextLaunch, c.launches] using h.holds.closers

theorem Names.calm {d' : Directory} (h : d.Names) (c : Calm d d') : d'.Names :=
  h.congr c.entries c.names (fun p => by rw [c.items]; exact ⟨rfl, rfl⟩) c.launches c.nextItem
    c.nextLaunch

namespace Calm

theorem refl (d : Directory) : Calm d d :=
  ⟨rfl, rfl, rfl, rfl, rfl, rfl, rfl, rfl, fun _ => ⟨rfl, rfl, rfl, rfl, rfl, rfl⟩⟩

theorem session {s : Ptr} {v : Party} (h : Keeps (d.sessions s) v) : Calm d (d.setSession s v) := by
  refine { refl d with sessions := fun s' => ?_ }
  by_cases heq : s' = s
  · subst heq
    simpa using h
  · simpa [Function.update_of_ne heq] using (refl d).sessions s'

end Calm

/-! ## Owners that end -/

/-- The end of an owner reaches a session: an event, or a closed wire. -/
structure Heard (p p' : Party) : Prop where
  same : p' = { p with inbox := p'.inbox, wireClosed := p'.wireClosed }
  inbox : ∀ o ∈ p.inbox, o ∈ p'.inbox
  wire : p.wireClosed = true → p'.wireClosed = true

theorem Heard.refl (p : Party) : Heard p p := ⟨rfl, fun _ => id, id⟩

theorem Heard.trans {p p' p'' : Party} (h : Heard p p') (h' : Heard p' p'') : Heard p p'' := by
  refine ⟨?_, fun o ho => h'.inbox o (h.inbox o ho), fun hw => h'.wire (h.wire hw)⟩
  rw [h'.same, h.same]

theorem Heard.keeps {p p' : Party} (h : Heard p p') : Keeps p p' := by
  rw [h.same]
  exact ⟨rfl, rfl, rfl, rfl, rfl, rfl⟩

/-- Only owners and what the sessions hear of them. -/
structure Told (d d' : Directory) : Prop where
  host : d'.host = d.host
  unicode : d'.unicode = d.unicode
  closing : d'.closing = d.closing
  entries : d'.entries = d.entries
  names : d'.names = d.names
  items : d'.items = d.items
  launches : d'.launches = d.launches
  tokens : d'.tokens = d.tokens
  nextItem : d'.nextItem = d.nextItem
  nextLaunch : d'.nextLaunch = d.nextLaunch
  offlineClosing : d'.offlineClosing = d.offlineClosing
  linked : d'.linked = d.linked
  sessions : ∀ s, Heard (d.sessions s) (d'.sessions s)

namespace Told

theorem refl (d : Directory) : Told d d :=
  ⟨rfl, rfl, rfl, rfl, rfl, rfl, rfl, rfl, rfl, rfl, rfl, rfl, fun _ => Heard.refl _⟩

theorem trans {d' d'' : Directory} (h : Told d d') (h' : Told d' d'') : Told d d'' where
  host := h'.host.trans h.host
  unicode := h'.unicode.trans h.unicode
  closing := h'.closing.trans h.closing
  entries := h'.entries.trans h.entries
  names := h'.names.trans h.names
  items := h'.items.trans h.items
  launches := h'.launches.trans h.launches
  tokens := h'.tokens.trans h.tokens
  nextItem := h'.nextItem.trans h.nextItem
  nextLaunch := h'.nextLaunch.trans h.nextLaunch
  offlineClosing := h'.offlineClosing.trans h.offlineClosing
  linked := h'.linked.trans h.linked
  sessions s := (h.sessions s).trans (h'.sessions s)

theorem calm {d' : Directory} (h : Told d d') : Calm d d' :=
  ⟨h.entries, h.names, h.items, h.launches, h.tokens, h.nextItem, h.nextLaunch,
    h.offlineClosing, fun s =>
    (h.sessions s).keeps⟩

theorem session {s : Ptr} {v : Party} (h : Heard (d.sessions s) v) : Told d (d.setSession s v) := by
  refine { refl d with sessions := fun s' => ?_ }
  by_cases heq : s' = s
  · subst heq
    simpa using h
  · simpa [Function.update_of_ne heq] using Heard.refl (d.sessions s')

theorem setOwner (o : Ptr) (owner : Ownership) : Told d (d.setOwner o owner) := { refl d with }

theorem notify (full : List Ptr) (o p : Ptr) : Told d (d.notify full o p) := by
  unfold Directory.notify
  split
  · exact refl d
  · split
    · apply session
      split
      · exact ⟨rfl, fun _ => id, fun _ => rfl⟩
      · exact ⟨rfl, fun _ => List.mem_append_left _, id⟩
    · exact refl d

theorem notifyAll (full : List Ptr) (o : Ptr) (l : List Ptr) :
    Told d (l.foldl (Directory.notify full o) d) := by
  induction l generalizing d with
  | nil => exact refl d
  | cons p l ih => exact (notify full o p).trans ih

theorem forwardOwnerEnd (o : Ptr) : Told d (d.forwardOwnerEnd o) := by
  unfold Directory.forwardOwnerEnd
  split
  · exact refl d
  · exact { refl d with }

theorem endOwner (full : List Ptr) (o : Option Ptr) : Told d (d.endOwner full o) := by
  unfold Directory.endOwner
  split
  · exact refl d
  · split
    · exact refl d
    · exact ((setOwner _ _).trans (notifyAll full _ _)).trans (forwardOwnerEnd _)

theorem newOwner (owner : Ownership) : Told d (d.newOwner owner) := { refl d with }

theorem remoteOwner (caller : Caller) : Told d (d.remoteOwner caller).1 := by
  unfold Directory.remoteOwner
  split
  · exact refl d
  · split
    · exact refl d
    · exact { refl d with }

theorem endRemote (full : List Ptr) (e : LifetimeEvent) (o : Ptr) :
    Told d (d.endRemote full e o) := by
  unfold Directory.endRemote
  split
  · exact (endOwner full (some o)).trans { refl _ with }
  · exact refl d

theorem remoteEnded (full : List Ptr) (e : LifetimeEvent) : Told d (d.remoteEnded full e) := by
  have all : ∀ (l : List Ptr) (d : Directory), Told d (l.foldl (Directory.endRemote full e) d) := by
    intro l
    induction l with
    | nil => exact refl
    | cons o l ih => exact fun d => (endRemote full e o).trans (ih _)
  exact all _ d

theorem postCallerForward (s : Ptr) (target : String) : Told d (d.postCallerForward s target) := by
  unfold Directory.postCallerForward
  split
  · exact refl d
  · split
    · exact refl d
    · exact setOwner _ _

end Told

end Directory

end Sessionbus
