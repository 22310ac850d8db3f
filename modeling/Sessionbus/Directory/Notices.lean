import Mathlib.Algebra.BigOperators.Group.Finset.Basic
import Mathlib.Algebra.Order.BigOperators.Group.Finset
import Sessionbus.Directory.Owners
import Sessionbus.Federation.Trace

/-!
# Notices that an owner ended

When an owner of this host ends, the hosts that its requests went to are told so, through the hub.
The link goes down when its inbox has no place for a notice, when `ServeDaemon` takes one that it
cannot send, and when the hub does not accept one.
-/

namespace Sessionbus

/-- The hub's check of `owner_end`. The daemon leaves the members `source` and `attachment` empty.
-/
def Federation.acceptsOwnerEnd (u : Unicode) (host : String) (e : OwnerEnd) : Bool :=
  Federation.validHost e.host && ownedPart u e.sessionID host false && e.lifetime != ""

namespace LinkInbox

variable {l : LinkInbox} {f : String → OwnerEnd} {hosts : List String}

theorem mem_posts {e : OwnerEnd}
    (mem : e ∈ (hosts.foldl (fun l host => l.post (f host)) l).posted) :
    e ∈ l.posted ∨ ∃ host ∈ hosts, e = f host := by
  induction hosts generalizing l with
  | nil => exact .inl mem
  | cons host hosts ih =>
    rcases ih mem with old | ⟨there, later, rfl⟩
    · simp only [LinkInbox.post] at old
      split at old
      · exact .inl old
      · rcases List.mem_append.mp old with old | new
        · exact .inl old
        · exact .inr ⟨host, .head _, List.mem_singleton.mp new⟩
    · exact .inr ⟨there, .tail _ later, rfl⟩

theorem posts_room (f : String → OwnerEnd) (room : hosts.length ≤ l.room) :
    (hosts.foldl (fun l host => l.post (f host)) l).cancelled = l.cancelled ∧
      (hosts.foldl (fun l host => l.post (f host)) l).room + hosts.length = l.room := by
  induction hosts generalizing l with
  | nil => exact ⟨rfl, rfl⟩
  | cons host hosts ih =>
    rw [List.length_cons] at room
    have taken : l.post (f host) = { l with room := l.room - 1, posted := l.posted ++ [f host] } :=
      if_neg (by omega)
    obtain ⟨cancelled, left⟩ := ih (l := l.post (f host)) (by rw [taken]; simp only; omega)
    rw [taken] at cancelled left
    simp only at cancelled left
    rw [List.foldl_cons, List.length_cons, taken]
    exact ⟨cancelled, by omega⟩

end LinkInbox

/-- The notices that the end of the owner calls for. -/
def Ownership.farewells (owner : Ownership) : Nat :=
  if owner.ended then owner.destinations.length else 0

namespace Directory

/-- The owner is this host's, under an ID of this host. -/
structure HomeOwner (host : String) (u : Unicode) (owner : Ownership) : Prop where
  here : owner.host = ""
  id : LegalID u host owner.id
  token : owner.token ≠ ""

/-! ## Destinations -/

/-- The host that `postCallerForward` records for a target. -/
def destination (d : Directory) (target : String) : String :=
  ((canonicalTarget target d.host (validIDPart d.unicode)).map Prod.snd).getD ""

/-- A request that is forwarded for an owner goes to a host that the hub can know. -/
def Addressed (d : Directory) (a : Action) : Prop :=
  ∀ target, d.forwardTarget a = some target → Federation.validHost (d.destination target) = true

/-- Who has destinations, which they are, and what was put in the inbox. -/
structure Notices (host : String) (u : Unicode) (d : Directory) : Prop where
  own : ∀ p o, (d.items p).lifetime = some o → o < d.nextOwner ∧ HomeOwner host u (d.owners o)
  kept : ∀ o, ∀ there ∈ (d.owners o).destinations,
    o < d.nextOwner ∧ HomeOwner host u (d.owners o) ∧ Federation.validHost there = true
  posted : ∀ e ∈ d.link.posted, Federation.acceptsOwnerEnd u host e = true

variable {host : String} {u : Unicode} {d d' : Directory}

theorem HomeOwner.accepts {owner : Ownership} (h : HomeOwner host u owner)
    (named : Federation.validHost host = true) {there : String}
    (valid : Federation.validHost there = true) :
    Federation.acceptsOwnerEnd u host
      { host := there, sessionID := owner.id, lifetime := owner.token } = true := by
  unfold Federation.acceptsOwnerEnd
  simp only [Bool.and_eq_true, bne_iff_ne]
  exact ⟨⟨valid, (Federation.legalID_suffix h.id named).2⟩, h.token⟩

theorem HomeOwner.congr {owner owner' : Ownership} (h : HomeOwner host u owner)
    (there : owner'.host = owner.host) (id : owner'.id = owner.id)
    (token : owner'.token = owner.token) : HomeOwner host u owner' :=
  ⟨there.trans h.here, id ▸ h.id, token ▸ h.token⟩

theorem ownerToken_ne (p : Ptr) : ownerToken p ≠ "" := by
  unfold ownerToken
  intro empty
  have chars := congrArg String.toList empty
  rw [String.toList_append] at chars
  cases chars

/-! ## Places in the inbox -/

/-- The notices that the ends of owners so far call for. -/
def farewells (d : Directory) : Nat :=
  ∑ o ∈ Finset.range d.nextOwner, (d.owners o).farewells

/-- The inbox has a place for each notice of the owners that the step ends. -/
def Roomy (d : Directory) (a : Action) : Prop :=
  (d.step a).farewells ≤ d.farewells + d.link.room

instance (a : Action) : Decidable (d.Roomy a) := inferInstanceAs (Decidable (_ ≤ _))

/-- Each notice took a place of the inbox, as long as there were enough. -/
structure Affords (d d' : Directory) : Prop where
  grows : d.farewells ≤ d'.farewells
  room : d'.farewells ≤ d.farewells + d.link.room →
    d'.link.cancelled = d.link.cancelled ∧ d.farewells + d.link.room ≤ d'.farewells + d'.link.room

namespace Affords

theorem of (farewells : d'.farewells = d.farewells) (link : d'.link = d.link) : Affords d d' := by
  refine ⟨farewells.ge, fun _ => ?_⟩
  rw [farewells, link]
  exact ⟨rfl, le_rfl⟩

theorem same (owners : d'.owners = d.owners) (nextOwner : d'.nextOwner = d.nextOwner)
    (link : d'.link = d.link) : Affords d d' := by
  refine .of ?_ link
  unfold Directory.farewells
  rw [owners, nextOwner]

theorem trans {d'' : Directory} (first : Affords d d') (second : Affords d' d'') :
    Affords d d'' := by
  refine ⟨first.grows.trans second.grows, fun enough => ?_⟩
  obtain ⟨cancelled, left⟩ := first.room (second.grows.trans enough)
  obtain ⟨cancelled', left'⟩ := second.room (enough.trans left)
  exact ⟨cancelled'.trans cancelled, left.trans left'⟩

theorem plain (change : Plain d d') : Affords d d' :=
  .same change.owners change.nextOwner change.link

theorem begin (owner : Ownership) (fresh : owner.ended = false)
    (owners : d'.owners = (d.newOwner owner).owners) (nextOwner : d'.nextOwner = d.nextOwner + 1)
    (link : d'.link = d.link) : Affords d d' := by
  refine .of ?_ link
  have others : ∀ o ∈ Finset.range d.nextOwner, (d'.owners o).farewells = (d.owners o).farewells :=
    fun o known => by
    rw [owners]
    show (Function.update d.owners d.nextOwner owner o).farewells = _
    rw [Function.update_of_ne (Finset.mem_range.mp known).ne]
  have new : (d'.owners d.nextOwner).farewells = 0 := by
    rw [owners]
    show (Function.update d.owners d.nextOwner owner d.nextOwner).farewells = 0
    rw [Function.update_self, Ownership.farewells, fresh, if_neg Bool.false_ne_true]
  unfold Directory.farewells
  rw [nextOwner, Finset.sum_range_succ, new, Finset.sum_congr rfl others, Nat.add_zero]

end Affords

theorem farewells_update {o : Ptr} {owner : Ownership} (known : o < d.nextOwner)
    (live : (d.owners o).ended = false) (owners : d'.owners = Function.update d.owners o owner)
    (nextOwner : d'.nextOwner = d.nextOwner) : d'.farewells = d.farewells + owner.farewells := by
  have mem : o ∈ Finset.range d.nextOwner := Finset.mem_range.mpr known
  have none : (d.owners o).farewells = 0 := if_neg (by rw [live]; exact Bool.false_ne_true)
  unfold Directory.farewells
  rw [owners, nextOwner, ← Finset.add_sum_erase _ _ mem,
    ← Finset.add_sum_erase _ (fun p => (d.owners p).farewells) mem, Function.update_self, none,
    Nat.zero_add, Nat.add_comm]
  congr 1
  refine Finset.sum_congr rfl fun p hp => ?_
  rw [Function.update_of_ne (Finset.ne_of_mem_erase hp)]

namespace Notices

theorem affords_endOwner (h : d.Notices host u) (full : List Ptr) (owner : Option Ptr) :
    Affords d (d.endOwner full owner) := by
  obtain ⟨heq, -⟩ | ⟨o, -, live, ends⟩ := endOwner_cases (d := d) full owner
  · rw [heq]
    exact .same rfl rfl rfl
  by_cases known : o < d.nextOwner
  · have more : (d.endOwner full owner).farewells =
        d.farewells + (d.owners o).destinations.length :=
      farewells_update known live ends.owners ends.nextOwner
    refine ⟨by omega, fun enough => ?_⟩
    rcases ends.link with link | ⟨-, link⟩
    · rw [link]
      exact ⟨rfl, by omega⟩
    · obtain ⟨cancelled, left⟩ := LinkInbox.posts_room
        (fun host => { host, sessionID := (d.owners o).id, lifetime := (d.owners o).token })
        (show (d.owners o).destinations.length ≤ d.link.room by omega)
      rw [link]
      exact ⟨cancelled, by omega⟩
  · have nowhere : (d.owners o).destinations = [] :=
      List.eq_nil_iff_forall_not_mem.mpr fun there mem => known (h.kept o there mem).1
    refine .of (Finset.sum_congr (by rw [ends.nextOwner]) fun p hp => ?_) ?_
    · rw [ends.owners, Function.update_of_ne]
      rintro rfl
      exact known (Finset.mem_range.mp hp)
    · rcases ends.link with link | ⟨-, link⟩
      · exact link
      · rw [link, nowhere]
        rfl

theorem same (h : d.Notices host u) (nextOwner : d'.nextOwner = d.nextOwner)
    (lifetimes : ∀ p o, (d'.items p).lifetime = some o → (d.items p).lifetime = some o)
    (owners : ∀ o, (d'.owners o).host = (d.owners o).host ∧ (d'.owners o).id = (d.owners o).id ∧
      (d'.owners o).token = (d.owners o).token ∧
      (d'.owners o).destinations = (d.owners o).destinations)
    (posted : ∀ e ∈ d'.link.posted, Federation.acceptsOwnerEnd u host e = true) :
    d'.Notices host u where
  own p o hp := by
    obtain ⟨there, id, token, -⟩ := owners o
    obtain ⟨known, home⟩ := h.own p o (lifetimes p o hp)
    exact ⟨nextOwner ▸ known, home.congr there id token⟩
  kept o there mem := by
    obtain ⟨same, id, token, destinations⟩ := owners o
    obtain ⟨known, home, valid⟩ := h.kept o there (destinations ▸ mem)
    exact ⟨nextOwner ▸ known, home.congr same id token, valid⟩
  posted := posted

theorem plain (h : d.Notices host u) (change : Plain d d') : d'.Notices host u := by
  refine h.same change.nextOwner (fun p => (change.items p).lifetime) (fun o => ?_)
    (change.link ▸ h.posted)
  rw [change.owners]
  exact ⟨rfl, rfl, rfl, rfl⟩

theorem endOwner (h : d.Notices host u) (named : Federation.validHost host = true) (full : List Ptr)
    (owner : Option Ptr) : (d.endOwner full owner).Notices host u := by
  obtain ⟨heq, -⟩ | ⟨o, -, -, ends⟩ := endOwner_cases (d := d) full owner
  · rw [heq]
    exact h
  · refine h.same ends.nextOwner (fun p o' hp => ends.told.items ▸ hp) (fun o' => ?_) fun e he => ?_
    · rw [ends.owners, Function.update_apply]
      split
      next same =>
        subst same
        exact ⟨rfl, rfl, rfl, rfl⟩
      · exact ⟨rfl, rfl, rfl, rfl⟩
    · rcases ends.link with link | ⟨-, link⟩
      · exact h.posted e (link ▸ he)
      · rcases LinkInbox.mem_posts (link ▸ he) with old | ⟨there, mem, rfl⟩
        · exact h.posted e old
        · obtain ⟨-, home, valid⟩ := h.kept o there mem
          exact home.accepts named valid

theorem endEntry (h : d.Notices host u) (named : Federation.validHost host = true)
    (full : List Ptr) (p : Ptr) :
    (d.endEntry full p).Notices host u ∧ Affords d (d.endEntry full p) := by
  have ended : Plain (d.endOwner full (d.items p).lifetime) (d.endEntry full p) :=
    .setItem (.detached rfl rfl)
  exact ⟨(h.endOwner named full _).plain ended, (h.affords_endOwner full _).trans (.plain ended)⟩

theorem retiring (h : d.Notices host u) (named : Federation.validHost host = true)
    (run : Retiring d d') : d'.Notices host u ∧ Affords d d' := by
  induction run with
  | refl => exact ⟨h, .same rfl rfl rfl⟩
  | plain _ change ih => exact ⟨ih.1.plain change, ih.2.trans (.plain change)⟩
  | endEntry _ _ full p ih =>
    obtain ⟨notices, affords⟩ := ih.1.endEntry named full p
    exact ⟨notices, ih.2.trans affords⟩
  | endRemote _ _ full e o ih =>
    unfold Directory.endRemote
    split
    · have ended := ih.1.endOwner named full (some o)
      exact ⟨ended.same rfl (fun _ _ => id) (fun _ => ⟨rfl, rfl, rfl, rfl⟩) ended.posted,
        (ih.2.trans (ih.1.affords_endOwner full (some o))).trans (.same rfl rfl rfl)⟩
    · exact ih

theorem newOwner (h : d.Notices host u) {owner : Ownership} (none : owner.destinations = []) :
    (d.newOwner owner).Notices host u where
  own p o hp := by
    obtain ⟨old, home⟩ := h.own p o hp
    refine ⟨Nat.lt_succ_of_lt old, ?_⟩
    show HomeOwner host u (Function.update d.owners d.nextOwner owner o)
    rw [Function.update_of_ne (Nat.ne_of_lt old)]
    exact home
  kept o there mem := by
    change there ∈ (Function.update d.owners d.nextOwner owner o).destinations at mem
    show o < d.nextOwner + 1 ∧ HomeOwner host u (Function.update d.owners d.nextOwner owner o) ∧ _
    by_cases new : o = d.nextOwner
    · subst new
      rw [Function.update_self, none] at mem
      cases mem
    · rw [Function.update_of_ne new] at mem ⊢
      obtain ⟨known, rest⟩ := h.kept o there mem
      exact ⟨Nat.lt_succ_of_lt known, rest⟩
  posted e he := h.posted e he

theorem begin (h : d.Notices host u) {owner : Ownership} (home : HomeOwner host u owner)
    (none : owner.destinations = []) {p : Ptr} {v : Item} (lifetime : v.lifetime = some d.nextOwner)
    (owners : d'.owners = (d.newOwner owner).owners) (link : d'.link = d.link)
    (nextOwner : d'.nextOwner = d.nextOwner + 1) (items : d'.items = Function.update d.items p v) :
    d'.Notices host u := by
  have added := h.newOwner none
  refine ⟨fun q o hq => ?_, fun o there mem => ?_, fun e he => h.posted e (link ▸ he)⟩
  · rw [items, Function.update_apply] at hq
    rw [owners, nextOwner]
    split at hq
    · rw [lifetime] at hq
      cases hq
      refine ⟨Nat.lt_succ_self _, ?_⟩
      show HomeOwner host u (Function.update d.owners d.nextOwner owner d.nextOwner)
      rw [Function.update_self]
      exact home
    · exact added.own q o hq
  · rw [owners] at mem ⊢
    rw [nextOwner]
    exact added.kept o there mem

theorem takeID (h : d.Notices host u) (full : List Ptr) (s : Ptr) {hello : PeerHello}
    (valid : validIDPart u hello.sessionID = true) :
    (d.takeID full host s hello).Notices host u ∧ Affords d (d.takeID full host s hello) := by
  cases entry : d.entries (qualify hello.sessionID host) with
  | some found =>
    rw [takeID_found entry]
    refine ⟨⟨fun p o hp => ?_, h.kept, h.posted⟩, .same rfl rfl rfl⟩
    rw [seat_items, Function.update_apply] at hp
    split at hp
    · exact h.own found o hp
    · rw [setItem_items, Function.update_apply] at hp
      split at hp
      · cases hp
      · exact h.own p o hp
  | none =>
    unfold Directory.takeID
    simp only [entry]
    have home :
        HomeOwner host u { id := qualify hello.sessionID host, token := ownerToken d.nextOwner } :=
      ⟨rfl, ⟨hello.sessionID, valid, rfl⟩, ownerToken_ne _⟩
    exact ⟨h.begin home rfl (v := peerItem host s hello (some d.nextOwner)) rfl rfl rfl rfl rfl,
      .begin { id := qualify hello.sessionID host, token := ownerToken d.nextOwner } rfl
      rfl rfl rfl⟩

theorem replacePeer (h : d.Notices host u) (named : Federation.validHost host = true)
    (here : d.host = host) (full : List Ptr) (s : Ptr) {value : PeerHello}
    (valid : validIDPart u value.sessionID = true) (old : Option Ptr) :
    (d.replacePeer full s value old).Notices host u ∧
      Affords d (d.replacePeer full s value old) := by
  unfold Directory.replacePeer
  rw [here]
  split
  · exact h.takeID full s valid
  next o =>
    have cleared : Plain d (d.setEntry (d.items o).row.sessionID none) := .setEntry d _ none
    obtain ⟨ended, affords⟩ := (h.plain cleared).endEntry named full o
    obtain ⟨taken, affords'⟩ := ended.takeID full s valid
    exact ⟨taken, ((Affords.plain cleared).trans affords).trans affords'⟩

theorem postCallerForward (h : d.Notices host u) {s : Ptr} {target : String}
    (valid : Federation.validHost (d.destination target) = true) :
    (d.postCallerForward s target).Notices host u ∧ Affords d (d.postCallerForward s target) := by
  unfold Directory.postCallerForward
  split
  · exact ⟨h, .same rfl rfl rfl⟩
  next o caller =>
    split
    · exact ⟨h, .same rfl rfl rfl⟩
    next goes =>
      have live : (d.owners o).ended = false := by
        simp only [Bool.or_eq_true, not_or, Bool.not_eq_true] at goes
        exact goes.2
      obtain ⟨p, lifetime⟩ : ∃ p, (d.items p).lifetime = some o := by
        unfold Directory.callerOwner at caller
        split at caller
        next p _ =>
          split at caller
          · exact ⟨p, caller⟩
          · cases caller
        · cases caller
      obtain ⟨known, home⟩ := h.own p o lifetime
      refine ⟨⟨fun q o' hq => ?_, fun o' there mem => ?_, h.posted⟩, .of ?_ rfl⟩
      · refine ⟨(h.own q o' hq).1, ?_⟩
        rw [setOwner_owners, Function.update_apply]
        split
        · exact home.congr rfl rfl rfl
        · exact (h.own q o' hq).2
      · rw [setOwner_owners, Function.update_apply] at mem ⊢
        split at mem
        next same =>
          subst same
          rw [if_pos rfl]
          refine ⟨known, home.congr rfl rfl rfl, ?_⟩
          simp only at mem
          split at mem
          · exact (h.kept o' there mem).2.2
          · rcases List.mem_append.mp mem with old | new
            · exact (h.kept o' there old).2.2
            · rw [List.mem_singleton.mp new]
              exact valid
        next other =>
          rw [if_neg other]
          exact h.kept o' there mem
      · refine Eq.trans (farewells_update known live rfl rfl) ?_
        rw [Ownership.farewells, if_neg (by simp [live]), Nat.add_zero]

theorem remoteOwner (h : d.Notices host u) (caller : Caller) :
    (d.remoteOwner caller).1.Notices host u ∧ Affords d (d.remoteOwner caller).1 := by
  unfold Directory.remoteOwner
  split
  · exact ⟨h, .same rfl rfl rfl⟩
  · split
    · exact ⟨h, .same rfl rfl rfl⟩
    · have added : (d.newOwner (remoteRecord caller)).Notices host u := h.newOwner rfl
      exact ⟨added.same rfl (fun _ _ => id) (fun _ => ⟨rfl, rfl, rfl, rfl⟩) added.posted,
        .begin (remoteRecord caller) rfl rfl rfl rfl⟩

theorem attach (h : d.Notices host u) {l : Ptr} (id : LegalID u host (d.entryOf l).row.sessionID)
    (s : Ptr) (createdAt : Nat) :
    (d.attach l s createdAt).Notices host u ∧ Affords d (d.attach l s createdAt) := by
  have home :
      HomeOwner host u { id := (d.entryOf l).row.sessionID, token := ownerToken d.nextOwner } :=
    ⟨rfl, id, ownerToken_ne _⟩
  exact ⟨h.begin home rfl (v := (d.entryOf l).published (stamp (d.entryOf l).row createdAt) s
    d.nextOwner) rfl rfl rfl rfl rfl,
    .begin { id := (d.entryOf l).row.sessionID, token := ownerToken d.nextOwner } rfl rfl rfl rfl⟩

theorem step (h : d.Notices host u) (named : Federation.validHost host = true)
    (serves : d.Serves host u) {a : Action} (addressed : d.Addressed a) :
    (d.step a).Notices host u ∧ (d.Roomy a → (d.step a).link.cancelled = d.link.cancelled) := by
  suffices (d.step a).Notices host u ∧
      (Affords d (d.step a) ∨ (d.step a).link.cancelled = d.link.cancelled) by
    obtain ⟨notices, affords | cancelled⟩ := this
    · exact ⟨notices, fun roomy => (affords.room roomy).1⟩
    · exact ⟨notices, fun _ => cancelled⟩
  have settled {d' d'' : Directory} (kept : d'.Notices host u ∧ Affords d d')
      (plain : Plain d' d'') : d''.Notices host u ∧
      (Affords d d'' ∨ d''.link.cancelled = d.link.cancelled) :=
    ⟨kept.1.plain plain, .inl (kept.2.trans (.plain plain))⟩
  obtain retiring | ⟨s, target, forwarded, heq⟩ | ⟨caller, -, plain⟩ |
    ⟨l, s, createdAt, publishes, plain⟩ |
    ⟨up, room, rfl⟩ | ⟨s, value, full, old, -, replaces, heq⟩ := serves.sound.step_cases a
  · exact settled (h.retiring named retiring) (.refl _)
  · rw [heq]
    exact settled (h.postCallerForward (addressed target forwarded)) (.refl _)
  · exact settled (h.remoteOwner caller) plain
  · have legal : LegalID u host (d.entryOf l).row.sessionID := by
      unfold Directory.publishes Directory.listed at publishes
      simp only [Bool.and_eq_true, beq_iff_eq] at publishes
      exact serves.legalID publishes.1.1.1.2
    exact settled (h.attach legal s createdAt) plain
  · exact ⟨h.same rfl (fun _ _ => id) (fun _ => ⟨rfl, rfl, rfl, rfl⟩) h.posted, .inr rfl⟩
  · rw [heq]
    exact settled
      (h.replacePeer named serves.rows.host full s (serves.rows.unicode ▸ replaces.valid) old)
      (.refl _)

theorem newDirectory (rows : List Row) : (newDirectory host u rows).Notices host u := by
  rw [newDirectory_eq]
  have start : Notices host u { host, unicode := u } := ⟨by simp, by simp, by simp⟩
  revert start
  generalize ({ host, unicode := u } : Directory) = d
  intro start
  induction rows generalizing d with
  | nil => exact start
  | cons row rows ih =>
    refine ih (d.addRow row) ⟨fun p o lifetime => ?_, start.kept, start.posted⟩
    rw [addRow_items, Function.update_apply] at lifetime
    split at lifetime
    · cases lifetime
    · exact start.own p o lifetime

end Notices

/-! ## Runs -/

/-- The directory, how many notices `ServeDaemon` has taken, and whether the link was closed over
one. -/
structure Uplink where
  directory : Directory
  taken : Nat := 0
  closed : Bool := false

/-- `take` is `ServeDaemon` at its next notice, with so many `pending` calls; `sent` is that the
link goes on and the wire takes the request. -/
inductive Turn
  | act (a : Action)
  | take (pending : Nat) (sent : Bool)

/-- `ServeDaemon` closes the wire over a notice that it does not send, the hub over one that it
refuses. -/
def Uplink.take (l : Uplink) (pending : Nat) (sent : Bool) : Uplink :=
  match l.directory.link.posted[l.taken]? with
  | none => l
  | some e =>
    { l with
      taken := l.taken + 1
      closed := l.closed || pending ≥ maxOperations || !sent ||
        !Federation.acceptsOwnerEnd l.directory.unicode l.directory.host e }

def Uplink.turn (l : Uplink) : Turn → Uplink
  | .act a => { l with directory := l.directory.step a }
  | .take pending sent => l.take pending sent

/-- The runs in which requests are forwarded only to hosts that the hub can know, and the inbox, the
calls and the wire have room for the notices. -/
inductive Addresses (host : String) (u : Unicode) : Uplink → Prop
  | start (rows : List Row) (writer : Row → Directory)
      (written : ∀ row ∈ rows, (writer row).Wrote row)
      (served : ∀ row ∈ rows, Served host u (writer row)) (names : (rows.map Row.name).Nodup) :
      Addresses host u { directory := newDirectory host u rows }
  | act {l : Uplink} (run : Addresses host u l) (a : Action) (checked : Checked u a)
      (addressed : l.directory.Addressed a) (roomy : l.directory.Roomy a) :
      Addresses host u (l.turn (.act a))
  | take {l : Uplink} (run : Addresses host u l) (pending : Nat) (few : pending < maxOperations) :
      Addresses host u (l.turn (.take pending true))

variable {l : Uplink}

theorem take_directory (pending : Nat) (sent : Bool) :
    (l.take pending sent).directory = l.directory := by
  unfold Uplink.take
  split <;> rfl

theorem Addresses.served (h : Addresses host u l) : Served host u l.directory := by
  induction h with
  | start rows writer written served names => exact .start rows writer written served names
  | act _ a checked _ _ ih => exact .step ih a checked
  | take _ pending _ ih =>
    rw [Uplink.turn, take_directory]
    exact ih

theorem newDirectory_link (rows : List Row) : (newDirectory host u rows).link = {} := by
  rw [newDirectory_eq]
  have start : ({ host, unicode := u } : Directory).link = {} := rfl
  revert start
  generalize ({ host, unicode := u } : Directory) = d
  intro start
  induction rows generalizing d with
  | nil => exact start
  | cons row rows ih => exact ih (d.addRow row) start

theorem Addresses.notices (h : Addresses host u l) (named : Federation.validHost host = true) :
    l.directory.Notices host u := by
  induction h with
  | start rows => exact Notices.newDirectory rows
  | act run a checked addressed _ ih => exact (ih.step named run.served.serves addressed).1
  | take _ pending _ ih =>
    rw [Uplink.turn, take_directory]
    exact ih

/-- No notice takes the link down, when each request was for a host that the hub can know and there
was room for the notices. -/
theorem Addresses.notices_accepted (h : Addresses host u l)
    (named : Federation.validHost host = true) :
    l.directory.link.cancelled = false ∧ l.closed = false ∧
      ∀ e ∈ l.directory.link.posted, Federation.acceptsOwnerEnd u host e = true := by
  refine ⟨?_, ?_, (h.notices named).posted⟩
  · induction h with
    | start rows => exact congrArg LinkInbox.cancelled (newDirectory_link rows)
    | act run a checked addressed roomy ih =>
      exact (((run.notices named).step named run.served.serves addressed).2 roomy).trans ih
    | take _ pending _ ih =>
      rw [Uplink.turn, take_directory]
      exact ih
  · induction h with
    | start => rfl
    | act _ _ _ _ _ ih => exact ih
    | @take l run pending few ih =>
      rw [Uplink.turn, Uplink.take]
      split
      · exact ih
      next e next =>
        have rows := run.served.serves.rows
        have accepted := (run.notices named).posted e (List.mem_of_getElem? next)
        rw [rows.host, rows.unicode, accepted, ih, decide_eq_false (Nat.not_le.mpr few)]
        rfl

/-- A peer configures a trace on another host, and leaves; then `ServeDaemon` takes its notice. -/
def leaving (label : String) : List Turn :=
  [.act (.hello 0 { sessionID := "boss", product := "p", groups := [] } []), .act (.link true),
    .act (.configureTrace 0 label), .act (.disconnect 0 []), .take 1 true]

theorem Addresses.notices_accepted_leaving :
    Federation.validHost "h" = true ∧
      let l := (leaving "x@there").foldl Uplink.turn { directory := newDirectory "h" ascii [] }
      l.taken = 1 ∧ l.directory.link.cancelled = false ∧ l.closed = false ∧
        ∀ e ∈ l.directory.link.posted, Federation.acceptsOwnerEnd ascii "h" e = true := by
  refine ⟨by decide, by decide +kernel, Addresses.notices_accepted ?_ (by decide)⟩
  have start : Addresses "h" ascii { directory := newDirectory "h" ascii [] } :=
    .start [] (fun _ => newDirectory "h" ascii []) (by simp) (by simp) (by simp)
  have linked :=
    (start.act (.hello 0 { sessionID := "boss", product := "p", groups := [] } [])
      (by simp [Checked])
    (by rintro _ ⟨⟩) (by decide +kernel)).act (.link true) trivial (by rintro _ ⟨⟩)
    (by decide +kernel)
  have configured := linked.act (.configureTrace 0 "x@there") trivial
    (fun target forwarded => by
      have found : target = "x@there" := Option.some.inj (forwarded.symm.trans (by decide +kernel))
      subst found
      decide +kernel)
    (by decide +kernel)
  exact (configured.act (.disconnect 0 []) trivial (by rintro _ ⟨⟩) (by decide +kernel)).take
    1 (by decide)

/-- The host `local` is one for a target, and none for the hub. -/
theorem leaving_local_refused :
    Federation.validHost "h" = true ∧
      let l := (leaving "x@local").foldl Uplink.turn { directory := newDirectory "h" ascii [] }
      Served "h" ascii l.directory ∧ l.closed = true ∧
        l.directory.link.posted =
          [{ host := "local", sessionID := "boss@h", lifetime := ownerToken 0 }] ∧
        Federation.acceptsOwnerEnd ascii "h"
          { host := "local", sessionID := "boss@h", lifetime := ownerToken 0 } = false := by
  refine ⟨by decide, ?_, by decide +kernel, by decide +kernel, by decide +kernel⟩
  have start : Served "h" ascii (Directory.newDirectory "h" ascii []) :=
    .start [] (fun _ => newDirectory "h" ascii []) (by simp) (by simp) (by simp)
  simp only [leaving, List.foldl_cons, List.foldl_nil, Uplink.turn, take_directory]
  refine @Served.run _ _ _ start
    [.hello 0 { sessionID := "boss", product := "p", groups := [] } [], .link true,
      .configureTrace 0 "x@local", .disconnect 0 []] ?_
  simp [Checked]

end Directory

end Sessionbus
