import Sessionbus.Directory.Still

/-!
# An entry ends once

`end` closes the channel `done` of an entry; closing it twice would be a panic. Every call of `end`
leaves a mark at the entry.
-/

namespace Sessionbus

/-- `end` was not called for the entry, or once and with its channel open. -/
def Item.EndsAs (v w : Item) : Prop :=
  w.done = v.done ∧ w.ends = v.ends ∨ v.done = false ∧ w.done = true ∧ w.ends = v.ends ++ [false]

theorem Item.EndsAs.trans {u v w : Item} (h : u.EndsAs v) (h' : v.EndsAs w) : u.EndsAs w := by
  rcases h with ⟨done, ends⟩ | ⟨undone, done, ends⟩
  · unfold Item.EndsAs at h' ⊢
    rwa [← done, ← ends]
  · rcases h' with ⟨done', ends'⟩ | ⟨undone', -, -⟩
    · exact .inr ⟨undone, done'.trans done, ends'.trans ends⟩
    · simp [done] at undone'

namespace Directory

attribute [local grind =] Function.update_apply

variable {d d' : Directory}

/-- `end` was called for the entry at most once, and found its channel open. -/
def EndedOnce (d : Directory) (p : Ptr) : Prop :=
  (d.items p).ends = [] ∨ (d.items p).ends = [false] ∧ (d.items p).done = true ∧ p < d.nextItem

/-- From one directory to the other no entry is ended twice. -/
structure Ended (d d' : Directory) : Prop where
  items : d.nextItem ≤ d'.nextItem
  kept : ∀ p, p < d.nextItem → (d.items p).EndsAs (d'.items p)
  new : ∀ p, d.nextItem ≤ p → d.EndedOnce p → d'.EndedOnce p

namespace Ended

theorem once (h : Ended d d') {p : Ptr} (once : d.EndedOnce p) : d'.EndedOnce p := by
  rcases Nat.lt_or_ge p d.nextItem with old | new
  · have known := Nat.lt_of_lt_of_le old h.items
    unfold EndedOnce at once ⊢
    rcases h.kept p old with ⟨done, ends⟩ | ⟨undone, done, ends⟩
    · rw [done, ends]
      exact once.imp_right fun marked => ⟨marked.1, marked.2.1, known⟩
    · rcases once with none | ⟨-, done', -⟩
      · exact .inr ⟨by rw [ends, none, List.nil_append], done, known⟩
      · simp [undone] at done'
  · exact h.new p new once

theorem trans {d'' : Directory} (h : Ended d d') (h' : Ended d' d'') : Ended d d'' where
  items := h.items.trans h'.items
  kept p hp := (h.kept p hp).trans (h'.kept p (Nat.lt_of_lt_of_le hp h.items))
  new p hp once := h'.once (h.new p hp once)

theorem same (nextItem : d.nextItem ≤ d'.nextItem)
    (done : ∀ p, p < d.nextItem → (d'.items p).done = (d.items p).done)
    (ends : ∀ p, (d'.items p).ends = (d.items p).ends ∨ d.nextItem ≤ p ∧ (d'.items p).ends = []) :
    Ended d d' where
  items := nextItem
  kept p old := .inl ⟨done p old, (ends p).resolve_right fun new => Nat.not_lt.mpr new.1 old⟩
  new p new once := by
    rcases once with none | ⟨-, -, old⟩
    · exact .inl ((ends p).elim (fun same => same.trans none) And.right)
    · exact absurd old (Nat.not_lt.mpr new)

theorem rest (nextItem : d'.nextItem = d.nextItem) (items : d'.items = d.items) : Ended d d' :=
  same nextItem.ge (fun p _ => by rw [items]) fun p => .inl (by rw [items])

theorem refl (d : Directory) : Ended d d := rest rfl rfl

theorem setItem {p : Ptr} {v : Item} (done : v.done = (d.items p).done)
    (ends : v.ends = (d.items p).ends) : Ended d (d.setItem p v) :=
  same (Nat.le_refl _) (fun q _ => by grind) fun q => .inl (by grind)

theorem endEntry (full : List Ptr) {p : Ptr} (known : p < d.nextItem)
    (undone : (d.items p).done = false) : Ended d (d.endEntry full p) := by
  have told := Told.endEntry (d := d) full p
  have items : (d.endEntry full p).items = Function.update d.items p (d.items p).ended := told.items
  refine ⟨told.nextItem.ge, fun q _ => ?_, fun q new once => ?_⟩
  · rw [items, Function.update_apply]
    split
    next same =>
      subst same
      exact .inr ⟨undone, rfl, by rw [Item.ended_ends, undone]⟩
    · exact .inl ⟨rfl, rfl⟩
  · unfold EndedOnce at once ⊢
    have other : q ≠ p := fun heq => Nat.not_lt.mpr new (heq ▸ known)
    rwa [items, told.nextItem, Function.update_of_ne other]

theorem seat (s : Ptr) (id : String) {item : Item} (clean : item.ends = []) :
    Ended d (d.seat s id item) :=
  same (Nat.le_succ _) (fun p hp => by grind) fun p => by grind

theorem takeID (full : List Ptr) {host : String} (s : Ptr) {hello : PeerHello}
    (peers : ∀ p, d.entries (qualify hello.sessionID host) = some p → p < d.nextItem ∧
      (d.items p).done = false) :
    Ended d (d.takeID full host s hello) := by
  unfold Directory.takeID
  simp only
  cases found : d.entries (qualify hello.sessionID host) with
  | some p =>
    obtain ⟨known, undone⟩ := peers p found
    have marked : Ended d (d.setItem p ((d.items p).setLifetime none)) := setItem rfl rfl
    exact (marked.trans (endEntry full known (by simpa using undone))).trans (seat _ _ rfl)
  | none =>
    have owned :
        Ended d
        (d.newOwner { id := qualify hello.sessionID host, token := ownerToken d.nextOwner }) :=
      rest rfl rfl
    exact owned.trans (seat _ _ rfl)

end Ended

/-! ## What a step ends -/

theorem Sound.peer_open (h : d.Sound) {id : String} {p : Ptr} (found : d.entries id = some p)
    (peer : (d.items p).peer = true) : p < d.nextItem ∧ (d.items p).done = false := by
  obtain ⟨s, attached⟩ := Option.ne_none_iff_exists'.mp (h.holds.peers id p found peer)
  exact ⟨(h.shape.ids id p found).2, (h.holds.attached p s attached).2.1⟩

namespace Ended

theorem replacePeer (h : d.Sound) (full : List Ptr) {s : Ptr} {hello : PeerHello} {old : Option Ptr}
    (attached : ∀ o, old = some o →
      (d.items o).attachment = some s ∧ (d.items o).row.sessionID ≠ qualify hello.sessionID d.host)
    (peers : ∀ p, d.entries (qualify hello.sessionID d.host) = some p → (d.items p).peer = true) :
    Ended d (d.replacePeer full s hello old) := by
  unfold Directory.replacePeer
  split
  · exact takeID full s fun p found => h.peer_open found (peers p found)
  next o =>
    obtain ⟨seated, other⟩ := attached o rfl
    obtain ⟨listed, undone, -⟩ := h.holds.attached o s seated
    have unlisted : Ended d (d.setEntry (d.items o).row.sessionID none) := rest rfl rfl
    have told := Told.endEntry (d := d.setEntry (d.items o).row.sessionID none) full o
    refine (unlisted.trans (endEntry full (h.shape.ids _ o listed).2 undone)).trans
      (takeID full s fun p found => ?_)
    rw [told.entries] at found
    change Function.update d.entries (d.items o).row.sessionID none _ = some p at found
    rw [Function.update_of_ne (Ne.symm other)] at found
    obtain ⟨known, open_⟩ := h.peer_open found (peers p found)
    have apart : p ≠ o := fun heq => other (heq ▸ (h.shape.ids _ p found).1)
    rw [told.nextItem, told.items]
    simpa [Function.update_of_ne apart] using And.intro known open_

theorem installPeer (h : d.Sound) {full : List Ptr} {s : Ptr} {hello : PeerHello}
    (installed : d.installPeer full s hello = some d') : Ended d d' := by
  obtain ⟨old, -, -, -, rfl⟩ | ⟨old, -, attached, peers, rfl⟩ := installPeer_cases installed
  · exact setItem rfl rfl
  · exact replacePeer h full attached peers

theorem releaseLaunch (h : d.Sound) (full : List Ptr) {l : Ptr} (hl : d.Open l) :
    Ended d (d.releaseLaunch full l) := by
  have undone := (h.holds.claimed l hl).2.2
  have known := (h.shape.laneEntry l hl.1).1
  unfold Directory.releaseLaunch
  simp only
  split
  · have freed : Ended d (d.setTokens (d.tokens.filter (· != l))) := rest rfl rfl
    have unclaimed :=
      freed.trans
      (setItem (p := (d.launches l).entry) (v := (d.entryOf l).setClaimed false) rfl rfl)
    have ended :=
      unclaimed.trans (endEntry full (p := (d.launches l).entry) known (by simpa using undone))
    rw [restore_frame]
    exact ended.trans (rest rfl rfl)
  · exact rest rfl rfl

theorem offline (p s : Ptr) (forget : Bool) : Ended d (d.offline p s forget) := by
  unfold Directory.offline
  extract_lets item item' d'
  have marked : Ended d d' := by
    refine setItem ?_ ?_
    all_goals
      simp only [item', item]
      split <;> rfl
  split
  · unfold Directory.forgetEntry
    split
    · exact marked.trans (rest rfl rfl)
    · exact marked
  · exact marked

theorem attach (l s : Ptr) (createdAt : Nat) : Ended d (d.attach l s createdAt) := by
  refine same (Nat.le_refl _) (fun p _ => ?_) fun p => .inl ?_
  all_goals
    rw [attach_items]
    grind

theorem finishOfflineClose_items (d : Directory) (p : Ptr) (forget deleted : Bool) :
    (d.finishOfflineClose p forget deleted).nextItem = d.nextItem ∧
      ((d.finishOfflineClose p forget deleted).items = d.items ∨
        (d.finishOfflineClose p forget deleted).items =
          Function.update d.items p ((d.items p).setClaimed false)) := by
  unfold Directory.finishOfflineClose
  extract_lets d₁ item d₂ named d₃
  split
  · refine ⟨?_, .inr ?_⟩
    all_goals split
    all_goals first | rfl | (split <;> rfl)
  · exact ⟨rfl, .inl rfl⟩

theorem finish (h : d.Sound) (full : List Ptr) {s : Ptr} (deleted : Bool)
    (running : (d.sessions s).returned = false) : Ended d (d.finish full s deleted) := by
  unfold Directory.finish
  simp only
  cases launch : (d.sessions s).launch with
  | none => exact rest rfl rfl
  | some l =>
    cases (d.sessions s).identity with
    | none => exact rest rfl rfl
    | some item =>
      simp only
      cases committed : (d.sessions s).committed with
      | false =>
        have released : Ended d (d.releaseLaunch full l) := releaseLaunch h full
          ⟨(h.seats.lane s l launch).1, h.seats.uncommitted s l launch committed running⟩
        cases (d.sessions s).launchResult with
        | none => exact released.trans (rest rfl rfl)
        | some answer => exact released.trans (rest rfl rfl)
      | true =>
        cases (d.sessions s).launchResult with
        | none => exact (offline item s _).trans (rest rfl rfl)
        | some answer =>
          have replied : Ended d (d.reply l answer) := rest rfl rfl
          exact (replied.trans (offline item s ((d.sessions s).forget && deleted))).trans
            (rest rfl rfl)

theorem step (h : d.Sound) (a : Action) : Ended d (d.step a) := by
  have does := d.does a
  generalize d.step a = d' at does ⊢
  have still (still : Still d d') : Ended d d' := same still.items still.done still.ends
  cases marks : a.marks with
  | false => exact still (does.still h marks)
  | true =>
    cases does with
    | routine routine => exact still (routine.still h)
    | hello s value full _ _ _ _ _ installed => exact installPeer h installed
    | release l full revoked =>
      exact (releaseLaunch h full (h.seats.revoked l (by simp [revoked])).1).trans (rest rfl rfl)
    | publish s l => exact (attach l s _).trans (rest rfl rfl)
    | closeWritten => exact setItem rfl rfl
    | lost => exact rest rfl rfl
    | detach s full p _ _ _ attached =>
      obtain ⟨listed, undone, -⟩ := h.holds.attached p s attached
      have ended := endEntry full (h.shape.ids _ p listed).2 undone
      suffices Ended d ((d.endEntry full p).leave p) from this.trans (rest rfl rfl)
      unfold Directory.leave
      split
      · exact ended.trans (rest rfl rfl)
      · exact ended.trans (setItem rfl rfl)
    | finish s deleted full running => exact finish h full deleted running
    | closeOffline p =>
      have claimed : Ended d (d.setItem p ((d.items p).setClaimed true)) := setItem rfl rfl
      exact claimed.trans (rest rfl rfl)
    | finishOfflineClose p forget deleted =>
      obtain ⟨next, items⟩ := finishOfflineClose_items d p forget deleted
      refine same next.ge (fun q _ => ?_) fun q => .inl ?_
      all_goals
        rcases items with items | items <;> rw [items]
        grind
    | _ => cases marks

theorem run (h : d.Sound) (actions : List Action) : Ended d (d.run actions) := by
  induction actions generalizing d with
  | nil => exact refl d
  | cons a actions ih => exact (step h a).trans (ih (h.step a))

end Ended

/-! ## Runs -/

theorem loaded_ends (rows : List Row)
    (h : ∀ p, (d.items p).ends = [] ∧ ((d.items p).done = true → p < d.nextItem)) :
    ∀ p, ((rows.foldl addRow d).items p).ends = [] ∧
      (((rows.foldl addRow d).items p).done = true → p < (rows.foldl addRow d).nextItem) := by
  induction rows generalizing d with
  | nil => exact h
  | cons row rows ih =>
    refine ih fun p => ?_
    have := h p
    simp only [addRow_items, addRow_nextItem]
    grind

/-- In every run `end` is called at most once for an entry, with its channel open, and never for a
loaded row; and an entry that has ended gets no session again. -/
theorem entry_ends_once (host : String) (u : Unicode) (rows : List Row) (actions : List Action) :
    let d := newDirectory host u rows
    (∀ p, ((d.run actions).items p).ends = [] ∨ ((d.run actions).items p).ends = [false]) ∧
      (∀ p, (d.items p).done = true → ((d.run actions).items p).ends = []) ∧
      ∀ before after, actions = before ++ after → ∀ p, ((d.run before).items p).ends ≠ [] →
        ((d.run actions).items p).ends = [false] ∧ ((d.run actions).items p).attachment = none := by
  intro d
  have sound : d.Sound := sound_newDirectory host u rows
  have start := loaded_ends (d := { host, unicode := u }) rows (by simp)
  have once (actions : List Action) (p : Ptr) : (d.run actions).EndedOnce p :=
    (Ended.run sound actions).once (.inl (start p).1)
  refine ⟨fun p => (once actions p).imp_right And.left, fun p done => ?_, ?_⟩
  · rcases (Ended.run sound actions).kept p ((start p).2 done) with ⟨-, ends⟩ | ⟨undone, -⟩
    · exact ends.trans (start p).1
    · simp [done] at undone
  · rintro before after rfl p marked
    obtain ⟨ends, done, old⟩ := (once before p).resolve_left marked
    have kept := (Ended.run (sound.run before) after).kept p old
    rw [run, List.foldl_append]
    change (((d.run before).run after).items p).ends = [false] ∧
      (((d.run before).run after).items p).attachment = none
    rcases kept with ⟨done', ends'⟩ | ⟨undone, -⟩
    · refine ⟨ends'.trans ends, ?_⟩
      cases attachment : (((d.run before).run after).items p).attachment with
      | none => rfl
      | some s =>
        have undone := (((sound.run before).run after).holds.attached p s attachment).2.1
        simp [done', done] at undone
    · simp [done] at undone

end Directory

end Sessionbus
