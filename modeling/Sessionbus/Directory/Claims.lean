import Sessionbus.Directory.Still

/-!
# Who holds the claim of an entry

`claimed` is one flag. A launch holds it from its reservation to its publication or its release, the
session of a published lane from the moment its close is written or its connection is lost to the
end of its run loop, and a close of an offline lane from `selectEntries` to `finishOfflineClose`.
-/

namespace Sessionbus

namespace Directory

attribute [local grind =] Function.update_apply

inductive Claimant
  | launch (l : Ptr)
  | session (s : Ptr)
  | offlineClose
deriving DecidableEq, Repr

/-- Who may claim the entry and release it. -/
def Claimable (d : Directory) (p : Ptr) : Claimant → Prop
  | .launch l => d.Open l ∧ (d.launches l).entry = p
  | .session s => (d.sessions s).Keeps p
  | .offlineClose => p ∈ d.offlineClosing

/-- The claim of one entry is where it belongs. -/
structure ClaimAt (d : Directory) (p : Ptr) : Prop where
  closer : p ∈ d.offlineClosing → (d.items p).peer = false ∧ d.listed p = true ∧
    (d.items p).attachment = none ∧ (d.items p).claimed = true ∧ ∀ s, ¬ (d.sessions s).Keeps p
  cleanup : ∀ s, (d.sessions s).Keeps p → (d.sessions s).closed = true →
    (d.items p).claimed = true ∧ d.listed p = true
  held : (d.items p).claimed = true → ∃ c, d.Claimable p c

structure Claims (d : Directory) : Prop where
  entry : ∀ p, d.ClaimAt p
  nodup : d.offlineClosing.Nodup

variable {d d' : Directory}

/-! ## What claims rest on -/

theorem Sound.keeps_entry (h : d.Sound) {s p : Ptr} (keeps : (d.sessions s).Keeps p) :
    ∃ l, (d.sessions s).launch = some l ∧ l < d.nextLaunch ∧ (d.launches l).owner = some s ∧
      (d.launches l).entry = p ∧ (d.launches l).concluded = true := by
  obtain ⟨committed, -, identity⟩ := keeps
  obtain ⟨l, launch⟩ := Option.ne_none_iff_exists'.mp (h.seats.committed s committed)
  obtain ⟨hlt, owner, entry⟩ := h.seats.lane s l launch
  rw [identity] at entry
  exact ⟨l, launch, hlt, owner, (Option.some.inj entry).symm,
    h.seats.concluded s l launch committed⟩

theorem Sound.claimable_old (h : d.Sound) {p : Ptr} {c : Claimant} (claimable : d.Claimable p c) :
    p < d.nextItem := by
  cases c with
  | launch l =>
    obtain ⟨hl, rfl⟩ := claimable
    exact (h.shape.laneEntry l hl.1).1
  | session s => exact h.identity_old claimable.2.2
  | offlineClose => exact (h.holds.closers p claimable).1

theorem Claims.lane (h : d.Claims) (sound : d.Sound) {p : Ptr}
    (claimed : (d.items p).claimed = true) : p < d.nextItem ∧ (d.items p).peer = false := by
  obtain ⟨c, claimable⟩ := (h.entry p).held claimed
  refine ⟨sound.claimable_old claimable, ?_⟩
  cases c with
  | launch l =>
    obtain ⟨hl, rfl⟩ := claimable
    exact (sound.shape.laneEntry l hl.1).2
  | session s =>
    obtain ⟨l, -, hlt, -, rfl, -⟩ := sound.keeps_entry claimable
    exact (sound.shape.laneEntry l hlt).2
  | offlineClose => exact ((h.entry p).closer claimable).1

theorem Claims.peer_unclaimed (h : d.Claims) (sound : d.Sound) {p : Ptr}
    (peer : (d.items p).peer = true) : (d.items p).claimed = false := by
  cases claimed : (d.items p).claimed with
  | false => rfl
  | true => simp [(h.lane sound claimed).2] at peer

theorem Claims.only (h : d.Claims) (sound : d.Sound) {p : Ptr} {c c' : Claimant}
    (hc : d.Claimable p c) (hc' : d.Claimable p c') : c = c' := by
  have published : ∀ {l s}, d.Open l → (d.launches l).entry = p → ¬ (d.sessions s).Keeps p := by
    intro l s hl entry keeps
    obtain ⟨l', -, hlt, -, entry', concluded⟩ := sound.keeps_entry keeps
    have same := sound.shape.ownEntry l l' hl.1 hlt (entry.trans entry'.symm)
    simp [← same, hl.2] at concluded
  have offline : ∀ {l}, d.Open l → (d.launches l).entry = p → p ∉ d.offlineClosing := by
    intro l hl entry closing
    exact (sound.holds.closers p closing).2 l hl entry
  cases c with
  | launch l =>
    obtain ⟨hl, entry⟩ := hc
    cases c' with
    | launch l' => rw [sound.shape.ownEntry l l' hl.1 hc'.1.1 (entry.trans hc'.2.symm)]
    | session s => exact absurd hc' (published hl entry)
    | offlineClose => exact absurd hc' (offline hl entry)
  | session s =>
    cases c' with
    | launch l => exact absurd hc (published hc'.1 hc'.2)
    | session s' =>
      obtain ⟨l, -, hlt, owner, entry, -⟩ := sound.keeps_entry hc
      obtain ⟨l', -, hlt', owner', entry', -⟩ := sound.keeps_entry hc'
      have same := sound.shape.ownEntry l l' hlt hlt' (entry.trans entry'.symm)
      rw [same, owner'] at owner
      cases owner
      rfl
    | offlineClose => exact absurd hc (((h.entry p).closer hc').2.2.2.2 s)
  | offlineClose =>
    cases c' with
    | launch l => exact absurd hc (offline hc'.1 hc'.2)
    | session s => exact absurd hc' (((h.entry p).closer hc).2.2.2.2 s)
    | offlineClose => rfl

/-! ## Steps that claim nothing -/

theorem Claims.steady (h : d.Claims) (sound : d.Sound) (later : Later d d') (steady : Steady d d') :
    d'.Claims := by
  refine ⟨fun p => ⟨fun closing => ?_, fun s keeps closed => ?_, fun claimed => ?_⟩, ?_⟩
  · rw [steady.offlineClosing] at closing
    obtain ⟨lane, listed, unattached, claimed, nobody⟩ := (h.entry p).closer closing
    obtain ⟨old, free⟩ := sound.holds.closers p closing
    refine ⟨(later.kind p old).1.trans lane, steady.listed p old claimed listed, ?_,
      (steady.claimed p old).trans claimed, fun s keeps => nobody s ((steady.keeps s p).mp keeps)⟩
    cases attachment : (d'.items p).attachment with
    | none => rfl
    | some s =>
      rcases later.attached p s old attachment with attached | ⟨l, hl, entry⟩
      · simp [unattached] at attached
      · exact absurd entry (free l hl)
  · rw [steady.keeps] at keeps
    rw [steady.closed s p keeps] at closed
    have old := sound.identity_old keeps.2.2
    obtain ⟨claimed, listed⟩ := (h.entry p).cleanup s keeps closed
    exact ⟨(steady.claimed p old).trans claimed, steady.listed p old claimed listed⟩
  · cases before : (d.items p).claimed with
    | true =>
      obtain ⟨c, claimable⟩ := (h.entry p).held before
      refine ⟨c, ?_⟩
      cases c with
      | launch l =>
        obtain ⟨hl, entry⟩ := claimable
        exact ⟨(steady.opens l hl).1, (steady.opens l hl).2.trans entry⟩
      | session s => exact (steady.keeps s p).mpr claimable
      | offlineClose =>
        show p ∈ d'.offlineClosing
        rw [steady.offlineClosing]
        exact claimable
    | false =>
      have new : d.nextItem ≤ p := Nat.not_lt.mp fun old => by
        simp [steady.claimed p old, before] at claimed
      obtain ⟨l, hl, entry⟩ := steady.added p new before claimed
      exact ⟨.launch l, hl, entry⟩
  · rw [steady.offlineClosing]
    exact h.nodup

/-! ## Steps that concern one entry -/

/-- All but one entry have the claimants that they had. -/
structure Concerns (p₀ : Ptr) (d d' : Directory) : Prop where
  item : ∀ p, p ≠ p₀ → d'.items p = d.items p
  listed : ∀ p, p ≠ p₀ → d.listed p = true → d'.listed p = true
  closing : ∀ p, p ≠ p₀ → (p ∈ d'.offlineClosing ↔ p ∈ d.offlineClosing)
  opens : ∀ l, d.Open l → (d.launches l).entry ≠ p₀ → d'.Open l ∧
    (d'.launches l).entry = (d.launches l).entry
  keeps : ∀ s p, p ≠ p₀ → ((d'.sessions s).Keeps p ↔ (d.sessions s).Keeps p)
  closed : ∀ s p, p ≠ p₀ → (d.sessions s).Keeps p → (d'.sessions s).closed = (d.sessions s).closed

theorem Claims.concerns (h : d.Claims) {p₀ : Ptr} (c : Concerns p₀ d d') (here : d'.ClaimAt p₀)
    (nodup : d'.offlineClosing.Nodup) : d'.Claims := by
  refine ⟨fun p => ?_, nodup⟩
  by_cases other : p = p₀
  · exact other ▸ here
  · refine ⟨fun closing => ?_, fun s keeps closed => ?_, fun claimed => ?_⟩
    · obtain ⟨lane, listed, unattached, claimed, nobody⟩ :=
        (h.entry p).closer ((c.closing p other).mp closing)
      rw [c.item p other]
      exact ⟨lane, c.listed p other listed, unattached, claimed,
        fun s keeps => nobody s ((c.keeps s p other).mp keeps)⟩
    · rw [c.keeps s p other] at keeps
      rw [c.closed s p other keeps] at closed
      obtain ⟨claimed, listed⟩ := (h.entry p).cleanup s keeps closed
      rw [c.item p other]
      exact ⟨claimed, c.listed p other listed⟩
    · rw [c.item p other] at claimed
      obtain ⟨claimant, claimable⟩ := (h.entry p).held claimed
      refine ⟨claimant, ?_⟩
      cases claimant with
      | launch l =>
        obtain ⟨hl, rfl⟩ := claimable
        exact c.opens l hl other
      | session s => exact (c.keeps s p other).mpr claimable
      | offlineClose => exact (c.closing p other).mpr claimable

/-! ## Peers -/

namespace Steady

theorem unlist {id : String} (free : ∀ p, d.entries id = some p → (d.items p).claimed = false) :
    Steady d (d.setEntry id none) := by
  refine { refl d with listed := fun p _ claimed listed => ?_ }
  unfold Directory.listed at listed ⊢
  grind

theorem endEntry (full : List Ptr) (p : Ptr) : Steady d (d.endEntry full p) := by
  have ended : Steady d (d.setItem p (d.items p).ended) := setItem rfl rfl
  exact ended.trans (Still.told (Told.endEntry full p)).toSteady

theorem seat {s : Ptr} {id : String} {item : Item} (unclaimed : item.claimed = false)
    (free : ∀ p, d.entries id = some p → (d.items p).claimed = false)
    (vacant : (d.sessions s).committed = false) : Steady d (d.seat s id item) := by
  have session : Steady d (d.setSession s ((d.sessions s).setIdentity d.nextItem)) :=
    setSession (fun p keeps => by simp [Party.Keeps, vacant] at keeps)
      fun p keeps => by simp [Party.Keeps, vacant] at keeps
  refine { session with items := ?_, claimed := ?_, added := ?_, opened := ?_, listed := ?_ }
  · exact Nat.le_succ _
  · grind
  · grind
  · exact fun l hl => .inl hl
  · intro p old claimed listed
    unfold Directory.listed at listed ⊢
    grind

theorem takeID (full : List Ptr) (host : String) {s : Ptr} {hello : PeerHello}
    (free : ∀ p, d.entries (qualify hello.sessionID host) = some p → (d.items p).claimed = false)
    (vacant : (d.sessions s).committed = false) : Steady d (d.takeID full host s hello) := by
  unfold Directory.takeID
  simp only
  cases found : d.entries (qualify hello.sessionID host) with
  | none =>
    have owned := (Still.told (Told.newOwner (d := d)
      { id := qualify hello.sessionID host, token := ownerToken d.nextOwner })).toSteady
    exact owned.trans (seat rfl (fun p hp => free p hp) vacant)
  | some p =>
    have marked : Steady d (d.setItem p ((d.items p).setLifetime none)) := setItem rfl rfl
    have ended := marked.trans (endEntry full p)
    refine ended.trans (seat rfl (fun q hq => ?_) ?_)
    · have told := Told.endEntry (d := d.setItem p ((d.items p).setLifetime none)) full p
      rw [told.entries] at hq
      have := free q hq
      rw [told.items]
      grind
    · have told := Told.endEntry (d := d.setItem p ((d.items p).setLifetime none)) full p
      rw [((told.sessions s).keeps).2.2.2.1]
      exact vacant

theorem replacePeer (full : List Ptr) {s : Ptr} {hello : PeerHello} {old : Option Ptr}
    (free : ∀ p, d.entries (qualify hello.sessionID d.host) = some p → (d.items p).claimed = false)
    (own : ∀ o, old = some o → ∀ p, d.entries (d.items o).row.sessionID = some p →
      (d.items p).claimed = false)
    (vacant : (d.sessions s).committed = false) : Steady d (d.replacePeer full s hello old) := by
  unfold Directory.replacePeer
  split
  · exact takeID full d.host free vacant
  next o =>
    have told := Told.endEntry (d := d.setEntry (d.items o).row.sessionID none) full o
    have ended := (unlist (own o rfl)).trans (endEntry full o)
    refine ended.trans (takeID full d.host (fun p hp => ?_) ?_)
    · rw [told.entries] at hp
      have := free p
      rw [told.items]
      grind
    · rw [((told.sessions s).keeps).2.2.2.1]
      exact vacant

end Steady

theorem Claims.installPeer (h : d.Claims) (sound : d.Sound) {full : List Ptr} {s : Ptr}
    {value : PeerHello} (vacant : (d.sessions s).launch = none)
    (installed : d.installPeer full s value = some d') : Steady d d' := by
  have unclaimed p := h.peer_unclaimed sound (p := p)
  have uncommitted : (d.sessions s).committed = false := by
    cases committed : (d.sessions s).committed with
    | false => rfl
    | true => exact absurd vacant (sound.seats.committed s committed)
  obtain ⟨old, identity, -, -, rfl⟩ | ⟨old, identity, attached, peers, rfl⟩ :=
    installPeer_cases installed
  · exact Steady.setItem rfl rfl
  · refine Steady.replacePeer full (fun p hp => unclaimed p (peers p hp)) ?_ uncommitted
    rintro o rfl p hp
    have listed := (sound.holds.attached o s (attached o rfl).1).1
    rw [listed] at hp
    cases hp
    exact unclaimed o (sound.seats.peer s o vacant identity).1

/-! ## Launches -/

theorem Claims.launch_only (h : d.Claims) (sound : d.Sound) {l : Ptr} (hl : d.Open l) {c : Claimant}
    (claimable : d.Claimable (d.launches l).entry c) : c = .launch l :=
  h.only sound claimable ⟨hl, rfl⟩

theorem Claims.released (h : d.Claims) (sound : d.Sound) {l : Ptr} (hl : d.Open l) {x : Directory}
    (r : Released d l x) (entries : d'.entries = x.entries) (items : d'.items = x.items)
    (offlineClosing : d'.offlineClosing = x.offlineClosing)
    (opens : ∀ l', d.Open l' → l' ≠ l → d'.Open l' ∧ (d'.launches l').entry = (d.launches l').entry)
    (keeps : ∀ s p, (d'.sessions s).Keeps p ↔ (d.sessions s).Keeps p)
    (closed : ∀ s p, (d.sessions s).Keeps p → (d'.sessions s).closed = (d.sessions s).closed) :
    d'.Claims := by
  have same : ∀ p, p ≠ (d.launches l).entry → d'.items p = d.items p := by
    intro p other
    rw [items, r.items, Function.update_of_ne other]
  have closers : d'.offlineClosing = d.offlineClosing := offlineClosing.trans r.offlineClosing
  have concerns : Concerns (d.launches l).entry d d' := by
    refine ⟨same, fun p other listed => ?_, fun p _ => by rw [closers], fun l' hl' other => ?_,
      fun s p _ => keeps s p, fun s p _ => closed s p⟩
    · have entry : d.entries (d.items p).row.sessionID = some p := by
        simpa [Directory.listed] using listed
      have := (r.entries _ p).mpr (.inl ⟨entry, other⟩)
      simp [Directory.listed, same p other, entries, this]
    · exact opens l' hl' fun heq => other (by rw [heq])
  refine h.concerns concerns ⟨fun closing => ?_, fun s hk => ?_, fun claimed => ?_⟩
    (closers ▸ h.nodup)
  · rw [closers] at closing
    cases h.launch_only sound hl (c := .offlineClose) closing
  · rw [keeps] at hk
    cases h.launch_only sound hl (c := .session s) hk
  · simp [items, r.items] at claimed

theorem Claims.release (h : d.Claims) (sound : d.Sound) {l : Ptr} (hl : d.Open l) {x : Directory}
    (r : Released d l x) (answer : Answer) :
    ((x.setLaunch l ((x.launches l).setRevoked none)).reply l answer).Claims := by
  refine h.released sound hl r rfl rfl rfl (fun l' hl' other => ?_) (fun s p => ?_) fun s p _ => ?_
  · simp only [Directory.reply, Open, setLaunch_launches, setLaunch_nextLaunch, r.launches,
      r.nextLaunch, Function.update_of_ne other]
    exact ⟨hl', trivial⟩
  · have kept := (r.sessions s).keeps
    simp [Directory.reply, Party.Keeps, kept.1, kept.2.2.2.1, kept.2.2.2.2.2]
  · exact (r.sessions s).keeps.2.2.2.2.1

theorem Claims.abandon (h : d.Claims) (sound : d.Sound) {s l : Ptr}
    (launch : (d.sessions s).launch = some l) (uncommitted : (d.sessions s).committed = false)
    (running : (d.sessions s).returned = false) (full : List Ptr) {x : Directory}
    (entries : x.entries = (d.releaseLaunch full l).entries)
    (items : x.items = (d.releaseLaunch full l).items)
    (offlineClosing : x.offlineClosing = (d.releaseLaunch full l).offlineClosing)
    (nextLaunch : x.nextLaunch = (d.releaseLaunch full l).nextLaunch)
    (launches : ∀ l', l' ≠ l → x.launches l' = (d.releaseLaunch full l).launches l')
    (sessions : x.sessions = (d.releaseLaunch full l).sessions) :
    (x.setSession s (x.sessions s).return_).Claims := by
  have hl : d.Open l :=
    ⟨(sound.seats.lane s l launch).1, sound.seats.uncommitted s l launch uncommitted running⟩
  have r := sound.releaseLaunch hl full
  refine h.released sound hl r entries items offlineClosing (fun l' hl' other => ?_)
    (fun s' p => ?_) fun s' p keeps => ?_
  · simp only [Open, setSession_launches, setSession_nextLaunch, launches l' other, nextLaunch,
      r.launches, r.nextLaunch, Function.update_of_ne other]
    exact ⟨hl', trivial⟩
  · have kept := (r.sessions s').keeps
    by_cases heq : s' = s
    · subst heq
      simp [Party.Keeps, uncommitted, sessions, kept.2.2.2.1]
    · simp [Party.Keeps, Function.update_of_ne heq, sessions, kept.1, kept.2.2.2.1, kept.2.2.2.2.2]
  · have other : s' ≠ s := by
      rintro rfl
      simp [Party.Keeps, uncommitted] at keeps
    simp [Function.update_of_ne other, sessions, (r.sessions s').keeps.2.2.2.2.1]

theorem Claims.publish (h : d.Claims) (sound : d.Sound) {s l : Ptr}
    (launch : (d.sessions s).launch = some l) (may : d.mayPublish s l = true) (createdAt : Nat)
    (answer : Answer) :
    (((d.attach l s createdAt).setSession s (d.sessions s).commit).reply l answer).Claims := by
  have opening := mayPublish_opening may
  have hl := sound.open_session launch opening
  have uncommitted := (sound.seats.opening s opening).2.1
  have connected : (d.sessions s).closed = false := by
    have busy := sound.seats.busy s
    unfold Directory.mayPublish Party.reads at may
    grind
  have identity := (sound.seats.lane s l launch).2.2
  have id := (stamp_frame (d.entryOf l).row createdAt).1
  have concerns : Concerns (d.launches l).entry d
      (((d.attach l s createdAt).setSession s (d.sessions s).commit).reply l answer) := by
    refine ⟨fun p other => ?_, fun p other listed => ?_, fun p _ => by simp, fun l' hl' other => ?_,
      fun s' p other => ?_, fun s' p other keeps => ?_⟩
    · simp [attach_items, Function.update_of_ne other]
    · simpa [Directory.listed, attach_items, Function.update_of_ne other] using listed
    · have apart : l' ≠ l := fun heq => other (by rw [heq])
      simpa [Open, Function.update_of_ne apart] using hl'
    · by_cases hs : s' = s
      · subst hs
        simp [Party.Keeps, identity, uncommitted, Ne.symm other]
      · simp [Function.update_of_ne hs]
    · by_cases hs : s' = s
      · subst hs
        simp
      · simp [Function.update_of_ne hs]
  refine h.concerns concerns ⟨fun closing => ?_, fun s' keeps closed => ?_, fun claimed => ?_⟩
    (by simpa using h.nodup)
  · have before : (d.launches l).entry ∈ d.offlineClosing := by simpa using closing
    cases h.launch_only sound hl (c := .offlineClose) before
  · by_cases hs : s' = s
    · subst hs
      simp [connected] at closed
    · simp only [reply_sessions, setSession_sessions, Function.update_of_ne hs] at keeps
      cases h.launch_only sound hl (c := .session s') keeps
  · simp [attach_items] at claimed

/-! ## Sessions -/

theorem Claims.closeWritten (h : d.Claims) {s p : Ptr} (keeps : (d.sessions s).Keeps p)
    (attached : (d.items p).attachment = some s) (listed : d.listed p = true) :
    (d.setItem p ((d.items p).setClaimed true)).Claims := by
  have concerns : Concerns p d (d.setItem p ((d.items p).setClaimed true)) := by
    refine ⟨fun q other => ?_, fun q other listed => ?_, fun _ _ => Iff.rfl,
      fun l hl _ => ⟨hl, rfl⟩, fun _ _ _ => Iff.rfl, fun _ _ _ _ => rfl⟩
    · simp [Function.update_of_ne other]
    · simpa [Directory.listed, Function.update_of_ne other] using listed
  refine h.concerns concerns ⟨fun closing => ?_, fun s' hk hclosed => ?_,
    fun _ => ⟨.session s, keeps⟩⟩ h.nodup
  · have unattached := ((h.entry p).closer closing).2.2.1
    simp [attached] at unattached
  · exact ⟨by simp, by simpa [Directory.listed] using listed⟩

theorem Claims.lost (h : d.Claims) (sound : d.Sound) {s p : Ptr} (full : List Ptr)
    (running : (d.sessions s).returned = false) (attached : (d.items p).attachment = some s)
    (lane : (d.items p).peer = false) :
    (((d.endEntry full p).setItem p (((d.endEntry full p).items p).setClaimed true)).setSession s
      ((d.endEntry full p).sessions s).lost).Claims := by
  obtain ⟨listed, -, identity, -, committed⟩ := sound.holds.attached p s attached
  have told := Told.endEntry (d := d) full p
  have kept s' := (told.sessions s').keeps
  have lost := lost_lost ((d.endEntry full p).sessions s)
  have keeps : (((d.endEntry full p).sessions s).lost).Keeps p := by
    refine ⟨?_, ?_, ?_⟩
    · rw [lost.2.2.2.1, (kept s).2.2.2.1]
      exact committed lane
    · rw [lost.2.2.2.2.2, (kept s).2.2.2.2.2]
      exact running
    · rw [lost.1, (kept s).1]
      exact identity
  have concerns :
      Concerns p d
      (((d.endEntry full p).setItem p (((d.endEntry full p).items p).setClaimed true)).setSession s
        ((d.endEntry full p).sessions s).lost) := by
    refine ⟨fun q other => ?_, fun q other inMap => ?_, fun q _ => ?_, fun l hl _ => ?_,
      fun s' q other => ?_, fun s' q other hk => ?_⟩
    · simp [told.items, Function.update_of_ne other]
    · simpa [Directory.listed, told.items, told.entries, Function.update_of_ne other] using inMap
    · simp [told.offlineClosing]
    · simpa [Open, told.launches, told.nextLaunch] using hl
    · by_cases hs : s' = s
      · subst hs
        have before : ¬ (d.sessions s').Keeps q := fun hk =>
            other (by simpa [identity] using hk.2.2.symm)
        have after : ¬ (((d.endEntry full p).sessions s').lost).Keeps q := fun hk =>
          other (Option.some.inj (hk.2.2.symm.trans keeps.2.2))
        simp [before, after]
      · simp [Function.update_of_ne hs, Party.Keeps, (kept s').1, (kept s').2.2.2.1,
          (kept s').2.2.2.2.2]
    · have hs : s' ≠ s := by
        rintro rfl
        exact other (by simpa [identity] using hk.2.2.symm)
      simp [Function.update_of_ne hs, (kept s').2.2.2.2.1]
  refine h.concerns concerns
    ⟨fun closing => ?_, fun _ _ _ => ?_, fun _ => ⟨.session s, by simpa [Claimable] using keeps⟩⟩ ?_
  · have before : p ∈ d.offlineClosing := by simpa [told.offlineClosing] using closing
    have unattached := ((h.entry p).closer before).2.2.1
    simp [attached] at unattached
  · refine ⟨by simp, ?_⟩
    simpa [Directory.listed, told.items, told.entries] using listed
  · simpa [told.offlineClosing] using h.nodup

/-- Without a lane of its own the session claims nothing. -/
theorem Steady.lost {d₁ : Directory} {s : Ptr} (none : ∀ p, ¬ (d.sessions s).Keeps p)
    (steady : Steady d d₁) : Steady d (d₁.setSession s (d₁.sessions s).lost) := by
  refine steady.trans (Steady.setSession (fun p hk => none p ((steady.keeps s p).mp hk))
    fun p hk => ?_)
  have lost := lost_lost (d₁.sessions s)
  refine none p ((steady.keeps s p).mp ?_)
  exact ⟨lost.2.2.2.1 ▸ hk.1, lost.2.2.2.2.2 ▸ hk.2.1, lost.1 ▸ hk.2.2⟩

theorem Claims.detach (h : d.Claims) (sound : d.Sound) {s p : Ptr} {full : List Ptr}
    (later : Later d (((d.endEntry full p).leave p).setSession s
      (((d.endEntry full p).leave p).sessions s).lost))
    (running : (d.sessions s).returned = false) (identity : (d.sessions s).identity = some p)
    (attached : (d.items p).attachment = some s) :
    (((d.endEntry full p).leave p).setSession s
      (((d.endEntry full p).leave p).sessions s).lost).Claims := by
  have told := Told.endEntry (d := d) full p
  have kind : ((d.endEntry full p).items p).peer = (d.items p).peer := by simp [told.items]
  unfold Directory.leave at later ⊢
  split
  case isTrue peer =>
    rw [if_pos peer] at later
    refine h.steady sound later (.lost (fun q hk => ?_) ?_)
    · obtain ⟨l, -, hlt, -, entry, -⟩ := sound.keeps_entry hk
      have lane : (d.items p).peer = false := by
        rw [Option.some.inj (identity.symm.trans hk.2.2), ← entry]
        exact (sound.shape.laneEntry l hlt).2
      simp [kind, lane] at peer
    · refine (Steady.endEntry full p).trans (Steady.unlist fun q hq => ?_)
      have row : ((d.endEntry full p).items p).row = (d.items p).row := by simp [told.items]
      have same : p = q := by
        rw [told.entries, row] at hq
        exact Option.some.inj ((sound.holds.attached p s attached).1.symm.trans hq)
      have claim : ((d.endEntry full p).items p).claimed = (d.items p).claimed := by
        simp [told.items]
      rw [← same, claim]
      exact h.peer_unclaimed sound (kind ▸ peer)
  case isFalse lane =>
    exact h.lost sound full running attached (by simpa [kind] using lane)

theorem offline_maps (d : Directory) (p s : Ptr) (forget : Bool) :
    (∀ q, q ≠ p → (d.offline p s forget).items q = d.items q) ∧
      ((d.offline p s forget).items p).claimed = false ∧
      ((d.offline p s forget).items p).attachment = (if (d.items p).attachment = some s then none
      else (d.items p).attachment) ∧ ((d.offline p s forget).items p).row = (d.items p).row ∧
      (d.offline p s forget).offlineClosing = d.offlineClosing ∧
      (d.offline p s forget).entries =
        if forget && d.listed p then Function.update d.entries (d.items p).row.sessionID none
        else d.entries := by
  unfold Directory.offline Directory.forgetEntry
  extract_lets item item' d'
  have row : item'.row = item.row := by simp only [item']; split <;> rfl
  have attachment : item'.attachment =
      if item.attachment = some s then none else item.attachment := by
    simp only [item']
    split <;> simp_all
  have listed : d'.listed p = d.listed p := by simp [d', Directory.listed, row, item]
  have same : ∀ q, q ≠ p → d'.items q = d.items q := fun q other => by
    simp [d', Function.update_of_ne other]
  rw [listed]
  cases forget <;> cases d.listed p
  all_goals simp [d', row, attachment, item]
  all_goals exact ⟨same, rfl⟩

theorem Claims.retire (h : d.Claims) (sound : d.Sound) {s p : Ptr} (keeps : (d.sessions s).Keeps p)
    (forget : Bool) :
    ((d.offline p s forget).setSession s ((d.offline p s forget).sessions s).return_).Claims := by
  obtain ⟨same, unclaimed, -, -, closers, entries⟩ := offline_maps d p s forget
  obtain ⟨sessions, launches, -, nextLaunch⟩ := offline_frame d p s forget
  have returned : ∀ q, ¬ ((d.sessions s).return_).Keeps q := fun q hk => by simp [Party.Keeps] at hk
  have concerns : Concerns p d
      ((d.offline p s forget).setSession s ((d.offline p s forget).sessions s).return_) := by
    refine ⟨same, fun q other listed => ?_, fun q _ => by simp [closers], fun l hl _ => ?_,
      fun s' q other => ?_, fun s' q other hk => ?_⟩
    · have entry : d.entries (d.items q).row.sessionID = some q := by
        simpa [Directory.listed] using listed
      have kept : (d.offline p s forget).entries (d.items q).row.sessionID = some q := by
        rw [entries]
        split
        next gone =>
          simp only [Directory.listed, Bool.and_eq_true, beq_iff_eq] at gone
          have apart : (d.items q).row.sessionID ≠ (d.items p).row.sessionID := by
            intro heq
            rw [heq, gone.2] at entry
            exact other (Option.some.inj entry).symm
          rw [Function.update_of_ne apart]
          exact entry
        · exact entry
      simp [Directory.listed, same q other, kept]
    · simpa [Open, launches, nextLaunch] using hl
    · by_cases hs : s' = s
      · subst hs
        have before : ¬ (d.sessions s').Keeps q := fun hk =>
            other (Option.some.inj (hk.2.2.symm.trans keeps.2.2))
        simp [sessions, before, returned q]
      · simp [sessions, Function.update_of_ne hs]
    · have hs : s' ≠ s := by
        rintro rfl
        exact other (Option.some.inj (hk.2.2.symm.trans keeps.2.2))
      simp [sessions, Function.update_of_ne hs]
  refine h.concerns concerns ⟨fun closing => ?_, fun s' hk => ?_, fun claimed => ?_⟩
    (by simpa [closers] using h.nodup)
  · have before : p ∈ d.offlineClosing := by simpa [closers] using closing
    exact absurd keeps (((h.entry p).closer before).2.2.2.2 s)
  · by_cases hs : s' = s
    · subst hs
      simp only [setSession_sessions, Function.update_self, sessions] at hk
      exact absurd hk (returned p)
    · simp only [setSession_sessions, Function.update_of_ne hs, sessions] at hk
      have same := h.only sound (show d.Claimable p (.session s') from hk)
          (show d.Claimable p (.session s) from keeps)
      exact absurd (Claimant.session.inj same) hs
  · simp [unclaimed] at claimed

theorem Claims.finish (h : d.Claims) (sound : d.Sound) {s : Ptr}
    (running : (d.sessions s).returned = false) (full : List Ptr) (deleted : Bool) :
    (d.finish full s deleted).Claims := by
  cases hl : (d.sessions s).launch with
  | none =>
    have uncommitted : (d.sessions s).committed = false := by
      cases committed : (d.sessions s).committed with
      | false => rfl
      | true => exact absurd hl (sound.seats.committed s committed)
    have still : Still d (d.setSession s (d.sessions s).return_) :=
      Still.unpublished uncommitted uncommitted
    simpa [Directory.finish, hl] using h.steady sound (Later.setSession s _) still.toSteady
  | some l =>
    have identity := (sound.seats.lane s l hl).2.2
    unfold Directory.finish
    simp only [hl, identity]
    cases hc : (d.sessions s).committed with
    | false =>
      cases (d.sessions s).launchResult with
      | none => exact h.abandon sound hl hc running full rfl rfl rfl rfl (fun _ _ => rfl) rfl
      | some answer =>
        refine h.abandon sound (x := (d.releaseLaunch full l).reply l answer) hl hc running full
          rfl rfl rfl rfl (fun l' other => ?_) rfl
        simp [Function.update_of_ne other]
    | true =>
      have keeps : (d.sessions s).Keeps (d.launches l).entry := ⟨hc, running, identity⟩
      cases (d.sessions s).launchResult with
      | none => exact h.retire sound keeps _
      | some answer =>
        have replied : (d.reply l answer).Claims :=
          h.steady sound (Later.reply l answer) (Still.reply l answer).toSteady
        have retired := replied.retire (sound.reply l answer) (s := s) keeps
            ((d.sessions s).forget && deleted)
        simpa using retired

/-! ## Offline closes -/

theorem Claims.claimOffline (h : d.Claims) (sound : d.Sound) {p : Ptr} (listed : d.listed p = true)
    (lane : (d.items p).peer = false) (unattached : (d.items p).attachment = none)
    (unclaimed : (d.items p).claimed = false) :
    Claims { d.setItem p ((d.items p).setClaimed true) with
      offlineClosing := d.offlineClosing ++ [p] } := by
  have fresh : p ∉ d.offlineClosing := by
    intro closing
    have := ((h.entry p).closer closing).2.2.2.1
    simp [unclaimed] at this
  have nobody : ∀ s, ¬ (d.sessions s).Keeps p := by
    intro s keeps
    cases closed : (d.sessions s).closed with
    | true =>
      have claimed := ((h.entry p).cleanup s keeps closed).1
      simp [unclaimed] at claimed
    | false => simp [sound.holds.live s p keeps.1 closed keeps.2.2] at unattached
  have concerns :
      Concerns p d
      { d.setItem p ((d.items p).setClaimed true) with
        offlineClosing := d.offlineClosing ++ [p] } := by
    refine ⟨fun q other => ?_, fun q other listed => ?_, fun q other => ?_, fun l hl _ => ⟨hl, rfl⟩,
      fun _ _ _ => Iff.rfl, fun _ _ _ _ => rfl⟩
    · simp [Function.update_of_ne other]
    · simpa [Directory.listed, Function.update_of_ne other] using listed
    · simp [other]
  refine h.concerns concerns ⟨fun _ => ?_, fun s keeps => absurd keeps (nobody s),
    fun _ => ⟨.offlineClose, ?_⟩⟩ ?_
  · exact ⟨by simpa using lane, by simpa [Directory.listed] using listed, by simpa using unattached,
      by simp, nobody⟩
  · simp [Claimable]
  · simpa using List.Nodup.concat fresh h.nodup

/-- A close of an offline lane finds its claim as it left it. -/
theorem finishOfflineClose_eq {p : Ptr} (listed : d.listed p = true)
    (unattached : (d.items p).attachment = none) (claimed : (d.items p).claimed = true)
    (forget deleted : Bool) :
    let d' := d.finishOfflineClose p forget deleted
    d'.items = Function.update d.items p ((d.items p).setClaimed false) ∧
      d'.offlineClosing = d.offlineClosing.erase p ∧ d'.launches = d.launches ∧
      d'.nextLaunch = d.nextLaunch ∧ d'.sessions = d.sessions ∧
      d'.entries =
        if forget && deleted then Function.update d.entries (d.items p).row.sessionID none
        else d.entries := by
  have eqn : d.finishOfflineClose p forget deleted =
      let d₁ := ({ d with offlineClosing := d.offlineClosing.erase p } : Directory).setItem p
        ((d.items p).setClaimed false)
      if forget && deleted then
        let d₂ := d₁.setEntry (d.items p).row.sessionID none
        if d₁.names (d.items p).row.name = some p then d₂.setName (d.items p).row.name none else d₂
      else d₁ := by
    have inMap : ({ d with offlineClosing := d.offlineClosing.erase p } : Directory).listed p =
        true := listed
    unfold Directory.finishOfflineClose
    exact if_pos (by simp [inMap, unattached, claimed])
  intro d'
  have same : d' = _ := eqn
  rw [same]
  cases forget && deleted with
  | true =>
    simp only [if_true]
    split <;> exact ⟨rfl, rfl, rfl, rfl, rfl, rfl⟩
  | false => exact ⟨rfl, rfl, rfl, rfl, rfl, rfl⟩

theorem Claims.finishOfflineClose (h : d.Claims) {p : Ptr} (closing : p ∈ d.offlineClosing)
    (forget deleted : Bool) : (d.finishOfflineClose p forget deleted).Claims := by
  obtain ⟨-, listed, unattached, claimed, nobody⟩ := (h.entry p).closer closing
  have listed' : d.entries (d.items p).row.sessionID = some p := by
    simpa [Directory.listed] using listed
  obtain ⟨items, closers, launches, nextLaunch, sessions, entries⟩ :=
    finishOfflineClose_eq listed unattached claimed forget deleted
  have same : ∀ q, q ≠ p → (d.finishOfflineClose p forget deleted).items q = d.items q :=
    fun q other => by
    rw [items, Function.update_of_ne other]
  have concerns : Concerns p d (d.finishOfflineClose p forget deleted) := by
    refine ⟨same, fun q other hq => ?_, fun q other => ?_, fun l hl _ => ?_,
      fun s q _ => by rw [sessions], fun s q _ _ => by rw [sessions]⟩
    · have entry : d.entries (d.items q).row.sessionID = some q := by
        simpa [Directory.listed] using hq
      have kept : (d.finishOfflineClose p forget deleted).entries (d.items q).row.sessionID =
          some q := by
        rw [entries]
        split
        · have apart : (d.items q).row.sessionID ≠ (d.items p).row.sessionID := by
            intro heq
            rw [heq, listed'] at entry
            exact other (Option.some.inj entry).symm
          rw [Function.update_of_ne apart]
          exact entry
        · exact entry
      simp [Directory.listed, same q other, kept]
    · rw [closers]
      exact List.mem_erase_of_ne other
    · simpa [Open, launches, nextLaunch] using hl
  refine h.concerns concerns ⟨fun closing' => ?_, fun s keeps => ?_, fun claimed' => ?_⟩ ?_
  · rw [closers] at closing'
    exact absurd closing' h.nodup.not_mem_erase
  · rw [sessions] at keeps
    exact absurd keeps (nobody s)
  · simp [items] at claimed'
  · rw [closers]
    exact h.nodup.erase p

/-! ## Steps and runs -/

theorem Claims.step (h : d.Claims) (sound : d.Sound) (a : Action) : (d.step a).Claims := by
  have does := d.does a
  have later := Later.step sound a
  generalize d.step a = d' at does later ⊢
  cases marks : a.marks with
  | false => exact h.steady sound later (does.still sound marks).toSteady
  | true =>
    cases does with
    | routine routine => exact h.steady sound later (routine.still sound).toSteady
    | hello s value full vacant _ _ _ _ installed =>
      exact h.steady sound later (h.installPeer sound vacant installed)
    | release l full revoked =>
      have hl := (sound.seats.revoked l (by simp [revoked])).1
      exact h.release sound hl (sound.releaseLaunch hl full) _
    | publish s l _ answer launch _ may => exact h.publish sound launch may _ answer
    | closeWritten s p committed running identity reads =>
      have attached := sound.holds.live s p committed reads identity
      exact h.closeWritten ⟨committed, running, identity⟩ attached
        (by simpa [Directory.listed] using (sound.holds.attached p s attached).1)
    | lost s full reads _ apart =>
      exact h.steady sound later
        (.lost (fun p hk => apart p hk.2.2 (sound.holds.live s p hk.1 reads hk.2.2)) (.refl d))
    | detach s full p running _ identity attached =>
      exact h.detach sound later running identity attached
    | finish s deleted full running => exact h.finish sound running full deleted
    | closeOffline p listed lane unattached unclaimed =>
      exact h.claimOffline sound listed lane unattached unclaimed
    | finishOfflineClose p forget deleted closing =>
      exact h.finishOfflineClose closing forget deleted
    | _ => cases marks

theorem Claims.run (h : d.Claims) (sound : d.Sound) (actions : List Action) :
    (d.run actions).Claims := by
  induction actions generalizing d with
  | nil => exact h
  | cons a actions ih => exact ih (h.step sound a) (sound.step a)

theorem loaded_unclaimed (rows : List Row) (h : ∀ p, (d.items p).claimed = false) :
    ∀ p, ((rows.foldl addRow d).items p).claimed = false := by
  induction rows generalizing d with
  | nil => exact h
  | cons row rows ih =>
    refine ih fun p => ?_
    have := h p
    simp only [addRow_items]
    grind

theorem claims_newDirectory (host : String) (u : Unicode) (rows : List Row) :
    (newDirectory host u rows).Claims := by
  rw [newDirectory_eq]
  have loaded : (rows.foldl addRow { host, unicode := u }).Loaded :=
    loaded_rows rows ⟨by simp, by simp, rfl, rfl, rfl, rfl, rfl⟩
  have unclaimed := loaded_unclaimed (d := { host, unicode := u }) rows fun _ => rfl
  refine ⟨fun p => ⟨fun closing => ?_, fun s keeps => ?_, fun claimed => ?_⟩, ?_⟩
  · simp [loaded.offlineClosing] at closing
  · simp [loaded.sessions, Party.Keeps] at keeps
  · simp [unclaimed p] at claimed
  · simp [loaded.offlineClosing]

/-! ## Who takes and who releases -/

/-- The claimant that acts in a step. -/
def Acts (d : Directory) : Action → Ptr → Claimant → Prop
  | .publish _ l _ _, _, c => c = .launch l
  | .release l _, _, c => c = .launch l
  | .closeWritten s, _, c => c = .session s
  | .disconnect s _, _, c => c = .session s
  | .finish s _ _, _, c => c = .session s ∨ ∃ l, (d.sessions s).launch = some l ∧ c = .launch l
  | .closeOffline q, p, c => q = p ∧ c = .offlineClose
  | .finishOfflineClose q _ _, p, c => q = p ∧ c = .offlineClose
  | _, _, _ => False

theorem Sound.detach_acts (h : d.Sound) {s p q : Ptr} {full : List Ptr}
    (running : (d.sessions s).returned = false) (identity : (d.sessions s).identity = some q)
    (attached : (d.items q).attachment = some s)
    (changed : (((d.endEntry full q).leave q).items p).claimed ≠ (d.items p).claimed) :
    (d.sessions s).Keeps p := by
  have told := Told.endEntry (d := d) full q
  unfold Directory.leave at changed
  have same : p = q := by
    by_contra other
    refine changed ?_
    split <;> simp [told.items, Function.update_of_ne other]
  subst same
  split at changed
  · exact absurd (by simp [told.items]) changed
  next lane =>
    have lane' : (d.items p).peer = false := by simpa [told.items] using lane
    exact ⟨(h.holds.attached p s attached).2.2.2.2 lane', running, identity⟩

theorem Sound.finish_acts (h : d.Sound) {s p : Ptr} {deleted : Bool} {full : List Ptr}
    (running : (d.sessions s).returned = false)
    (changed : ((d.finish full s deleted).items p).claimed ≠ (d.items p).claimed) :
    (∃ l, (d.sessions s).launch = some l ∧ d.Open l ∧ (d.launches l).entry = p) ∨
    (d.sessions s).Keeps p := by
  cases launch : (d.sessions s).launch with
  | none => exact absurd (by simp [Directory.finish, launch]) changed
  | some l =>
    obtain ⟨hlt, -, identity⟩ := h.seats.lane s l launch
    simp only [Directory.finish, launch, identity] at changed
    cases committed : (d.sessions s).committed with
    | false =>
      have hl : d.Open l := ⟨hlt, h.seats.uncommitted s l launch committed running⟩
      refine .inl ⟨l, rfl, hl, ?_⟩
      by_contra other
      refine changed ?_
      cases (d.sessions s).launchResult <;>
        simp [committed, (h.releaseLaunch hl full).items, Function.update_of_ne (Ne.symm other)]
    | true =>
      refine .inr ⟨committed, running, ?_⟩
      by_contra other
      have apart : p ≠ (d.launches l).entry := by
        rintro rfl
        exact other identity
      refine changed ?_
      simp only [committed, if_true, setSession_items]
      rw [(offline_maps _ _ _ _).1 p apart]
      cases (d.sessions s).launchResult <;> rfl

/-- A step changes the claim of an entry only for the claimant that acts. -/
theorem Claims.acts (h : d.Claims) (sound : d.Sound) {a : Action} (does : Does d a d') {p : Ptr}
    (old : p < d.nextItem) (changed : (d'.items p).claimed ≠ (d.items p).claimed) :
    ∃ c, d.Acts a p c ∧ (d.Claimable p c ∨ (d.items p).claimed = false ∧ d'.Claimable p c) := by
  cases marks : a.marks with
  | false => exact absurd ((does.still sound marks).claimed p old) changed
  | true =>
    cases does with
    | routine routine => exact absurd ((routine.still sound).claimed p old) changed
    | hello s value full vacant _ _ _ _ installed =>
      exact absurd ((h.installPeer sound vacant installed).claimed p old) changed
    | release l full revoked =>
      have hl := (sound.seats.revoked l (by simp [revoked])).1
      have r := sound.releaseLaunch hl full
      refine ⟨.launch l, rfl, .inl ⟨hl, ?_⟩⟩
      by_contra other
      refine changed ?_
      simp [r.items, Function.update_of_ne (Ne.symm other)]
    | publish s l _ answer launch _ may =>
      refine ⟨.launch l, rfl, .inl ⟨sound.open_session launch (mayPublish_opening may), ?_⟩⟩
      by_contra other
      refine changed ?_
      simp [attach_items, Function.update_of_ne (Ne.symm other)]
    | closeWritten s q committed running identity =>
      refine ⟨.session s, rfl, .inl ⟨committed, running, ?_⟩⟩
      by_contra other
      refine changed ?_
      have apart : p ≠ q := by
        rintro rfl
        exact other identity
      simp [Function.update_of_ne apart]
    | lost => exact absurd rfl changed
    | detach s full q running _ identity attached =>
      exact ⟨.session s, rfl, .inl (sound.detach_acts running identity attached changed)⟩
    | finish s deleted full running =>
      obtain ⟨l, launch, claimable⟩ | keeps := sound.finish_acts running changed
      · exact ⟨.launch l, .inr ⟨l, launch, rfl⟩, .inl claimable⟩
      · exact ⟨.session s, .inl rfl, .inl keeps⟩
    | closeOffline q _ _ _ unclaimed =>
      have same : q = p := by
        by_contra other
        exact changed (by simp [Function.update_of_ne (Ne.symm other)])
      subst same
      exact ⟨.offlineClose, ⟨rfl, rfl⟩, .inr ⟨unclaimed, by simp [Claimable]⟩⟩
    | finishOfflineClose q forget deleted closing =>
      obtain ⟨-, listed, unattached, claimed, -⟩ := (h.entry q).closer closing
      have same : q = p := by
        by_contra other
        refine changed ?_
        rw [(finishOfflineClose_eq listed unattached claimed forget deleted).1,
          Function.update_of_ne (Ne.symm other)]
      subst same
      exact ⟨.offlineClose, ⟨rfl, rfl⟩, .inl closing⟩
    | _ => cases marks

theorem Claims.replaced (h : d.Claims) (sound : d.Sound) {l q : Ptr} (hl : d.Open l)
    (previous : (d.launches l).previous = some q) (c : Claimant) : ¬ d.Claimable q c := by
  obtain ⟨unclaimed, unattached⟩ := sound.holds.kept l q hl previous
  intro claimable
  cases c with
  | launch k =>
    obtain ⟨hk, rfl⟩ := claimable
    exact absurd (sound.holds.claimed k hk).1 (by simp [unclaimed])
  | session s =>
    cases closed : (d.sessions s).closed with
    | true =>
      have claimed := ((h.entry q).cleanup s claimable closed).1
      simp [unclaimed] at claimed
    | false => simp [sound.holds.live s q claimable.1 closed claimable.2.2] at unattached
  | offlineClose =>
    have claimed := ((h.entry q).closer claimable).2.2.2.1
    simp [unclaimed] at claimed

/-- A claimed entry is claimed by one launch, one session or one offline close; the entry that a
resume replaced is free until it comes back; a step changes a claim only for its claimant; and an
offline close finds its claim as it left it. -/
theorem claims_exclusive (host : String) (u : Unicode) (rows : List Row) (actions : List Action) :
    let d := (newDirectory host u rows).run actions
    (∀ p, (d.items p).claimed = true → ∃ c, d.Claimable p c ∧ ∀ c', d.Claimable p c' → c' = c) ∧
      (∀ l q, d.Open l → (d.launches l).previous = some q →
        (d.items q).claimed = false ∧ d.listed q = false ∧ d.listed (d.launches l).entry = true ∧
        ∀ c, ¬ d.Claimable q c) ∧
      (∀ a p, p < d.nextItem → ((d.step a).items p).claimed ≠ (d.items p).claimed →
        ∃ c, d.Acts a p c ∧
          (d.Claimable p c ∨ (d.items p).claimed = false ∧ (d.step a).Claimable p c)) ∧
      ∀ p ∈ d.offlineClosing, d.listed p = true ∧ (d.items p).attachment = none ∧
        (d.items p).claimed = true ∧ d.offlineClosing.count p = 1 := by
  intro d
  have sound : d.Sound := (sound_newDirectory host u rows).run actions
  have claims : d.Claims :=
    (claims_newDirectory host u rows).run (sound_newDirectory host u rows) actions
  refine ⟨fun p claimed => ?_, fun l q hl previous => ?_,
    fun a p old changed => claims.acts sound (d.does a) old changed, fun p closing => ?_⟩
  · obtain ⟨c, claimable⟩ := (claims.entry p).held claimed
    exact ⟨c, claimable, fun c' other => claims.only sound other claimable⟩
  · refine ⟨(sound.holds.kept l q hl previous).1, ?_, ?_, claims.replaced sound hl previous⟩
    · cases listed : d.listed q with
      | false => rfl
      | true => exact absurd previous (sound.listed_previous listed hl)
    · simpa [Directory.listed] using (sound.shape.resumed l q hl previous).1
  · obtain ⟨-, listed, unattached, claimed, -⟩ := (claims.entry p).closer closing
    exact ⟨listed, unattached, claimed, List.count_eq_one_of_mem claims.nodup closing⟩

end Directory

end Sessionbus
