import Sessionbus.Directory.Named

/-!
# Where rows come from

A step makes a new row for a hello and for a spawn, and changes the others only a little: a lane
gets its ID, its creation time and a new policy, and a peer a new name. What holds of all new rows
and does not depend on these holds of every row in every run.
-/

namespace Sessionbus

namespace Directory

attribute [local grind =] Function.update_apply

variable {d d' : Directory}

/-! ## Steps that leave the rows -/

namespace SameRows

theorem items (host : d'.host = d.host) (unicode : d'.unicode = d.unicode)
    (items : d'.items = d.items) : SameRows d d' :=
  ⟨host, unicode, fun p => by rw [items]; exact ⟨rfl, rfl⟩⟩

theorem setItem {p : Ptr} {v : Item} (row : v.row = (d.items p).row)
    (peer : v.peer = (d.items p).peer) : SameRows d (d.setItem p v) :=
  (Alike.setItem row peer).toSameRows

theorem endEntry (full : List Ptr) (p : Ptr) : SameRows d (d.endEntry full p) :=
  (Alike.endEntry full p).toSameRows

theorem restore (l : Ptr) : SameRows d (d.restore l) := by
  unfold Directory.restore
  simp only
  cases (d.launches l).previous <;> simp only <;> split
  all_goals first | exact refl d | exact items rfl rfl rfl | (split <;> exact items rfl rfl rfl)

theorem releaseLaunch (full : List Ptr) (l : Ptr) : SameRows d (d.releaseLaunch full l) := by
  unfold Directory.releaseLaunch
  simp only
  split
  · have dropped : SameRows d (d.setTokens (d.tokens.filter (· != l))) := items rfl rfl rfl
    have freed := dropped.trans (setItem (p := (d.launches l).entry)
      (v := (d.items (d.launches l).entry).setClaimed false) rfl rfl)
    have ended := freed.trans (endEntry full (d.launches l).entry)
    refine trans ?_ (restore l)
    exact ended.trans (items rfl rfl rfl)
  · exact items rfl rfl rfl

theorem forgetEntry (p : Ptr) : SameRows d (d.forgetEntry p) := by
  unfold Directory.forgetEntry
  split
  · exact items rfl rfl rfl
  · exact refl d

theorem offline (p s : Ptr) (forget : Bool) : SameRows d (d.offline p s forget) := by
  unfold Directory.offline
  extract_lets item item' d₁
  have marked : SameRows d d₁ := by
    refine setItem ?_ ?_ <;> simp only [item', item, Item.setClaimed_row, Item.setClaimed_peer] <;>
      split <;> rfl
  split
  · exact marked.trans (forgetEntry p)
  · exact marked

theorem finishOfflineClose (p : Ptr) (forget deleted : Bool) :
    SameRows d (d.finishOfflineClose p forget deleted) := by
  unfold Directory.finishOfflineClose
  simp only
  have erased : SameRows d { d with offlineClosing := d.offlineClosing.erase p } :=
    items rfl rfl rfl
  split
  · have marked := erased.trans (setItem (v := (d.items p).setClaimed false) rfl rfl)
    split
    · split
      · exact marked.trans (items rfl rfl rfl)
      · exact marked.trans (items rfl rfl rfl)
    · exact marked
  · exact erased

theorem finish (full : List Ptr) (s : Ptr) (deleted : Bool) :
    SameRows d (d.finish full s deleted) := by
  unfold Directory.finish
  simp only
  refine trans ?_ (Alike.setSession s _).toSameRows
  split
  next l item _ _ =>
    have released :
        SameRows d (if (d.sessions s).committed then d else d.releaseLaunch full l) := by
      split
      · exact refl d
      · exact releaseLaunch full l
    generalize (if (d.sessions s).committed then d else d.releaseLaunch full l) = d₁ at released
    have ended : ∀ d₂, SameRows d d₂ →
        SameRows d
        (if (d.sessions s).committed then d₂.offline item s ((d.sessions s).forget && deleted)
          else d₂) := by
      intro d₂ same
      split
      · exact same.trans (offline item s _)
      · exact same
    cases (d.sessions s).launchResult with
    | some answer => exact ended (d₁.reply l answer) (released.trans (items rfl rfl rfl))
    | none => exact ended d₁ released
  · exact refl d

end SameRows

/-! ## New rows -/

/-- The rows that an action can add, for a peer or for a lane. -/
def Adds (d : Directory) : Action → Bool → Row → Prop
  | .hello s value _, peer, row =>
    peer = true ∧ row = (peerItem d.host s value none).row ∧
    validIDPart d.unicode value.sessionID = true ∧
      (value.name = "" ∨ validNamePart d.unicode value.name = true) ∧ validHost value.product = true
  | .spawn s input, peer, row =>
    peer = false ∧ input.resumeSessionID = "" ∧ ∃ p, (d.sessions s).identity = some p ∧
    d.current p s = true ∧
      spawnRow d.unicode d.host (d.federationCaller p) input = some row
  | .remoteSpawn caller input, peer, row =>
    peer = false ∧ input.resumeSessionID = "" ∧ spawnRow d.unicode d.host caller input = some row
  | _, _, _ => False

/-- What does not depend on the parts of a row that change. -/
structure Lasting (K : Bool → Row → Prop) : Prop where
  lane : ∀ row sessionID createdAt, K false row → K false { row with sessionID, createdAt }
  resumed : ∀ row input owner policy, normalizePolicy input row.policy owner = some policy →
    K false row → K false { row with policy := some policy }
  peer : ∀ row name, K true row → K true { row with name }
  described : ∀ product, K false { product }

/-- The same, for names that a peer can take on this host. -/
structure Renews (host : String) (u : Unicode) (K : Bool → Row → Prop) : Prop where
  lane : ∀ row sessionID createdAt, K false row → K false { row with sessionID, createdAt }
  resumed : ∀ row input owner policy, normalizePolicy input row.policy owner = some policy →
    K false row → K false { row with policy := some policy }
  peer : ∀ row name, name = "" ∨ validNamePart u name = true → K true row →
    K true { row with name := qualify name host }
  described : ∀ product, K false { product }

theorem Lasting.renews {K : Bool → Row → Prop} (rule : Lasting K) (host : String) (u : Unicode) :
    Renews host u K where
  lane := rule.lane
  resumed := rule.resumed
  peer row _ _ := rule.peer row _
  described := rule.described

/-- It holds of every entry there has been, on this host. -/
structure Every (K : Bool → Row → Prop) (host : String) (u : Unicode) (d : Directory) : Prop where
  host : d.host = host
  unicode : d.unicode = u
  rows : ∀ p, K (d.items p).peer (d.items p).row

variable {K : Bool → Row → Prop} {host : String} {u : Unicode}

theorem Renews.stamp (rule : Renews host u K) {row : Row} (h : K false row) (createdAt : Nat) :
    K false (stamp row createdAt) := by
  unfold Directory.stamp
  split
  · exact h
  · exact rule.lane row row.sessionID _ h

namespace Every

theorem same (h : d.Every K host u) (s : SameRows d d') : d'.Every K host u where
  host := s.host.trans h.host
  unicode := s.unicode.trans h.unicode
  rows p := by
    rw [(s.rows p).1, (s.rows p).2]
    exact h.rows p

theorem alike (h : d.Every K host u) (a : Alike d d') : d'.Every K host u := h.same a.toSameRows

theorem updated (h : d.Every K host u) (same_host : d'.host = d.host)
    (unicode : d'.unicode = d.unicode) {p : Ptr} {v : Item}
    (items : d'.items = Function.update d.items p v) (new : K v.peer v.row) :
    d'.Every K host u where
  host := same_host.trans h.host
  unicode := unicode.trans h.unicode
  rows q := by
    rw [items, Function.update_apply]
    split
    · exact new
    · exact h.rows q

theorem setItem (h : d.Every K host u) {p : Ptr} {v : Item} (new : K v.peer v.row) :
    (d.setItem p v).Every K host u :=
  h.updated rfl rfl rfl new

theorem addLaunch (h : d.Every K host u) (item : Item) (launch : Launch)
    (new : K item.peer item.row) : (d.addLaunch item launch).Every K host u :=
  h.updated rfl rfl rfl new

theorem seat (h : d.Every K host u) {s : Ptr} {id : String} {item : Item}
    (new : K item.peer item.row) : (d.seat s id item).Every K host u :=
  h.updated rfl rfl rfl new

theorem lane (h : d.Every K host u) {p : Ptr} (lane : (d.items p).peer = false) :
    K false (d.items p).row := by
  have := h.rows p
  rwa [lane] at this

theorem takeID (h : d.Every K host u) (full : List Ptr) {s : Ptr} {hello : PeerHello}
    (new : K true (peerItem host s hello none).row) :
    (d.takeID full host s hello).Every K host u := by
  unfold Directory.takeID
  simp only
  split
  next found _ =>
    have marked : SameRows d (d.setItem found ((d.items found).setLifetime none)) :=
      SameRows.setItem rfl rfl
    exact (h.same (marked.trans (SameRows.endEntry full found))).seat new
  · exact (h.alike (.told (Told.newOwner _))).seat new

theorem installPeer (h : d.Every K host u) (rule : Renews host u K) {full : List Ptr} {s : Ptr}
    {hello : PeerHello}
    (peer : ∀ old, (d.sessions s).identity = some old → (d.items old).peer = true)
    (name : hello.name = "" ∨ validNamePart u hello.name = true)
    (new : K true (peerItem host s hello none).row) (heq : d.installPeer full s hello = some d') :
    d'.Every K host u := by
  obtain ⟨old, identity, -, -, rfl⟩ | ⟨old, -, -, -, rfl⟩ := installPeer_cases heq
  · refine h.setItem ?_
    have kept := h.rows old
    rw [peer old identity] at kept
    rw [Item.setRow_peer, Item.setRow_row, peer old identity]
    rw [h.host]
    exact rule.peer _ _ name kept
  · unfold Directory.replacePeer
    rw [h.host]
    cases old with
    | none => exact h.takeID full new
    | some o =>
      have unlisted : SameRows d (d.setEntry (d.items o).row.sessionID none) :=
        SameRows.items rfl rfl rfl
      exact (h.same (unlisted.trans (SameRows.endEntry full o))).takeID full new

theorem reserveResume (h : d.Every K host u) (rule : Renews host u K) {id : String}
    {groups : List String} {parent : Ptr} {input : LaneSpawnRequest}
    (heq : d.reserveResume id groups parent input = some d') : d'.Every K host u := by
  unfold Directory.reserveResume at heq
  split at heq
  · cases heq
  next previous _ =>
    simp only [Option.ite_none_left_eq_some, Option.map_eq_some_iff] at heq
    obtain ⟨guard, policy, normal, rfl⟩ := heq
    have lane : (d.items previous).peer = false := by
      by_contra peer
      exact guard (by simp [eq_true_of_ne_false peer])
    have added :=
      h.addLaunch (.reserved { (d.items previous).row with policy := some policy } (some parent))
      { parent := some parent, previous := some previous,
        product := (d.items previous).row.product }
      (rule.resumed _ input _ policy normal (h.lane lane))
    exact added.same (SameRows.items rfl rfl rfl)

theorem spawnHere (h : d.Every K host u) (rule : Renews host u K) {parent : Ptr} {caller : Caller}
    {input : LaneSpawnRequest}
    (new : input.resumeSessionID = "" → ∀ row, spawnRow u host caller input = some row →
      K false row)
    (heq : d.spawnHere parent caller input = some d') : d'.Every K host u := by
  unfold Directory.spawnHere at heq
  split at heq
  · simp only [Option.bind_eq_some_iff] at heq
    obtain ⟨target, -, resumed⟩ := heq
    exact h.reserveResume rule resumed
  next fresh =>
    simp only [Option.bind_eq_some_iff] at heq
    obtain ⟨row, spawned, reserved⟩ := heq
    rw [h.host, h.unicode] at spawned
    unfold Directory.reserveFresh at reserved
    rw [Option.ite_none_left_eq_some] at reserved
    obtain ⟨-, reserved⟩ := reserved
    cases reserved
    have added := h.addLaunch (.reserved row (some parent))
      { parent := some parent, product := row.product, fresh := true }
        (new (not_not.mp fresh) row spawned)
    exact added.same (SameRows.items rfl rfl rfl)

theorem identified (h : d.Every K host u) (rule : Renews host u K) {l : Ptr}
    (lane : (d.entryOf l).peer = false) (id : String) : (d.identified l id).Every K host u := by
  refine h.setItem ?_
  rw [Item.setRow_peer, lane]
  exact rule.lane _ (qualify id d.host) (d.entryOf l).row.createdAt (h.lane lane)

theorem attach (h : d.Every K host u) (rule : Renews host u K) {s l : Ptr}
    (lane : (d.entryOf l).peer = false) (createdAt : Nat) :
    (d.attach l s createdAt).Every K host u := by
  have owner :
      Told d (d.newOwner { id := (d.entryOf l).row.sessionID, token := ownerToken d.nextOwner }) :=
    Told.newOwner _
  have published := (h.alike (.told owner)).setItem (p := (d.launches l).entry)
    (v := (d.entryOf l).published (stamp (d.entryOf l).row createdAt) s d.nextOwner) (by
      rw [Item.published_peer, Item.published_row, lane]
      exact rule.stamp (h.lane lane) createdAt)
  exact published.same (SameRows.items rfl rfl rfl)

theorem step (h : d.Every K host u) (rule : Renews host u K) (sound : d.Sound) (a : Action)
    (new : ∀ peer row, d.Adds a peer row → K peer row) : (d.step a).Every K host u := by
  have does := d.does a
  generalize d.step a = d' at does ⊢
  have lane {s l : Ptr} (launch : (d.sessions s).launch = some l) : (d.entryOf l).peer = false :=
    (sound.shape.laneEntry l (sound.seats.lane s l launch).1).2
  obtain alike | lists := does.alike
  · exact h.alike alike
  cases does with
  | routine routine => exact h.alike routine.alike
  | hello s value full vacant _ id name product installed =>
    exact h.installPeer rule (fun old identity => (sound.seats.peer s old vacant identity).1)
      (h.unicode ▸ name) (new true _ ⟨rfl, by rw [h.host], id, name, product⟩) installed
  | @spawn s input parent p d' _ identity current spawned =>
    refine h.spawnHere rule (fun fresh row hrow => ?_) spawned
    rw [← h.host, ← h.unicode] at hrow
    exact new false row ⟨rfl, fresh, p, identity, current, hrow⟩
  | remoteSpawn caller input _ spawned =>
    refine (h.alike (.told (Told.remoteOwner caller))).spawnHere rule
      (fun fresh row hrow => ?_) spawned
    rw [← h.host, ← h.unicode] at hrow
    exact new false row ⟨rfl, fresh, hrow⟩
  | describe product => exact h.addLaunch _ _ (rule.described product)
  | release l full => exact h.same ((SameRows.releaseLaunch full l).trans (.items rfl rfl rfl))
  | openID s l id launch => exact (h.identified rule (lane launch) id).same (.items rfl rfl rfl)
  | refusedID s l id _ launch =>
    exact (h.identified rule (lane launch) id).same (.items rfl rfl rfl)
  | publish s l _ _ launch => exact (h.attach rule (lane launch) _).same (.items rfl rfl rfl)
  | lost => exact h.alike (.setSession _ _)
  | detach s full p =>
    refine Every.alike ?_ (.setSession s _)
    have ended := h.alike (Alike.endEntry full p)
    unfold Directory.leave
    split
    · exact ended.same (.items rfl rfl rfl)
    · exact ended.alike (.setItem rfl rfl)
  | finish s deleted full => exact h.same (.finish full s deleted)
  | finishOfflineClose p forget deleted => exact h.same (.finishOfflineClose p forget deleted)
  | _ => cases lists

theorem run (h : d.Every K host u) (rule : Renews host u K) (sound : d.Sound)
    (actions : List Action)
    (new : ∀ before a after, actions = before ++ a :: after → (d.run before).Every K host u →
      ∀ peer row, (d.run before).Adds a peer row → K peer row) :
    (d.run actions).Every K host u := by
  induction actions generalizing d with
  | nil => exact h
  | cons a actions ih =>
    refine ih (h.step rule sound a (new [] a actions rfl h)) (sound.step a)
      fun before b after heq => ?_
    exact new (a :: before) b after (by rw [heq]; rfl)

theorem newDirectory (host : String) (u : Unicode) (rule : Renews host u K) {rows : List Row}
    (loaded : ∀ row ∈ rows, K false row) : (newDirectory host u rows).Every K host u := by
  rw [newDirectory_eq]
  have start : Directory.Every K host u { host, unicode := u } :=
    ⟨rfl, rfl, fun _ => rule.described ""⟩
  revert start
  generalize ({ host, unicode := u } : Directory) = d
  intro start
  induction rows generalizing d with
  | nil => exact start
  | cons row rows ih =>
    rw [List.forall_mem_cons] at loaded
    exact ih loaded.2 (d.addRow row) (start.updated rfl rfl rfl loaded.1)

end Every

end Directory

end Sessionbus
