import Sessionbus.Directory.Represents
import Sessionbus.Directory.Rows
import Sessionbus.Traces

/-!
# Private groups

The private group of a peer is `session:` and its ID. A lane's is composed of its parent's, a slash
and its leaf name, and only its display name is checked to be new. Two lanes of one private group
have one display name only if the parent spawned both under one name and no slash stands inside a
leaf name or a peer's ID.
-/

namespace Sessionbus

/-! ## Group paths -/

/-- The group starts with `session:`. -/
def Sessioned (group : String) : Prop := "session:".toList <+: group.toList

instance (group : String) : Decidable (Sessioned group) :=
  inferInstanceAs (Decidable ("session:".toList <+: group.toList))

theorem sessioned_append (rest : String) : Sessioned ("session:" ++ rest) := by
  unfold Sessioned
  rw [String.toList_append]
  exact List.prefix_append _ _

theorem Sessioned.below {group : String} (h : Sessioned group) (leaf : String) :
    Sessioned (group ++ "/" ++ leaf) := by
  unfold Sessioned at h ⊢
  rw [String.toList_append, String.toList_append, List.append_assoc]
  exact h.trans (List.prefix_append _ _)

theorem path_inj {group group' leaf leaf' : String} (h : '/' ∉ leaf.toList)
    (h' : '/' ∉ leaf'.toList) (heq : group ++ "/" ++ leaf = group' ++ "/" ++ leaf') :
    group = group' ∧ leaf = leaf' := by
  have reversed : leaf.toList.reverse ++ '/' :: group.toList.reverse = leaf'.toList.reverse ++
      '/' :: group'.toList.reverse := by
    have := congrArg (fun text : String => text.toList.reverse) heq
    simpa using this
  have same : leaf.toList.reverse.length = leaf'.toList.reverse.length := by
    have := congrArg (List.idxOf '/') reversed
    rwa [List.idxOf_append_of_notMem (by simpa using h),
      List.idxOf_append_of_notMem (by simpa using h'), List.idxOf_cons_self,
      List.idxOf_cons_self] at this
  obtain ⟨leaves, groups⟩ := List.append_inj reversed same
  exact ⟨String.toList_inj.mp (List.reverse_injective (List.cons.inj groups).2),
    String.toList_inj.mp (List.reverse_injective leaves)⟩

theorem path_ne (group leaf : String) : group ++ "/" ++ leaf ≠ group := by
  intro heq
  have := congrArg String.length heq
  simp only [String.length_append] at this
  have : "/".length = 1 := rfl
  omega

theorem validHost_no_slash {host : String} (h : validHost host = true) : '/' ∉ host.toList := by
  unfold validHost at h
  intro slash
  split at h
  next empty => simp [empty] at slash
  next c rest chars =>
    simp only [Bool.and_eq_true, List.all_eq_true, Bool.or_eq_true] at h
    rw [chars, List.mem_cons] at slash
    rcases slash with rfl | inside
    · exact absurd h.1.1 (by decide)
    · exact absurd (h.1.2 _ inside) (by decide)

/-! ## Rows -/

/-- The row of a lane that a session of the private group `group` spawned. -/
def PlainRow (title : String → String) (host : String) (row : Row) : Prop :=
  ∃ group leaf, row.groups = [group, group ++ "/" ++ leaf] ∧
    row.name = qualify (title group ++ "/" ++ leaf) host ∧ '/' ∉ leaf.toList ∧ Sessioned group

/-- A lane has a plain row or is not one yet; a peer has no session's private group but its own. -/
def OwnGroups (title : String → String) (host : String) : Bool → Row → Prop
  | true, row => '/' ∉ row.sessionID.toList ∧ ∀ group ∈ row.groups, Sessioned group →
    group = "session:" ++ row.sessionID
  | false, row => row.name = "" ∨ PlainRow title host row

theorem own_lasting (title : String → String) (host : String) :
    Directory.Lasting (OwnGroups title host) where
  lane _ _ _ h := h
  resumed _ _ _ _ _ h := h
  peer _ _ h := h
  described _ := .inl rfl

/-- A new lane of this caller has no slash in its leaf, and the caller has its one name. -/
def SpawnsPlainly (title : String → String) (caller : Caller) (input : LaneSpawnRequest) : Prop :=
  input.resumeSessionID = "" → '/' ∉ input.name.toList ∧
    unqualify caller.name = title caller.privateGroup

theorem spawnRow_plain {title : String → String} {u : Unicode} {host : String} {caller : Caller}
    {input : LaneSpawnRequest} {row : Row} (plainly : SpawnsPlainly title caller input)
    (fresh : input.resumeSessionID = "") (extra : input.extraGroups = [])
    (sessioned : Sessioned caller.privateGroup) (heq : spawnRow u host caller input = some row) :
    PlainRow title host row := by
  obtain ⟨leaf, named⟩ := plainly fresh
  unfold spawnRow at heq
  simp only at heq
  split at heq
  · simp at heq
  · simp only [Option.ite_none_right_eq_some, Option.map_eq_some_iff] at heq
    obtain ⟨-, policy, -, rfl⟩ := heq
    refine ⟨caller.privateGroup, input.name, ?_, by rw [named], leaf, sessioned⟩
    simp [unique, extra, path_ne]

theorem peerRow_own (title : String → String) {host : String} (valid : validHost host = true)
    (s : Ptr) {hello : PeerHello} (id : '/' ∉ hello.sessionID.toList)
    (declared : ∀ group ∈ hello.groups, ¬ Sessioned group) :
    OwnGroups title host true (Directory.peerItem host s hello none).row := by
  have noSlash : '/' ∉ (qualify hello.sessionID host).toList := by
    unfold qualify
    split
    · simp
    · simp only [String.toList_append, List.mem_append, not_or]
      exact ⟨⟨id, by decide⟩, validHost_no_slash valid⟩
  refine ⟨noSlash, fun group held sessioned => ?_⟩
  simp only [Directory.peerItem, orderedPeerGroups] at held ⊢
  split at held
  · exact absurd sessioned (declared group held)
  · rw [List.mem_append, List.mem_singleton] at held
    exact held.resolve_left fun inside => declared group inside sessioned

namespace Directory

variable {title : String → String} {host : String} {u : Unicode} {d : Directory}

/-- Peers declare no group that starts with `session:`, and new lanes have no extra groups. -/
def Undeclared : Action → Prop
  | .hello _ value _ => ∀ group ∈ value.groups, ¬ Sessioned group
  | .spawn _ input => input.resumeSessionID = "" → input.extraGroups = []
  | .remoteSpawn caller input =>
    Sessioned caller.privateGroup ∧ (input.resumeSessionID = "" → input.extraGroups = [])
  | _ => True

/-- No slash in the ID of a peer, and every new lane is spawned plainly. -/
def Separate (title : String → String) (d : Directory) : Action → Prop
  | .hello _ value _ => '/' ∉ value.sessionID.toList
  | .spawn s input =>
    ∀ p, (d.sessions s).identity = some p → SpawnsPlainly title (d.federationCaller p) input
  | .remoteSpawn caller input => SpawnsPlainly title caller input
  | _ => True

theorem Every.plain (h : d.Every (OwnGroups title host) host u) (names : d.Names)
    {id : String} {p : Ptr} (listed : d.entries id = some p) (lane : (d.items p).peer = false) :
    PlainRow title host (d.items p).row := by
  obtain unnamed | plain := h.lane lane
  · have named := names.lanes id p listed lane
    rw [unnamed, names.noName] at named
    cases named
  · exact plain

theorem Every.sessioned (h : d.Every (OwnGroups title host) host u) (names : d.Names)
    {id : String} {p : Ptr} (listed : d.entries id = some p) :
    Sessioned (privateGroup (d.items p).toEntry) := by
  unfold privateGroup
  split
  · exact sessioned_append _
  next lane =>
    obtain ⟨group, leaf, groups, -, -, sessioned⟩ :=
      h.plain names listed (Bool.eq_false_iff.mpr lane)
    simpa [lanePrivate, groups] using sessioned.below leaf

theorem Separate.adds (valid : validHost host = true) (h : d.Every (OwnGroups title host) host u)
    (names : d.Names) {a : Action} (undeclared : Undeclared a) (separate : d.Separate title a)
    {peer : Bool} {row : Row} (adds : d.Adds a peer row) : OwnGroups title host peer row := by
  cases a with
  | hello s value full =>
    obtain ⟨rfl, rfl, -⟩ := adds
    rw [h.host]
    exact peerRow_own title valid s separate undeclared
  | spawn s input =>
    obtain ⟨rfl, fresh, p, identity, current, spawned⟩ := adds
    rw [h.host] at spawned
    unfold Directory.current Directory.listed at current
    simp only [Bool.and_eq_true, beq_iff_eq] at current
    exact .inr
      (spawnRow_plain (separate p identity) fresh (undeclared fresh)
        (h.sessioned names current.1) spawned)
  | remoteSpawn caller input =>
    obtain ⟨rfl, fresh, spawned⟩ := adds
    rw [h.host] at spawned
    exact .inr (spawnRow_plain separate fresh (undeclared.2 fresh) undeclared.1 spawned)
  | _ => exact adds.elim

/-! ## Sessions and their private groups -/

/-- A session's private group is held by it and by the lanes directly under its path. -/
structure PrivateGroups (d : Directory) : Prop where
  distinct : ∀ i j p q, d.entries i = some p → d.entries j = some q →
    privateGroup (d.items p).toEntry = privateGroup (d.items q).toEntry → p = q
  holders : ∀ i j p q, d.entries i = some p → d.entries j = some q →
    privateGroup (d.items p).toEntry ∈ (d.items q).row.groups →
    q = p ∨ (d.items q).peer = false ∧ ∃ leaf, (d.items q).row.groups =
      [privateGroup (d.items p).toEntry, privateGroup (d.items p).toEntry ++ "/" ++ leaf]

theorem Every.peer_no_slash (h : d.Every (OwnGroups title host) host u) {p : Ptr}
    (peer : (d.items p).peer = true) : '/' ∉ (privateGroup (d.items p).toEntry).toList := by
  have own := h.rows p
  rw [peer] at own
  unfold privateGroup
  rw [if_pos peer, String.toList_append, List.mem_append, not_or]
  exact ⟨by decide, own.1⟩

theorem Every.lane_path (h : d.Every (OwnGroups title host) host u) (names : d.Names)
    {id : String} {p : Ptr} (listed : d.entries id = some p) (lane : (d.items p).peer = false) :
    ∃ group leaf, (d.items p).row.groups = [group, group ++ "/" ++ leaf] ∧
      privateGroup (d.items p).toEntry = group ++ "/" ++ leaf ∧
      '/' ∉ leaf.toList ∧ (d.items p).row.name = qualify (title group ++ "/" ++ leaf) host := by
  obtain ⟨group, leaf, groups, named, noSlash, -⟩ := h.plain names listed lane
  exact ⟨group, leaf, groups, by simp [privateGroup, lane, lanePrivate, groups], noSlash, named⟩

theorem Every.lane_ne_peer (h : d.Every (OwnGroups title host) host u) (names : d.Names)
    {id : String} {p q : Ptr} (listed : d.entries id = some p) (lane : (d.items p).peer = false)
    (peer : (d.items q).peer = true) :
    privateGroup (d.items p).toEntry ≠ privateGroup (d.items q).toEntry := by
  obtain ⟨group, leaf, -, path, -⟩ := h.lane_path names listed lane
  intro heq
  refine h.peer_no_slash peer ?_
  rw [← heq, path]
  simp

theorem Every.distinct (h : d.Every (OwnGroups title host) host u) (shape : d.Shape)
    (names : d.Names) {i j : String} {p q : Ptr} (hp : d.entries i = some p)
    (hq : d.entries j = some q)
    (heq : privateGroup (d.items p).toEntry = privateGroup (d.items q).toEntry) : p = q := by
  cases kindP : (d.items p).peer with
  | true =>
    cases kindQ : (d.items q).peer with
    | true =>
      -- The IDs of two peers are what tells their private groups apart.
      simp only [privateGroup, kindP, kindQ, if_true, String.append_right_inj] at heq
      rw [(shape.ids i p hp).1, (shape.ids j q hq).1] at heq
      rw [heq, hq] at hp
      exact (Option.some.inj hp).symm
    | false => exact absurd heq.symm (h.lane_ne_peer names hq kindQ kindP)
  | false =>
    cases kindQ : (d.items q).peer with
    | true => exact absurd heq (h.lane_ne_peer names hp kindP kindQ)
    | false =>
      -- Two lanes of one path have one display name, and a name has one lane.
      obtain ⟨group, leaf, -, path, noSlash, named⟩ := h.lane_path names hp kindP
      obtain ⟨group', leaf', -, path', noSlash', named'⟩ := h.lane_path names hq kindQ
      rw [path, path'] at heq
      obtain ⟨rfl, rfl⟩ := path_inj noSlash noSlash' heq
      have heldP := names.lanes i p hp kindP
      have heldQ := names.lanes j q hq kindQ
      rw [named, ← named', heldQ] at heldP
      exact (Option.some.inj heldP).symm

theorem Every.privateGroups (h : d.Every (OwnGroups title host) host u) (shape : d.Shape)
    (names : d.Names) : d.PrivateGroups where
  distinct _ _ _ _ hp hq heq := h.distinct shape names hp hq heq
  holders i j p q hp hq held := by
    cases kind : (d.items q).peer with
    | true =>
      have own := h.rows q
      rw [kind] at own
      have same := own.2 _ held (h.sessioned names hp)
      refine .inl (h.distinct shape names hq hp ?_)
      rw [same]
      simp [privateGroup, kind]
    | false =>
      obtain ⟨group, leaf, groups, path, -⟩ := h.lane_path names hq kind
      rw [groups, List.mem_cons, List.mem_singleton] at held
      rcases held with above | here
      · exact .inr ⟨rfl, leaf, by rw [above, groups]⟩
      · exact .inl (h.distinct shape names hq hp (by rw [path, here]))

/-- In every run whose steps are separate no two sessions have one private group. -/
theorem private_groups_distinct (title : String → String) {host : String} (u : Unicode)
    (valid : validHost host = true) (rows : List Row) (names : (rows.map Row.name).Nodup)
    (written : ∀ row ∈ rows, row.name ≠ "" ∧ row.createdAt ≠ 0)
    (plain : ∀ row ∈ rows, PlainRow title host row) (actions : List Action)
    (undeclared : ∀ a ∈ actions, Undeclared a)
    (separate : Trace.Everywhere
      (fun before a _ => ((newDirectory host u rows).run before).Separate title a) actions) :
    ((newDirectory host u rows).run actions).PrivateGroups := by
  have sound := sound_newDirectory host u rows
  have named := names_newDirectory host u names written
  have loaded := Every.newDirectory host u ((own_lasting title host).renews host u) fun row hrow =>
      .inr (plain row hrow)
  have every := loaded.run ((own_lasting title host).renews host u) sound actions
      fun before a after heq held _ _ adds =>
    (separate before a after heq).adds valid held (named.run sound before)
      (undeclared a (heq ▸ List.mem_append_right before List.mem_cons_self)) adds
  exact every.privateGroups (sound.run actions).shape (named.run sound actions)

/-! ## A renamed parent -/

/-- The peer of session 0 under this name. -/
def titled (name : String) : Action :=
  .hello 0 { sessionID := "boss", name, product := "kit", groups := ["team"] } []

/-- Its lane `x`, launched to the end. -/
def launched (l : Ptr) (id : String) : List Action :=
  [.spawn 0 { name := "x", product := "kit", openOptions := some {} }, .startChild l,
    .claim (l + 1) l { supportsMessageRun := true, product := "kit" } true, .openID (l + 1) l id,
    .publish (l + 1) l 1 none]

theorem launched_undeclared (l : Ptr) (id : String) : ∀ a ∈ launched l id, Undeclared a := by
  simp [launched, Undeclared]

theorem titled_undeclared (name : String) : Undeclared (titled name) := by
  intro group declared
  obtain rfl : group = "team" := by simpa using declared
  decide

theorem private_groups_distinct_lane :
    validHost "h" = true ∧ (∀ a ∈ titled "n" :: launched 0 "one", Undeclared a) ∧
      ((newDirectory "h" ascii []).run (titled "n" :: launched 0 "one")).entries "one@h" = some 1 ∧
      ((newDirectory "h" ascii []).run (titled "n" :: launched 0 "one")).PrivateGroups := by
  have undeclared : ∀ a ∈ titled "n" :: launched 0 "one", Undeclared a :=
    List.forall_mem_cons.mpr ⟨titled_undeclared "n", launched_undeclared 0 "one"⟩
  refine ⟨by decide, undeclared, by decide +kernel,
    private_groups_distinct (fun _ => "n") ascii (by decide) [] (by simp) (by simp) (by simp) _
    undeclared ?_⟩
  refine .cons (show '/' ∉ "boss".toList by decide)
    (.cons ?_ (.of_forall fun a later before _ => ?_))
  · intro p identity fresh
    refine ⟨by decide, ?_⟩
    obtain rfl : 0 = p := Option.some.inj (Eq.trans (by decide +kernel) identity)
    decide +kernel
  · simp only [List.mem_cons, List.not_mem_nil, or_false] at later
    rcases later with rfl | rfl | rfl | rfl <;> exact trivial

/-- One lane `x` before and one after a rename of the parent: two display names, one private group.
-/
theorem private_groups_renamed :
    ∃ actions : List Action, (∀ a ∈ actions, Undeclared a) ∧
      ¬ ((newDirectory "h" ascii []).run actions).PrivateGroups := by
  refine ⟨titled "n" :: launched 0 "one" ++ titled "m" :: launched 1 "two", ?_, fun h => ?_⟩
  · rw [List.cons_append, List.forall_mem_cons, List.forall_mem_append, List.forall_mem_cons]
    exact ⟨titled_undeclared "n", launched_undeclared 0 "one", titled_undeclared "m",
      launched_undeclared 1 "two"⟩
  · have same := h.distinct "one@h" "two@h" 1 2 (by decide +kernel) (by decide +kernel)
        (by decide +kernel)
    exact absurd same (by decide)

end Directory

end Sessionbus
