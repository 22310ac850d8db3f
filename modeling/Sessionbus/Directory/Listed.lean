import Sessionbus.Directory.Listing

/-!
# Every listed entry has a legal summary

The parts of a summary are checked where they enter the directory: with a hello, with a spawn, with
the ID that a worker chooses, and with the rows that an earlier daemon wrote.
-/

namespace Sessionbus

open Json Schema

/-! ## Requests that were decoded -/

/-- `ownedPart` of the hub's frames. -/
def ownedPart (u : Unicode) (value host : String) (spaces : Bool) : Bool :=
  match splitHost value with
  | some (part, there) =>
    there == host && 0 < part.length && part.length ≤ 128 && part.toList.all fun c => u.print c &&
    (spaces || !u.space c)
  | none => false

def validCaller (u : Unicode) (caller : Caller) (host : String) : Bool :=
  ownedPart u caller.sessionID host false &&
    (caller.name == "" || ownedPart u caller.name host true) && validHost caller.product &&
    "session:".toList.isPrefixOf caller.privateGroup.toList &&
    caller.groups.contains caller.privateGroup && decide caller.groups.Nodup &&
    !caller.groups.contains ""

namespace Directory

/-- What was checked of a request before a handler sees it, by the schema and by the hub. -/
def Checked (u : Unicode) : Action → Prop
  | .hello _ value _ => value.groups.Nodup ∧ "" ∉ value.groups
  | .spawn _ input => "" ∉ input.extraGroups
  | .remoteSpawn caller input =>
    (∃ host, validHost host = true ∧ validCaller u caller host = true) ∧ "" ∉ input.extraGroups
  | _ => True

end Directory

/-! ## Groups -/

theorem unique_from (values acc : List String) (distinct : acc.Nodup) :
    let result := values.foldl
      (fun result value => if result.contains value then result else result ++ [value]) acc
    result.Nodup ∧ acc <+: result ∧ ∀ x, x ∈ result ↔ x ∈ acc ∨ x ∈ values := by
  induction values generalizing acc with
  | nil =>
    intro result
    exact ⟨distinct, List.prefix_rfl, by simp [result]⟩
  | cons value values ih =>
    simp only [List.foldl_cons]
    by_cases old : value ∈ acc
    · have same : (if acc.contains value then acc else acc ++ [value]) = acc := by simp [old]
      rw [same]
      obtain ⟨hnodup, hprefix, hmem⟩ := ih acc distinct
      refine ⟨hnodup, hprefix, fun x => ?_⟩
      rw [hmem x, List.mem_cons]
      constructor
      · rintro (hx | hx)
        · exact .inl hx
        · exact .inr (.inr hx)
      · rintro (hx | rfl | hx)
        · exact .inl hx
        · exact .inl old
        · exact .inr hx
    · have grown : (if acc.contains value then acc else acc ++ [value]) = acc ++ [value] := by
        simp [old]
      rw [grown]
      have distinct' : (acc ++ [value]).Nodup := by
        rw [List.nodup_append]
        refine ⟨distinct, List.nodup_singleton _, ?_⟩
        intro a ha b hb
        rw [List.mem_singleton] at hb
        rintro rfl
        exact old (hb ▸ ha)
      obtain ⟨hnodup, hprefix, hmem⟩ := ih (acc ++ [value]) distinct'
      refine ⟨hnodup, (List.prefix_append _ _).trans hprefix, fun x => ?_⟩
      rw [hmem x, List.mem_append, List.mem_singleton, List.mem_cons, or_assoc]

theorem unique_groups {a b : String} {extra : List String} (ha : a ≠ "") (hb : b ≠ "") (hab : b ≠ a)
    (hextra : "" ∉ extra) :
    let groups := unique ([a, b] ++ extra)
    groups.Nodup ∧ "" ∉ groups ∧ 2 ≤ groups.length := by
  intro groups
  have start :
      groups = extra.foldl (fun result value => if result.contains value then result
        else result ++ [value])
      [a, b] := by
    simp [groups, unique, hab]
  have distinct : [a, b].Nodup := by simp [hab.symm]
  obtain ⟨hnodup, hprefix, hmem⟩ := unique_from extra [a, b] distinct
  rw [start]
  refine ⟨hnodup, ?_, hprefix.length_le⟩
  rw [hmem]
  simp [ha.symm, hb.symm, hextra]

/-! ## Rows -/

/-- What is known of the row of a peer, and of a lane that has its name. -/
def GoodRow (host : String) (u : Unicode) : Bool → Row → Prop
  | true, row => row.product ≠ "" ∧ (row.name = "" ∨ LegalName u host row.name) ∧ row.groups.Nodup ∧
    "" ∉ row.groups ∧
      row.policy = none
  | false, row =>
    row.name = "" ∨ row.product ≠ "" ∧ LegalName u host row.name ∧ row.groups.Nodup ∧
      "" ∉ row.groups ∧ 2 ≤ row.groups.length ∧ ∃ policy, row.policy = some policy ∧
      policy.legal = true

theorem normalizePolicy_legal {input : LaneSpawnRequest} {previous : Option LanePolicy}
    {owner : String} {policy : LanePolicy}
    (h : normalizePolicy input previous owner = some policy) : policy.legal = true := by
  unfold normalizePolicy at h
  simp only [Option.ite_none_left_eq_some, Option.filter_eq_some_iff] at h
  exact h.2.2

theorem goodRow_renews (host : String) (u : Unicode) :
    Directory.Renews host u (GoodRow host u) where
  lane _ _ _ h := h
  resumed row input owner policy normal h := by
    refine h.imp_right fun ⟨product, name, distinct, filled, two, _⟩ =>
      ⟨product, name, distinct, filled, two, ?_⟩
    exact ⟨policy, rfl, normalizePolicy_legal normal⟩
  peer row name valid h := by
    obtain ⟨product, -, rest⟩ := h
    refine ⟨product, ?_, rest⟩
    rcases valid with rfl | valid
    · exact .inl rfl
    · exact .inr ⟨name, valid, rfl⟩
  described _ := .inl rfl

theorem peerRow_good {host : String} {u : Unicode} {s : Ptr} {hello : PeerHello}
    (name : hello.name = "" ∨ validNamePart u hello.name = true)
    (product : validHost hello.product = true) (distinct : hello.groups.Nodup)
    (filled : "" ∉ hello.groups) :
    GoodRow host u true (Directory.peerItem host s hello none).row := by
  have named : qualify hello.name host = "" ∨ LegalName u host (qualify hello.name host) := by
    rcases name with empty | valid
    · exact .inl (by simp [qualify, empty])
    · exact .inr ⟨hello.name, valid, rfl⟩
  refine ⟨validHost_ne product, named, ?_, ?_, rfl⟩
  · show (orderedPeerGroups hello.groups _).Nodup
    unfold orderedPeerGroups
    split
    · exact distinct
    next new =>
      rw [List.nodup_append]
      refine ⟨distinct, List.nodup_singleton _, ?_⟩
      rintro a ha b hb rfl
      rw [List.mem_singleton] at hb
      exact new (by simpa [hb] using ha)
  · show "" ∉ orderedPeerGroups hello.groups _
    unfold orderedPeerGroups
    split
    · exact filled
    · rw [List.mem_append, List.mem_singleton, not_or]
      exact ⟨filled, by simp⟩

theorem spawnRow_good {host : String} {u : Unicode} {caller : Caller}
    {input : LaneSpawnRequest} {row : Row} (group : caller.privateGroup ≠ "")
    (filled : "" ∉ input.extraGroups) (heq : spawnRow u host caller input = some row) :
    GoodRow host u false row := by
  unfold spawnRow at heq
  simp only at heq
  split at heq
  · cases heq
  · simp only [Option.ite_none_right_eq_some, Option.map_eq_some_iff, Bool.and_eq_true] at heq
    obtain ⟨⟨⟨product, -⟩, name⟩, policy, normal, rfl⟩ := heq
    have below : caller.privateGroup ++ "/" ++ input.name ≠ "" := by simp
    obtain ⟨distinct, filled', two⟩ := unique_groups group below (path_ne _ _) filled
    exact .inr ⟨validHost_ne product, ⟨_, name, rfl⟩, distinct, filled', two, policy, rfl,
      normalizePolicy_legal normal⟩

/-! ## The keys of the directory -/

namespace Directory

variable {host : String} {u : Unicode} {d d' : Directory}

/-- Every key is an ID of this host. -/
def Keyed (host : String) (u : Unicode) (d : Directory) : Prop :=
  ∀ id, d.entries id ≠ none → LegalID u host id

namespace Keyed

theorem same (h : d.Keyed host u) (entries : d'.entries = d.entries) : d'.Keyed host u := by
  intro id listed
  rw [entries] at listed
  exact h id listed

theorem alike (h : d.Keyed host u) (a : Alike d d') : d'.Keyed host u := h.same a.entries

theorem unlist (h : d.Keyed host u) (id : String) : (d.setEntry id none).Keyed host u := by
  intro id' listed
  refine h id' fun free => listed ?_
  show Function.update d.entries id none id' = none
  rw [Function.update_apply]
  split
  · rfl
  · exact free

theorem list (h : d.Keyed host u) {id : String} (legal : LegalID u host id) (p : Ptr) :
    (d.setEntry id (some p)).Keyed host u := by
  intro id' listed
  by_cases same : id' = id
  · exact same ▸ legal
  · refine h id' fun free => listed ?_
    show Function.update d.entries id (some p) id' = none
    rw [Function.update_of_ne same]
    exact free

theorem endEntry (h : d.Keyed host u) (full : List Ptr) (p : Ptr) :
    (d.endEntry full p).Keyed host u :=
  h.alike (Alike.endEntry full p)

theorem seat (h : d.Keyed host u) {s : Ptr} {id : String} (legal : LegalID u host id)
    (item : Item) : (d.seat s id item).Keyed host u :=
  (h.list legal d.nextItem).same rfl

theorem takeID (h : d.Keyed host u) (full : List Ptr) (s : Ptr) {hello : PeerHello}
    (valid : validIDPart u hello.sessionID = true) : (d.takeID full host s hello).Keyed host u := by
  have legal : LegalID u host (qualify hello.sessionID host) := ⟨hello.sessionID, valid, rfl⟩
  unfold Directory.takeID
  simp only
  split
  next found _ =>
    have marked : (d.setItem found ((d.items found).setLifetime none)).Keyed host u := h.same rfl
    exact (marked.endEntry full found).seat legal _
  · have owned :
        (d.newOwner { id := qualify hello.sessionID host, token := ownerToken d.nextOwner }).Keyed
        host u :=
      h.same rfl
    exact owned.seat legal _

theorem installPeer (h : d.Keyed host u) (here : d.host = host) {full : List Ptr} {s : Ptr}
    {hello : PeerHello} (valid : validIDPart u hello.sessionID = true)
    (heq : d.installPeer full s hello = some d') : d'.Keyed host u := by
  obtain ⟨old, -, -, -, rfl⟩ | ⟨old, -, -, -, rfl⟩ := installPeer_cases heq
  · exact h.same rfl
  · unfold Directory.replacePeer
    rw [here]
    cases old with
    | none => exact h.takeID full s valid
    | some o => exact ((h.unlist _).endEntry full o).takeID full s valid

theorem spawnHere (h : d.Keyed host u) {parent : Ptr} {caller : Caller} {input : LaneSpawnRequest}
    (heq : d.spawnHere parent caller input = some d') : d'.Keyed host u := by
  unfold Directory.spawnHere at heq
  split at heq
  · simp only [Option.bind_eq_some_iff] at heq
    obtain ⟨target, -, resumed⟩ := heq
    unfold Directory.reserveResume at resumed
    split at resumed
    · cases resumed
    next previous listed =>
      simp only [Option.ite_none_left_eq_some, Option.map_eq_some_iff] at resumed
      obtain ⟨-, policy, -, rfl⟩ := resumed
      have legal : LegalID u host target.1 := h target.1 (by simp [listed])
      exact (h.list legal d.nextItem).same rfl
  · simp only [Option.bind_eq_some_iff] at heq
    obtain ⟨row, -, reserved⟩ := heq
    unfold Directory.reserveFresh at reserved
    rw [Option.ite_none_left_eq_some] at reserved
    obtain ⟨-, reserved⟩ := reserved
    cases reserved
    exact h.same rfl

theorem released (h : d.Keyed host u) (sound : d.Sound) {l : Ptr} (hl : d.Open l)
    (r : Released d l d') : d'.Keyed host u := by
  intro id listed
  obtain ⟨p, entry⟩ := Option.ne_none_iff_exists'.mp listed
  rcases (r.entries id p).mp entry with ⟨old, -⟩ | ⟨previous, rfl⟩
  · exact h id (by simp [old])
  · have kept := (sound.shape.resumed l p hl previous).1
    exact h _ (by simp [kept])

theorem offline (h : d.Keyed host u) (p s : Ptr) (forget : Bool) :
    (d.offline p s forget).Keyed host u := by
  unfold Directory.offline
  extract_lets item item' d₁
  have marked : d₁.Keyed host u := h.same rfl
  split
  · unfold Directory.forgetEntry
    split
    · exact (marked.unlist _).same rfl
    · exact marked
  · exact marked

theorem finish (h : d.Keyed host u) (sound : d.Sound) {s : Ptr}
    (running : (d.sessions s).returned = false) (full : List Ptr) (deleted : Bool) :
    (d.finish full s deleted).Keyed host u := by
  unfold Directory.finish
  cases hs : (d.sessions s).launch with
  | none =>
    simp only [hs]
    exact h.same rfl
  | some l =>
    have identity := (sound.seats.lane s l hs).2.2
    simp only [hs, identity]
    refine Keyed.alike ?_ (Alike.setSession s _)
    cases hc : (d.sessions s).committed with
    | false =>
      have hl : d.Open l := ⟨(sound.seats.lane s l hs).1, sound.seats.uncommitted s l hs hc running⟩
      have released := h.released sound hl (sound.releaseLaunch hl full)
      cases (d.sessions s).launchResult with
      | none => exact released
      | some answer => exact released.same rfl
    | true =>
      cases (d.sessions s).launchResult with
      | none => exact h.offline _ s _
      | some answer =>
        have replied : (d.reply l answer).Keyed host u := h.alike (Alike.reply l answer)
        exact replied.offline (d.launches l).entry s _

theorem finishOfflineClose (h : d.Keyed host u) (p : Ptr) (forget deleted : Bool) :
    (d.finishOfflineClose p forget deleted).Keyed host u := by
  unfold Directory.finishOfflineClose
  simp only
  have erased : ({ d with offlineClosing := d.offlineClosing.erase p } : Directory).Keyed host u :=
    h.same rfl
  split
  · have marked : (({ d with offlineClosing := d.offlineClosing.erase p } : Directory).setItem p
        ((d.items p).setClaimed false)).Keyed host u := erased.same rfl
    split
    · split
      · exact (marked.unlist _).same rfl
      · exact marked.unlist _
    · exact marked
  · exact erased

theorem step (h : d.Keyed host u) (here : d.host = host) (unicode : d.unicode = u) (sound : d.Sound)
    (a : Action) : (d.step a).Keyed host u := by
  have does := d.does a
  generalize d.step a = d' at does ⊢
  obtain alike | lists := does.alike
  · exact h.alike alike
  cases does with
  | routine routine => exact h.alike routine.alike
  | hello s value full _ _ id _ _ installed => exact h.installPeer here (unicode ▸ id) installed
  | spawn s input _ _ _ spawned => exact h.spawnHere spawned
  | remoteSpawn caller input _ spawned =>
    exact (h.same (Told.remoteOwner caller).entries).spawnHere spawned
  | describe => exact h.same rfl
  | release l full revoked =>
    have hl := (sound.seats.revoked l (by simp [revoked])).1
    exact (h.released sound hl (sound.releaseLaunch hl full)).same rfl
  | openID s l id _ _ _ _ part =>
    have identified : (d.identified l id).Keyed host u := h.same rfl
    exact (identified.list ⟨id, unicode ▸ part, by rw [here]⟩ _).same rfl
  | refusedID => exact h.same rfl
  | publish s l =>
    have attached createdAt : (d.attach l s createdAt).entries = d.entries := rfl
    exact ((h.same (attached _)).alike (.setSession s _)).alike (.reply l _)
  | lost => exact h.same rfl
  | detach s full p =>
    refine Keyed.alike ?_ (.setSession s _)
    have ended := h.endEntry full p
    unfold Directory.leave
    split
    · exact ended.unlist _
    · exact ended.same rfl
  | finish s deleted full running => exact h.finish sound running full deleted
  | finishOfflineClose p forget deleted => exact h.finishOfflineClose p forget deleted
  | _ => cases lists

theorem newDirectory {rows : List Row} (legal : ∀ row ∈ rows, LegalID u host row.sessionID) :
    (newDirectory host u rows).Keyed host u := by
  rw [newDirectory_eq]
  have start : Directory.Keyed host u { host, unicode := u } := fun id listed => absurd rfl listed
  revert start
  generalize ({ host, unicode := u } : Directory) = d
  intro start
  induction rows generalizing d with
  | nil => exact start
  | cons row rows ih =>
    rw [List.forall_mem_cons] at legal
    exact ih legal.2 (d.addRow row) ((start.list legal.1 d.nextItem).same rfl)

end Keyed

/-! ## Daemons -/

/-- The row of a lane of this directory is written, with its creation time. -/
def Wrote (d : Directory) (row : Row) : Prop :=
  ∃ id p createdAt, d.entries id = some p ∧ (d.items p).peer = false ∧ createdAt ≠ 0 ∧
    row = { (d.items p).row with createdAt }

/-- The directories of a host's daemons: one starts with rows that any of them wrote, under
different names. -/
inductive Served (host : String) (u : Unicode) : Directory → Prop
  | start (rows : List Row) (writer : Row → Directory)
      (written : ∀ row ∈ rows, (writer row).Wrote row)
      (served : ∀ row ∈ rows, Served host u (writer row)) (names : (rows.map Row.name).Nodup) :
      Served host u (newDirectory host u rows)
  | step {d : Directory} (served : Served host u d) (a : Action) (checked : Checked u a) :
      Served host u (d.step a)

structure Serves (host : String) (u : Unicode) (d : Directory) : Prop where
  sound : d.Sound
  names : d.Names
  rows : d.Every (GoodRow host u) host u
  keys : d.Keyed host u

namespace Serves

theorem lane (h : d.Serves host u) {id : String} {p : Ptr} (listed : d.entries id = some p)
    (lane : (d.items p).peer = false) :
    (d.items p).row.product ≠ "" ∧ LegalName u host (d.items p).row.name ∧
      (d.items p).row.groups.Nodup ∧ "" ∉ (d.items p).row.groups ∧
      2 ≤ (d.items p).row.groups.length ∧
      ∃ policy, (d.items p).row.policy = some policy ∧ policy.legal = true := by
  obtain unnamed | good := h.rows.lane lane
  · have named := h.names.lanes id p listed lane
    rw [unnamed, h.names.noName] at named
    cases named
  · exact good

theorem legalID (h : d.Serves host u) {id : String} {p : Ptr} (listed : d.entries id = some p) :
    LegalID u host (d.items p).row.sessionID := by
  rw [(h.sound.shape.ids id p listed).1]
  exact h.keys id (by simp [listed])

theorem wrote (h : d.Serves host u) {row : Row} (wrote : d.Wrote row) :
    GoodRow host u false row ∧ row.name ≠ "" ∧ row.createdAt ≠ 0 ∧
    LegalID u host row.sessionID := by
  obtain ⟨id, p, createdAt, listed, lane, created, rfl⟩ := wrote
  have good := h.lane listed lane
  exact ⟨.inr good, good.2.1.ne, created, h.legalID listed⟩

theorem privateGroup_ne (h : d.Serves host u) {id : String} {p : Ptr}
    (listed : d.entries id = some p) : privateGroup (d.items p).toEntry ≠ "" := by
  unfold privateGroup
  split
  · simp
  next lane =>
    obtain ⟨-, -, -, filled, two, -⟩ := h.lane listed (Bool.eq_false_iff.mpr lane)
    unfold lanePrivate
    intro empty
    have second : (d.items p).row.groups.getD 1 "" ∈ (d.items p).row.groups := by
      rw [List.getD_eq_getElem?_getD, List.getElem?_eq_getElem (by omega)]
      exact List.getElem_mem _
    exact filled (empty ▸ second)

theorem adds (h : d.Serves host u) {a : Action} (checked : Checked u a) {peer : Bool} {row : Row}
    (adds : d.Adds a peer row) : GoodRow host u peer row := by
  cases a with
  | hello s value full =>
    obtain ⟨rfl, rfl, -, name, product⟩ := adds
    rw [h.rows.host]
    exact peerRow_good (h.rows.unicode ▸ name) product checked.1 checked.2
  | spawn s input =>
    obtain ⟨rfl, -, p, identity, current, spawned⟩ := adds
    rw [h.rows.host, h.rows.unicode] at spawned
    unfold Directory.current Directory.listed at current
    simp only [Bool.and_eq_true, beq_iff_eq] at current
    exact spawnRow_good (h.privateGroup_ne current.1) checked spawned
  | remoteSpawn caller input =>
    obtain ⟨rfl, -, spawned⟩ := adds
    rw [h.rows.host, h.rows.unicode] at spawned
    obtain ⟨⟨from_, -, valid⟩, filled⟩ := checked
    refine spawnRow_good ?_ filled spawned
    simp only [validCaller, Bool.and_eq_true] at valid
    rintro empty
    have := valid.1.1.1.2
    rw [empty] at this
    cases this
  | _ => exact adds.elim

theorem step (h : d.Serves host u) {a : Action} (checked : Checked u a) :
    (d.step a).Serves host u where
  sound := h.sound.step a
  names := h.names.step h.sound a
  rows := h.rows.step (goodRow_renews host u) h.sound a fun _ _ adds => h.adds checked adds
  keys := h.keys.step h.rows.host h.rows.unicode h.sound a

end Serves

theorem Served.run (h : Served host u d) {actions : List Action}
    (checked : ∀ a ∈ actions, Checked u a) : Served host u (d.run actions) := by
  induction actions generalizing d with
  | nil => exact h
  | cons a actions ih =>
    rw [List.forall_mem_cons] at checked
    exact ih (h.step a checked.1) checked.2

theorem Served.serves (h : Served host u d) : d.Serves host u := by
  induction h with
  | start rows writer written _ names ih =>
    have known : ∀ row ∈ rows, _ := fun row hrow => (ih row hrow).wrote (written row hrow)
    refine ⟨sound_newDirectory host u rows, ?_, ?_, ?_⟩
    · exact names_newDirectory host u names fun row hrow =>
        ⟨(known row hrow).2.1, (known row hrow).2.2.1⟩
    · exact Every.newDirectory host u (goodRow_renews host u) fun row hrow => (known row hrow).1
    · exact Keyed.newDirectory fun row hrow => (known row hrow).2.2.2
  | step _ a checked ih => exact ih.step checked

/-! ## Lists -/

def listSelfInfo (caller : Caller) : DeliverySource :=
  { sessionID := caller.sessionID, name := caller.name, product := caller.product,
    groups := caller.groups }

inductive ListOutcome
  | rejected
  | refused (code : Code)
  | listed (selfInfo : DeliverySource) (sessions : List SessionSummary)

/-- `list` on the host of the sessions; an empty label lists all. -/
def list (d : Directory) (around : Around) (keys : List String) (caller : Caller) (label : String) :
    ListOutcome :=
  match d.selectEntries around keys caller.groups (if label = "" then none else some [label]) ""
    false none none with
  | none => .rejected
  | some selection =>
    let items := selection.selected
    if label ≠ "" ∧ !items.head?.any fun first => first.code.isNone && first.item.isSome &&
        !first.ambiguous then
      .refused ((items.head?.bind Selected.code).getD .unknownSession)
    else .listed (listSelfInfo caller) (items.filterMap Selected.summary)

/-- A caller of this host that may make requests, or one of another host. -/
def Calls (d : Directory) (caller : Caller) : Prop :=
  (∃ s p, (d.sessions s).identity = some p ∧ d.current p s = true ∧ caller = d.federationCaller p) ∨
    ∃ there, validHost there = true ∧ validCaller d.unicode caller there = true

theorem summary_shown {around : Around} {keys groups : List String} (hk : d.Keys keys)
    {label : String} {selection : Selection}
    (h : d.selectEntries around keys groups (if label = "" then none else some [label]) "" false
      none none = some selection)
    {selected : Selected} (mem : selected ∈ selection.selected) {summary : SessionSummary}
    (found : selected.summary = some summary) :
    ∃ id p, d.Shown groups id p ∧ summary = d.summarize around p := by
  split at h
  · simp only [Directory.selectEntries, Option.some.injEq] at h
    subst h
    simp only [List.mem_mergeSort, List.mem_map, List.mem_filter, mem_keys hk] at mem
    obtain ⟨p, ⟨⟨id, entry⟩, tested⟩, rfl⟩ := mem
    cases found
    exact ⟨id, p, ⟨entry, listed_visible tested⟩, rfl⟩
  · simp only [Directory.selectEntries, List.mapM_cons, List.mapM_nil, Option.map_eq_some_iff] at h
    obtain ⟨items, mapped, rfl⟩ := h
    cases resolved : d.selectLabel around keys groups (validIDPart d.unicode) label with
    | none => simp [resolved] at mapped
    | some first =>
      have single : items = [first] := by simpa [resolved] using mapped.symm
      subst single
      obtain rfl : selected = first := by simpa using mem
      have item : selected.summary = selected.item.map (d.summarize around) := by
        unfold Directory.selectLabel at resolved
        simp only [Option.ite_none_left_eq_some, Option.some.injEq] at resolved
        obtain ⟨-, rfl⟩ := resolved
        rfl
      rw [item, Option.map_eq_some_iff] at found
      obtain ⟨p, target, rfl⟩ := found
      obtain ⟨id, shown⟩ := selectLabel_shown hk resolved target
      exact ⟨id, p, shown, rfl⟩

theorem Serves.summary_legal {matched : String → String → Bool} (h : d.Serves host u)
    (here : validHost host = true) (letters : Letters u matched) (around : Around) {id : String}
    {p : Ptr} (listed : d.entries id = some p) : (d.summarize around p).Legal matched := by
  have legal := (h.legalID listed).name
  have idle : (d.items p).attachment.isSome = false → (d.items p).running = false := by
    intro away
    exact h.sound.holds.idle p (by simpa using away)
  cases kind : (d.items p).peer with
  | true =>
    have row : GoodRow host u true (d.items p).row := kind ▸ h.rows.rows p
    obtain ⟨product, name, distinct, filled, policy⟩ := row
    refine ⟨⟨legal.ne, legal.length here⟩, product, ?_, ⟨distinct, filled⟩, ?_, idle, ?_⟩
    · exact name.imp_right fun name => ⟨name.length here, name.matches here letters⟩
    · intro lane
      simp [Directory.summarize, kind] at lane
    · intro policy' some_
      rw [show (d.summarize around p).policy = (d.items p).row.policy from rfl, policy] at some_
      cases some_
  | false =>
    obtain ⟨product, name, distinct, filled, -, policy, known, checked⟩ := h.lane listed kind
    refine ⟨⟨legal.ne, legal.length here⟩, product, ?_, ⟨distinct, filled⟩,
      fun _ => name.ne, idle, ?_⟩
    · exact .inr ⟨name.length here, name.matches here letters⟩
    · intro policy' some_
      rw [show (d.summarize around p).policy = (d.items p).row.policy from rfl, known] at some_
      cases some_
      exact checked

theorem Serves.self_legal {matched : String → String → Bool} (h : d.Serves host u)
    (here : validHost host = true) (letters : Letters u matched) {id : String} {p : Ptr}
    (listed : d.entries id = some p) : (listSelfInfo (d.federationCaller p)).Legal matched := by
  -- The caller shows what a list shows of it.
  have summary :=
    h.summary_legal here letters { info := fun _ => [], wire := fun _ => .taken } listed
  exact ⟨summary.id.1, summary.name, summary.product, summary.groups⟩

theorem ownedPart_legal {value there : String} {spaces : Bool}
    (h : ownedPart u value there spaces = true) : LegalName u there value := by
  unfold ownedPart at h
  split at h
  next part host' halves =>
    simp only [Bool.and_eq_true, beq_iff_eq, decide_eq_true_eq, List.all_eq_true] at h
    obtain ⟨⟨⟨rfl, long⟩, short⟩, printed⟩ := h
    have filled : part ≠ "" := by
      rintro rfl
      exact absurd long (by decide)
    refine ⟨part, ?_, ?_⟩
    · simp only [validNamePart, Bool.and_eq_true, decide_eq_true_eq, List.all_eq_true]
      exact ⟨⟨long, short⟩, fun c hc => (printed c hc).1⟩
    · rw [splitHost_eq halves, qualify, if_neg filled]
  · cases h

theorem validCaller_legal {matched : String → String → Bool} {caller : Caller} {there : String}
    (here : validHost there = true) (letters : Letters u matched)
    (valid : validCaller u caller there = true) : (listSelfInfo caller).Legal matched := by
  simp only [validCaller, Bool.and_eq_true, Bool.or_eq_true, beq_iff_eq, decide_eq_true_eq,
    Bool.not_eq_true'] at valid
  obtain ⟨⟨⟨⟨⟨⟨id, name⟩, product⟩, -⟩, -⟩, distinct⟩, filled⟩ := valid
  refine ⟨(ownedPart_legal id).ne, ?_, validHost_ne product, distinct, ?_⟩
  · rcases name with empty | name
    · exact .inl empty
    · have legal := ownedPart_legal name
      exact .inr ⟨legal.length here, legal.matches here letters⟩
  · exact fun empty => by simp [show "" ∈ caller.groups from empty] at filled

/-- Every summary that a daemon lists for a caller, and the caller's own identity, validate. -/
theorem listed_summaries_legal {matched : String → String → Bool} (here : validHost host = true)
    (letters : Letters u matched) (served : Served host u d) (around : Around) {keys : List String}
    (hk : d.Keys keys) {caller : Caller} (calls : d.Calls caller) (label : String)
    {selfInfo : DeliverySource} {sessions : List SessionSummary}
    (h : d.list around keys caller label = .listed selfInfo sessions) :
    validateDefinition matched "DeliverySource" selfInfo.value = true ∧
      ∀ summary ∈ sessions, validateDefinition matched "SessionSummary" summary.value = true := by
  have serves := served.serves
  unfold Directory.list at h
  split at h
  · cases h
  next selection selected =>
    simp only at h
    split at h
    · cases h
    · injection h with selfInfo_eq sessions_eq
      subst selfInfo_eq sessions_eq
      refine ⟨(validate_source matched _).mpr ?_,
        fun summary mem => (validate_summary matched _).mpr ?_⟩
      · rcases calls with ⟨s, p, -, current, rfl⟩ | ⟨there, valid, caller_⟩
        · unfold Directory.current Directory.listed at current
          simp only [Bool.and_eq_true, beq_iff_eq] at current
          exact serves.self_legal here letters current.1
        · exact validCaller_legal valid letters (serves.rows.unicode ▸ caller_)
      · obtain ⟨item, mem, found⟩ := List.mem_filterMap.mp mem
        obtain ⟨id, p, shown, rfl⟩ := summary_shown hk selected mem found
        exact serves.summary_legal here letters around shown.1

def onePeer : Directory :=
  (newDirectory "h" anyUnicode []).step
    (.hello 0 { sessionID := "a", product := "p", name := "n", groups := ["g"] } [])

/-- The peer has launched a lane. -/
def peerAndLane : Directory :=
  onePeer.run [.spawn 0 { name := "x", product := "kit", openOptions := some {} }, .startChild 0,
    .claim 1 0 { supportsMessageRun := true, product := "kit" } true, .openID 1 0 "l",
    .publish 1 0 1 none]

theorem peerAndLane_entries (id : String) :
    peerAndLane.entries id =
      if id = "l@h" then some 1 else if id = "a@h" then some 0 else none := by
  have entries : peerAndLane.entries =
      Function.update (Function.update (fun _ => none) "a@h" (some 0)) "l@h" (some 1) := rfl
  simp [entries, Function.update_apply]

/-- A peer that lists all finds itself and its lane. -/
theorem peerAndLane_summaries_legal :
    ∃ selfInfo sessions,
      peerAndLane.list stillAround ["a@h", "l@h"] (peerAndLane.federationCaller 0) "" =
        .listed selfInfo sessions ∧
      sessions.map (·.kind) = [.peer, .lane] ∧
      validateDefinition (fun _ _ => true) "DeliverySource" selfInfo.value = true ∧
      ∀ summary ∈ sessions,
        validateDefinition (fun _ _ => true) "SessionSummary" summary.value = true := by
  have peer : Served "h" anyUnicode onePeer := by
    refine .step (.start [] (fun _ => onePeer) ?_ ?_ ?_) _ ?_
    · exact fun row hrow => by cases hrow
    · exact fun row hrow => by cases hrow
    · exact List.nodup_nil
    · exact ⟨by decide, by decide⟩
  have served : Served "h" anyUnicode peerAndLane := peer.run (by simp [Checked])
  have keys : peerAndLane.Keys ["a@h", "l@h"] := by
    refine ⟨by decide, fun id => ?_⟩
    rw [peerAndLane_entries]
    split <;> [simp_all; split <;> simp_all]
  have calls : peerAndLane.Calls (peerAndLane.federationCaller 0) :=
    .inl ⟨0, 0, by decide +kernel, by decide +kernel, rfl⟩
  have letters : Letters anyUnicode fun _ _ => true := ⟨fun _ _ _ => rfl, fun _ _ _ => rfl⟩
  refine ⟨_, _, rfl, ?_, ?_⟩
  · rw [List.mergeSort_of_pairwise (by decide +kernel)]
    decide +kernel
  · exact listed_summaries_legal (by decide) letters served stillAround keys calls "" rfl

end Directory

end Sessionbus
