import Sessionbus.Directory.Private
import Sessionbus.Directory.Still
import Sessionbus.Directory.Tracing
import Sessionbus.Message.Legal

/-!
# The recipients of a reply encode

Every traced lane is published under an ID of this host, and its owner is a session of this host
with the row of a valid caller, or a caller of another host that was checked when it was recorded.
What a `message.send` collects is then valid, as long as the recorded callers have short lifetimes.
-/

namespace Sessionbus

/-! ## The rows of owners -/

/-- What makes the session of a row a valid caller, beside what `GoodRow` knows. -/
def OwnRow : Bool → Row → Prop
  | true, row => validHost row.product = true ∧ "session:" ++ row.sessionID ∈ row.groups
  | false, row => row.name = "" ∨ validHost row.product = true ∧ Sessioned (lanePrivate row)

theorem ownRow_lasting : Directory.Lasting OwnRow where
  lane _ _ _ h := h
  resumed _ _ _ _ _ h := h
  peer _ _ h := h
  described _ := .inl rfl

theorem mem_orderedPeerGroups (declared : List String) (ownGroup : String) :
    ownGroup ∈ orderedPeerGroups declared ownGroup := by
  unfold orderedPeerGroups
  split
  next held => simpa using held
  · simp

theorem unique_second {a b : String} (extra : List String) (hab : b ≠ a) :
    (unique ([a, b] ++ extra)).getD 1 "" = b := by
  have start : unique ([a, b] ++ extra) =
      extra.foldl (fun result value => if result.contains value then result else result ++ [value])
      [a, b] := by
    simp [unique, hab]
  obtain ⟨-, ⟨rest, heq⟩, -⟩ := unique_from extra [a, b] (by simp [hab.symm])
  rw [start, ← heq]
  rfl

theorem spawnRow_own {u : Unicode} {host : String} {caller : Caller}
    {input : LaneSpawnRequest} {row : Row} (sessioned : Sessioned caller.privateGroup)
    (heq : spawnRow u host caller input = some row) : OwnRow false row := by
  unfold spawnRow at heq
  simp only at heq
  split at heq
  · cases heq
  · simp only [Option.ite_none_right_eq_some, Option.map_eq_some_iff, Bool.and_eq_true] at heq
    obtain ⟨⟨⟨product, -⟩, -⟩, policy, -, rfl⟩ := heq
    refine .inr ⟨product, ?_⟩
    unfold lanePrivate
    rw [unique_second _ (path_ne _ _)]
    exact sessioned.below input.name

theorem validCaller_sessioned {u : Unicode} {caller : Caller} {host : String}
    (h : validCaller u caller host = true) : Sessioned caller.privateGroup := by
  simp only [validCaller, Bool.and_eq_true, List.isPrefixOf_iff_prefix] at h
  exact h.1.1.1.2

namespace Directory

variable {host : String} {u : Unicode} {d d' : Directory}

theorem Serves.sessioned (h : d.Serves host u) (own : d.Every OwnRow host u) {id : String} {p : Ptr}
    (listed : d.entries id = some p) : Sessioned (privateGroup (d.items p).toEntry) := by
  unfold privateGroup
  split
  · exact sessioned_append _
  next kind =>
    have lane : (d.items p).peer = false := Bool.eq_false_iff.mpr kind
    have named := (h.lane listed lane).2.1.ne
    exact ((own.lane lane).resolve_left named).2

theorem Wrote.own {row : Row} (wrote : d.Wrote row) (own : d.Every OwnRow host u) :
    OwnRow false row := by
  obtain ⟨id, p, createdAt, -, lane, -, rfl⟩ := wrote
  exact own.lane lane

theorem Serves.adds_own (h : d.Serves host u) (own : d.Every OwnRow host u) {a : Action}
    (checked : Checked u a) {peer : Bool} {row : Row} (adds : d.Adds a peer row) :
    OwnRow peer row := by
  cases a with
  | hello s value full =>
    obtain ⟨rfl, rfl, -, -, product⟩ := adds
    exact ⟨product, mem_orderedPeerGroups _ _⟩
  | spawn s input =>
    obtain ⟨rfl, -, p, -, current, spawned⟩ := adds
    unfold Directory.current Directory.listed at current
    simp only [Bool.and_eq_true, beq_iff_eq] at current
    exact spawnRow_own (h.sessioned own current.1) spawned
  | remoteSpawn caller input =>
    obtain ⟨rfl, -, spawned⟩ := adds
    obtain ⟨⟨there, -, valid⟩, -⟩ := checked
    exact spawnRow_own (validCaller_sessioned valid) spawned
  | _ => exact adds.elim

theorem Served.own (h : Served host u d) : d.Every OwnRow host u := by
  induction h with
  | start rows writer written _ _ ih =>
    exact Every.newDirectory host u (ownRow_lasting.renews host u) fun row hrow =>
      (written row hrow).own (ih row hrow)
  | step served a checked ih =>
    exact ih.step (ownRow_lasting.renews host u) served.serves.sound a fun _ _ adds =>
      served.serves.adds_own ih checked adds

theorem Served.validCaller (h : Served host u d) (named : Federation.validHost host = true)
    {id : String} {p : Ptr} (listed : d.entries id = some p)
    (ownerLifetime sourceAttachment : String) :
    validCaller u { ownerLifetime, sourceAttachment, sessionID := id, name := (d.items p).row.name
                    product := (d.items p).row.product,
                    privateGroup := privateGroup (d.items p).toEntry
                    groups := (d.items p).row.groups } host = true := by
  have serves := h.serves
  have legal : LegalID u host id := serves.keys id (by simp [listed])
  have sessioned := serves.sessioned h.own listed
  -- the parts of a peer's row and of a lane's row are known in different ways
  have ⟨name, product, held, distinct, filled⟩ :
      ((d.items p).row.name = "" ∨ LegalName u host (d.items p).row.name) ∧
      validHost (d.items p).row.product = true ∧
      privateGroup (d.items p).toEntry ∈ (d.items p).row.groups ∧ (d.items p).row.groups.Nodup ∧
      "" ∉ (d.items p).row.groups := by
    cases kind : (d.items p).peer with
    | true =>
      have good := serves.rows.rows p
      have own := h.own.rows p
      rw [kind] at good own
      obtain ⟨-, name, distinct, filled, -⟩ := good
      exact ⟨name, own.1, by simpa [privateGroup, kind] using own.2, distinct, filled⟩
    | false =>
      obtain ⟨-, name, distinct, filled, two, -⟩ := serves.lane listed kind
      have own := (h.own.lane kind).resolve_left name.ne
      have second : (d.items p).row.groups.getD 1 "" ∈ (d.items p).row.groups := by
        rw [List.getD_eq_getElem?_getD, List.getElem?_eq_getElem (by omega)]
        exact List.getElem_mem _
      exact ⟨.inr name, own.1, by simpa [privateGroup, kind, lanePrivate] using second,
        distinct, filled⟩
  have owned : (d.items p).row.name = "" ∨ ownedPart u (d.items p).row.name host true = true :=
    name.imp_right fun name => (Federation.legalName_suffix name named).2
  simp only [Sessionbus.validCaller, Bool.and_eq_true, Bool.or_eq_true, beq_iff_eq,
    List.isPrefixOf_iff_prefix, decide_eq_true_eq, Bool.not_eq_true', List.contains_eq_mem,
    decide_eq_false_iff_not]
  exact ⟨⟨⟨⟨⟨⟨(Federation.legalID_suffix legal named).2, owned⟩, product⟩, sessioned⟩, held⟩,
    distinct⟩, filled⟩

/-! ## Traced lanes -/

/-- A published lane, under an ID of this host, that no launch changes. -/
structure Placed (host : String) (u : Unicode) (d : Directory) (p : Ptr) : Prop where
  added : p < d.nextItem
  lane : (d.items p).peer = false
  settled : ∀ l, d.Open l → (d.launches l).entry ≠ p
  id : LegalID u host (d.items p).row.sessionID

theorem Serves.placed (h : d.Serves host u) {id : String} {p : Ptr} (listed : d.entries id = some p)
    (lane : (d.items p).peer = false) (free : (d.items p).claimed = false) : d.Placed host u p where
  added := (h.sound.shape.ids id p listed).2
  lane := lane
  settled l hl := by
    rintro rfl
    have claimed := (h.sound.holds.claimed l hl).1
    rw [free] at claimed
    cases claimed
  id := h.legalID listed

theorem Placed.later {p : Ptr} (h : d.Placed host u p) (later : Later d d') :
    d'.Placed host u p where
  added := h.added.trans_le later.items
  lane := (later.kind p h.added).1.trans h.lane
  settled l hl entry := h.settled l (later.open_old hl entry h.added).1
    (later.open_old hl entry h.added).2
  id := by
    rw [later.row p h.added h.lane h.settled]
    exact h.id

theorem published_placed {a : Action} {p : Ptr} (h : d.Serves host u) (checked : Checked u a)
    (published : d.published a = some p) : (d.step a).Placed host u p := by
  have serves := h.step checked
  cases a with
  | publish s l now restoreError =>
    simp only [Directory.published, Option.ite_none_right_eq_some, Bool.and_eq_true,
      decide_eq_true_eq, Option.some.injEq] at published
    obtain ⟨⟨⟨⟨launch, now'⟩, may⟩, publishes⟩, rfl⟩ := published
    have lane := (h.sound.shape.laneEntry l (h.sound.seats.lane s l launch).1).2
    have listed : d.listed (d.launches l).entry = true := by
      unfold Directory.publishes at publishes
      simp only [Bool.and_eq_true] at publishes
      exact publishes.1.1.1.2
    have heq : d.step (.publish s l now restoreError) = d.publishLane s l now restoreError := by
      simp [Directory.step, launch, now', may]
    rw [heq] at serves ⊢
    have items : ((d.publishLane s l now restoreError).items (d.launches l).entry) =
        (d.entryOf l).published (stamp (d.entryOf l).row (if (d.launches l).fresh then now else 0))
        s d.nextOwner := by
      simp [Directory.publishLane, Directory.publish, publishes, attach_items]
    have entries : (d.publishLane s l now restoreError).entries = d.entries := by
      unfold Directory.publishLane Directory.publish
      simp only [publishes, if_true]
      exact attach_entries l s (if (d.launches l).fresh then now else 0)
    have kept : (d.publishLane s l now restoreError).entries (d.entryOf l).row.sessionID =
        some (d.launches l).entry := by
      unfold Directory.listed at listed
      rw [entries]
      simpa using listed
    refine serves.placed kept ?_ ?_
    · rw [items]
      exact lane
    · rw [items]
      rfl
  | _ => cases published

end Directory

/-! ## Runs -/

section

variable {ok : Caller → Prop} {host : String} {u : Unicode} {t : Traced}

/-- The owner is of this host, or a caller that was checked. -/
def Recorded (ok : Caller → Prop) (host : String) (u : Unicode) (owner : Ownership) : Prop :=
  owner.host = "" ∨ ∃ caller, owner.caller = some caller ∧ Relayed u host caller ∧ ok caller ∧
    caller.ownerLifetime ≠ "" ∧ caller.sourceAttachment ≠ ""

theorem recorded_records : Directory.Records (Recorded ok host u) where
  here _ _ := .inl rfl
  changed _ _ _ h := h

structure Tracks (ok : Caller → Prop) (host : String) (u : Unicode) (t : Traced) : Prop where
  served : Directory.Served host u t.directory
  owners : t.directory.Owned (Recorded ok host u)
  policies : ∀ p, traceMode (t.policy p).mode = true →
    t.directory.Placed host u p ∧ ∃ bytes, (t.policy p).version = randomID "policy" bytes

theorem Tracks.directory (h : Tracks ok host u t) {a : Directory.Action}
    (checked : Directory.Checked u a)
    (relayed : ∀ caller, a.remoteCaller = some caller → Relayed u host caller ∧ ok caller)
    (mode : String) (bytes : Vector UInt8 12) :
    Tracks ok host u (t.step (.directory a mode bytes)) where
  served := h.served.step a checked
  owners := by
    refine h.owners.step recorded_records h.served.serves.sound a
      fun caller remote lifetime attachment => ?_
    obtain ⟨valid, bounded⟩ := relayed caller remote
    exact .inr ⟨caller, rfl, valid, bounded, lifetime, attachment⟩
  policies p := by
    have serves := h.served.serves
    simp only [Traced.step]
    split
    next published =>
      rw [Bool.and_eq_true, decide_eq_true_eq] at published
      exact fun _ => ⟨Directory.published_placed serves checked published.1, bytes, rfl⟩
    · split
      · intro none
        exact absurd none (by decide)
      · intro traced
        obtain ⟨placed, version⟩ := h.policies p traced
        exact ⟨placed.later (.step serves.sound a), version⟩

theorem Tracks.configure (h : Tracks ok host u t) (owner : Ptr) (id mode : String)
    (bytes : Vector UInt8 12) : Tracks ok host u (t.step (.configure owner id mode bytes)) := by
  simp only [Traced.step, Traced.configure]
  split
  · exact h
  next q listed =>
    split
    · exact h
    next guard =>
      simp only [Bool.or_eq_true, not_or, Bool.not_eq_true] at guard
      refine ⟨h.served, h.owners, fun p => ?_⟩
      simp only [Function.update_apply]
      split
      next same =>
        subst same
        exact fun _ => ⟨h.served.serves.placed listed guard.1.1.2 guard.2, bytes, rfl⟩
      · exact h.policies p

theorem Tracing.tracks (h : Tracing ok host u t) : Tracks ok host u t := by
  induction h with
  | start rows writer written served names tokens =>
    refine ⟨.start rows writer written served names,
      Directory.Owned.newDirectory recorded_records host u rows, ?_⟩
    intro p traced
    exact absurd traced (by simp [traceMode])
  | step _ a checked ih =>
    cases a with
    | directory a mode bytes => exact ih.directory checked.1 checked.2 mode bytes
    | configure owner id mode bytes => exact ih.configure owner id mode bytes

/-! ## Recipients -/

theorem byteLength_le (s : String) : byteLength s ≤ 4 * s.length := by
  unfold byteLength
  rw [← String.length_toList]
  induction s.toList with
  | nil => simp
  | cons c l ih =>
    have char := c.utf8Size_le_four
    rw [Json.size_cons, List.length_cons]
    omega

theorem byteLength_randomID {kind : String} (short : kind.length ≤ 100) (bytes : Vector UInt8 12) :
    byteLength (randomID kind bytes) ≤ 1024 := by
  have dash : "-".length = 1 := rfl
  have length : (randomID kind bytes).length = kind.length + 13 := by
    simp [randomID, String.length_append, String.length_ofList, dash]
  have bytes_ := byteLength_le (randomID kind bytes)
  omega

/-- The lifetime and the attachment are not longer than a recipient's may be. -/
def Bounded (caller : Caller) : Prop :=
  byteLength caller.ownerLifetime ≤ 1024 ∧ byteLength caller.sourceAttachment ≤ 1024

/-- What the owner of a recipient has to be, for a child of this host. -/
structure TraceOwner (host : String) (u : Unicode) (owner : Caller) (there : String) : Prop where
  named : Federation.validHost there = true
  valid : validCaller u owner there = true
  lifetime : owner.ownerLifetime ≠ ""
  bounded : Bounded owner
  attachment : if there = host then owner.sourceAttachment = "" else owner.sourceAttachment ≠ ""

theorem Tracks.traceOwner (h : Tracks Bounded host u t) (named : Federation.validHost host = true)
    {o : Ptr} {owner : Caller} (heq : t.traceOwner o = some owner) :
    ∃ there, TraceOwner host u owner there := by
  unfold Traced.traceOwner at heq
  simp only at heq
  split at heq
  · -- a session of this host, under the row that it has now
    split at heq
    · cases heq
    next q listed =>
      simp only [Option.ite_none_right_eq_some, Option.some.injEq] at heq
      obtain ⟨-, rfl⟩ := heq
      refine ⟨host, named, h.served.validCaller named listed _ _, randomID_ne (by decide) _,
        ⟨?_, by simp [byteLength]⟩, by simp⟩
      exact byteLength_randomID (by decide) _
  next remote =>
    obtain ⟨caller, recorded, ⟨there, valid_host, other, valid⟩, bounded, lifetime, attachment⟩ :=
      (h.owners o).resolve_left remote
    rw [recorded, Option.some.injEq] at heq
    subst heq
    exact ⟨there, valid_host, valid, lifetime, bounded, by simpa [other] using attachment⟩

theorem Tracks.snapshotTrace (h : Tracks Bounded host u t)
    (named : Federation.validHost host = true) {p : Ptr} {ref : TraceRecipient}
    (heq : t.snapshotTrace p = some ref) {target : String} (short : byteLength target ≤ 1024) :
    Federation.validTraceRecipient u { ref with target } "" = true ∧ LegalID u host ref.child := by
  unfold Traced.snapshotTrace at heq
  simp only [Option.ite_none_left_eq_some, Option.map_eq_some_iff, Option.bind_eq_some_iff] at heq
  obtain ⟨guard, owner, ⟨o, -, route⟩, rfl⟩ := heq
  simp only [Bool.or_eq_true, not_or, Bool.not_eq_true, Bool.not_eq_false'] at guard
  have mode := guard.1.2
  obtain ⟨placed, bytes, version⟩ := h.policies p mode
  obtain ⟨there, routed⟩ := h.traceOwner named route
  obtain ⟨child, part⟩ := Federation.legalID_suffix placed.id named
  refine ⟨?_, placed.id⟩
  have caller := routed.valid
  simp only [validCaller, Bool.and_eq_true] at caller
  have owner_host := Federation.ownedPart_suffix caller.1.1.1.1.1.1 routed.named
  unfold Federation.validTraceRecipient
  simp only [child, owner_host, part, version, routed.valid, Bool.true_and, BEq.rfl, Bool.true_or,
    Bool.and_true, Bool.and_eq_true, decide_eq_true_eq, bne_iff_ne, ne_eq]
  refine ⟨⟨⟨⟨⟨⟨⟨short, mode⟩, randomID_ne (by decide) _⟩, byteLength_randomID (by decide) _⟩,
    routed.lifetime⟩, routed.bounded.1⟩, routed.bounded.2⟩, ?_⟩
  have attachment := routed.attachment
  split
  next same => simpa [same] using attachment
  next other => simpa [other] using attachment

/-! ## Labels -/

theorem byteLength_short {s : String} (short : s.length ≤ 161) : byteLength s ≤ 1024 := by
  have bytes := byteLength_le s
  omega

namespace Directory

variable {d : Directory} {around : Around} {keys groups : List String}

theorem Serves.resolveLocked_empty (h : d.Serves host u) :
    (d.resolveLocked keys "" groups).1 = none := by
  have unlisted : d.entries "" = none := by
    by_contra listed
    exact (h.keys "" listed).name.ne rfl
  unfold Directory.resolveLocked
  rw [unlisted, Option.filter_none]
  simp only [resolveName_none]
  have unnamed : (keys.filterMap d.entries).filter (d.named "" groups) = [] := by
    rw [List.filter_eq_nil_iff]
    intro p _
    simp only [Directory.named, Bool.and_eq_true, bne_iff_ne, beq_iff_eq, not_and]
    rintro ⟨filled, empty⟩
    exact absurd empty filled
  rw [unnamed]
  rfl

theorem Serves.selectLabel_short (h : d.Serves host u) (valid_host : validHost host = true)
    {label : String} {selected : Selected}
    (heq : d.selectLabel around keys groups (validNamePart d.unicode) label = some selected)
    (found : selected.item ≠ none) : byteLength selected.label ≤ 1024 := by
  have short := validHost_length valid_host
  have at_ : "@".length = 1 := rfl
  unfold Directory.selectLabel at heq
  simp only [Option.ite_none_left_eq_some, Option.some.injEq, h.rows.host] at heq
  obtain ⟨legal, rfl⟩ := heq
  refine byteLength_short ?_
  simp only at found ⊢
  unfold canonical at legal found
  split at legal
  next part there split =>
    rw [split] at found
    simp only at found
    rw [splitHost_eq split, String.length_append, String.length_append, at_]
    split at legal
    · exact absurd rfl legal
    next part_valid =>
      rw [if_neg part_valid] at found
      split at legal
      next other =>
        rw [if_pos other] at found
        exact absurd h.resolveLocked_empty found
      next here =>
        simp only [Bool.or_eq_true, not_or, Bool.not_eq_true, decide_eq_true_eq, ne_eq,
          Decidable.not_not] at here
        simp only [Bool.not_eq_true', Bool.not_eq_false, validNamePart, Bool.and_eq_true,
          decide_eq_true_eq] at part_valid
        rw [here.2]
        omega
  next split =>
    split at legal
    next valid =>
      simp only [validNamePart, Bool.and_eq_true, decide_eq_true_eq] at valid
      omega
    · exact absurd rfl legal

theorem Serves.selected_short (h : d.Serves host u) (valid_host : validHost host = true)
    (hk : d.Keys keys) {labels : Option (List String)} {group : String} {omitted : Option Ptr}
    {selection : Selection}
    (heq : d.selectEntries around keys groups labels group true omitted none = some selection) :
    ∀ s ∈ selection.selected, s.item ≠ none → byteLength s.label ≤ 1024 := by
  intro s selected found
  cases labels with
  | none =>
    simp only [Directory.selectEntries, Option.some.injEq] at heq
    subst heq
    rw [List.mem_mergeSort, List.mem_map] at selected
    obtain ⟨p, shown, rfl⟩ := selected
    obtain ⟨id, listed⟩ := (mem_keys hk).mp (List.mem_of_mem_filter shown)
    exact byteLength_short ((h.legalID listed).name.length valid_host)
  | some labels =>
    simp only [Directory.selectEntries, if_true, Option.map_eq_some_iff] at heq
    obtain ⟨all, each, rfl⟩ := heq
    obtain ⟨label, one⟩ := mapM_mem each selected
    exact h.selectLabel_short valid_host one found

end Directory

theorem gather_selected (items : List Selected) (seen : List Ptr) :
    ∀ leg ∈ gather items seen, ∃ s ∈ items, leg.1.target = s.label ∧ leg.2 = s.item := by
  induction items generalizing seen with
  | nil => simp [gather]
  | cons s items ih =>
    intro leg hleg
    have later : ∀ seen', leg ∈ gather items seen' → ∃ s' ∈ s :: items, leg.1.target = s'.label ∧
        leg.2 = s'.item := by
      intro seen' inside
      obtain ⟨s', hs', same⟩ := ih seen' leg inside
      exact ⟨s', List.mem_cons_of_mem _ hs', same⟩
    unfold gather at hleg
    split at hleg
    · rcases List.mem_cons.mp hleg with rfl | hleg
      · exact ⟨s, by simp, rfl, rfl⟩
      · exact later _ hleg
    · split at hleg
      next item =>
        split at hleg
        · exact later _ hleg
        · rcases List.mem_cons.mp hleg with rfl | hleg
          · exact ⟨s, by simp, rfl, item.symm⟩
          · exact later _ hleg
      next item =>
        rcases List.mem_cons.mp hleg with rfl | hleg
        · exact ⟨s, by simp, rfl, rfl⟩
        · exact later _ hleg
      next item =>
        rcases List.mem_cons.mp hleg with rfl | hleg
        · exact ⟨s, by simp, rfl, item.symm⟩
        · exact later _ hleg

theorem legalID_printed {id : String} (legal : LegalID u host id)
    (named : Federation.validHost host = true) {c : Char} (control : u.print c = false)
    (low : c < '!') : c ∉ id.toList := by
  obtain ⟨part, valid, rfl⟩ := legal
  simp only [validIDPart, Bool.and_eq_true, List.all_eq_true] at valid
  intro inside
  unfold qualify at inside
  split at inside
  · simp at inside
  · simp only [String.toList_append, List.mem_append] at inside
    rcases inside with (inside | inside) | inside
    · exact absurd (valid.2 c inside).1 (by simp [control])
    · have at_ : c = '@' := by simpa using inside
      subst at_
      exact absurd low (by decide)
    · have shown := (validHost_ascii (Federation.validHost_host named) c inside).1
      exact absurd low (not_lt.mpr shown)

/-! ## What is collected -/

structure Collected (host : String) (u : Unicode) (refs : List TraceRecipient) : Prop where
  distinct : (refs.map TraceRecipient.child).Nodup
  few : refs.length ≤ Federation.maxTraceRecipients
  valid : ∀ r ∈ refs, Federation.validTraceRecipient u r "" = true
  children : ∀ r ∈ refs, LegalID u host r.child

theorem Collected.add {targets : TraceTargets} (h : Collected host u targets.refs)
    (budget : TraceBudget) {ref : TraceRecipient}
    (valid : Federation.validTraceRecipient u ref "" = true) (child : LegalID u host ref.child) :
    Collected host u (targets.add budget ref).refs := by
  unfold TraceTargets.add
  extract_lets raw
  split
  · exact h
  next guard =>
    split
    · simp only [Bool.or_eq_true, not_or, List.any_eq_true, beq_iff_eq, decide_eq_true_eq,
        not_exists, not_and] at guard
      obtain ⟨⟨⟨new, room⟩, -⟩, -⟩ := guard
      refine ⟨?_, ?_, ?_, ?_⟩
      · rw [List.map_append, List.map_singleton, List.nodup_append]
        refine ⟨h.distinct, List.nodup_singleton _, ?_⟩
        intro a ha b hb
        obtain ⟨r, hr, rfl⟩ := List.mem_map.mp ha
        rw [List.mem_singleton] at hb
        exact hb ▸ new r hr
      · rw [List.length_append, List.length_singleton]
        omega
      · rw [List.forall_mem_append]
        exact ⟨h.valid, by simpa using valid⟩
      · rw [List.forall_mem_append]
        exact ⟨h.children, by simpa using child⟩
    · exact h

namespace TraceSending

variable {env : TraceSending}

theorem collected_traceTarget (named : Federation.validHost host = true)
    (traces : ∀ i, Tracing Bounded host u (env.traced i)) {targets : TraceTargets}
    (h : Collected host u targets.refs) {leg : Leg × Nat}
    (short : leg.1.2 ≠ none → byteLength leg.1.1.target ≤ 1024) :
    Collected host u (env.traceTarget targets leg).refs := by
  unfold traceTarget
  split
  · exact h
  next ref found =>
    obtain ⟨p, item, snapshot⟩ := Option.bind_eq_some_iff.mp found
    obtain ⟨valid, child⟩ := (traces leg.2).tracks.snapshotTrace named snapshot
      (short (by simp [item]))
    exact h.add (env.budget leg.2) valid child

theorem collected_legs (named : Federation.validHost host = true)
    (traces : ∀ i, Tracing Bounded host u (env.traced i)) {legs : List (Leg × Nat)}
    (short : ∀ leg ∈ legs, leg.1.2 ≠ none → byteLength leg.1.1.target ≤ 1024)
    {targets : TraceTargets} (h : Collected host u targets.refs) :
    Collected host u (legs.foldl env.traceTarget targets).refs := by
  induction legs generalizing targets with
  | nil => exact h
  | cons leg legs ih =>
    rw [List.forall_mem_cons] at short
    exact ih short.2 (collected_traceTarget named traces h short.1)

theorem collected_none : Collected host u [] := ⟨by simp, Nat.zero_le _, by simp, by simp⟩

theorem collected (named : Federation.validHost host = true)
    (selects : Directory.Served host u env.directory) (keys : env.directory.Keys env.keys)
    (traces : ∀ i, Tracing Bounded host u (env.traced i)) (groups : List String)
    (labels : Option (List String)) (group : String) (omitted : Option Ptr) :
    Collected host u ((env.collect groups labels group omitted).getD []) := by
  unfold collect
  cases heq :
    env.directory.selectEntries env.around env.keys groups labels group true omitted none with
  | none => exact collected_none
  | some selection =>
    refine collected_legs named traces (fun leg hleg found => ?_) collected_none
    obtain ⟨s, selected, target, item⟩ :=
      gather_selected selection.selected [] leg.1 (List.fst_mem_of_mem_zipIdx hleg)
    rw [target]
    exact selects.serves.selected_short (Federation.validHost_host named) keys heq s selected
      (item ▸ found)

/-- Whatever a `message.send` for another host collects, the reply with it encodes, when the callers
of other hosts have bounded lifetimes. -/
theorem eligibility_encodes (env : TraceSending) (named : Federation.validHost host = true)
    (control : u.print '\x00' = false) (selects : Directory.Served host u env.directory)
    (keys : env.directory.Keys env.keys) (traces : ∀ i, Tracing Bounded host u (env.traced i))
    (groups : List String) (labels : Option (List String)) (group : String) (omitted : Option Ptr) :
    let trace := (env.collect groups labels group omitted).getD []
    (trace.map TraceRecipient.child).Nodup ∧ trace.length ≤ Federation.maxTraceRecipients ∧
      (∀ r ∈ trace, Federation.validTraceRecipient u r "" = true) ∧
      ∀ (compact : List Char → Option (List Char)) (reply : Federation.Reply),
        reply.trace = some trace → reply.result.isEmpty = !reply.error.isNone →
        (compact (reply.error.getD reply.result)).isSome = true →
        (Federation.encodeTraceReply u compact reply).isSome = true := by
  intro trace
  have h := collected named selects keys traces groups labels group omitted
  refine ⟨h.distinct, h.few, h.valid, fun compact reply attached one raw => ?_⟩
  have free : ∀ r ∈ trace, '\x00' ∉ r.child.toList := by
    intro r hr
    exact legalID_printed (h.children r hr) named control (by decide)
  exact Federation.encodeTraceReply_isSome attached h.few h.valid
    (Federation.nodup_keys free h.distinct) one raw

end TraceSending

end

/-! ## A lane of another host's session -/

def bareUnicode : Unicode := { print := fun c => c != '\x00', space := fun c => c == ' ' }

def boss (ownerLifetime : String) : Caller :=
  { ownerLifetime, sourceAttachment := "attachment-1", sessionID := "boss@far", name := "boss@far",
    product := "p"
    privateGroup := "session:boss@far", groups := ["session:boss@far"] }

/-- The session spawns a lane and asks for its events. -/
def bossActions (ownerLifetime : String) : List Directory.Action :=
  [.remoteSpawn (boss ownerLifetime)
    { name := "l", product := "p", host := "h", openOptions := some {} }, .startChild 0,
    .claim 0 0 { product := "p", supportsMessageRun := true } true, .openID 0 0 "l",
    .publish 0 0 1 none]

def bossLane (ownerLifetime : String) : Traced :=
  (bossActions ownerLifetime).foldl (fun t a => t.step (.directory a "events" (.replicate 12 0)))
    { directory := .newDirectory "h" bareUnicode [], tokens := fun _ => .replicate 12 0 }

/-- What a send meets when nothing else changes the directory. -/
def bossSend (ownerLifetime : String) : TraceSending :=
  { directory := (bossLane ownerLifetime).directory, around := Directory.stillAround,
    keys := ["l@h"]
    traced := fun _ => bossLane ownerLifetime, budget := fun _ => {} }

def bossRef (ownerLifetime : String) : TraceRecipient :=
  { child := "l@h", target := "l@h", mode := "events", version := "policy-aaaaaaaaaaaa",
    owner := boss ownerLifetime }

theorem boss_valid (ownerLifetime : String) :
    validCaller bareUnicode (boss ownerLifetime) "far" = true := by
  have same : validCaller bareUnicode (boss ownerLifetime) "far" =
      validCaller bareUnicode (boss "") "far" := rfl
  rw [same]
  decide +kernel

theorem bossLane_tracing {ok : Caller → Prop} {ownerLifetime : String}
    (h : ok (boss ownerLifetime)) : Tracing ok "h" bareUnicode (bossLane ownerLifetime) := by
  have start : Tracing ok "h" bareUnicode
      { directory := .newDirectory "h" bareUnicode [], tokens := fun _ => .replicate 12 0 } := by
    refine .start [] (fun _ => .newDirectory "h" bareUnicode []) ?_ ?_ ?_ _
    · exact fun row hrow => by cases hrow
    · exact fun row hrow => by cases hrow
    · exact List.nodup_nil
  have spawned :=
    start.step
    (.directory
      (.remoteSpawn (boss ownerLifetime)
        { name := "l", product := "p", host := "h", openOptions := some {} })
    "events" (.replicate 12 0)) (by
      refine ⟨⟨⟨"far", by decide, boss_valid ownerLifetime⟩, by decide⟩, ?_⟩
      rintro caller ⟨⟩
      exact ⟨⟨"far", by decide, by decide, boss_valid ownerLifetime⟩, h⟩)
  have own : ∀ {t : Traced} (a : Directory.Action), Tracing ok "h" bareUnicode t →
      Directory.Checked bareUnicode a → a.remoteCaller = none →
      Tracing ok "h" bareUnicode (t.step (.directory a "events" (.replicate 12 0))) := by
    intro t a reached checked here
    refine reached.step _ ⟨checked, fun caller remote => ?_⟩
    rw [here] at remote
    cases remote
  have started := own (.startChild 0) spawned trivial rfl
  have claimed :=
    own (.claim 0 0 { product := "p", supportsMessageRun := true } true) started trivial rfl
  have reserved := own (.openID 0 0 "l") claimed trivial rfl
  exact own (.publish 0 0 1 none) reserved trivial rfl

theorem bossSend_served {ok : Caller → Prop} {ownerLifetime : String}
    (h : Tracing ok "h" bareUnicode (bossLane ownerLifetime)) :
    Directory.Served "h" bareUnicode (bossSend ownerLifetime).directory := h.tracks.served

theorem bossSend_keys {ownerLifetime : String}
    (entries : (bossSend ownerLifetime).directory.entries =
      Function.update (fun _ => none) "l@h" (some 0)) :
    (bossSend ownerLifetime).directory.Keys (bossSend ownerLifetime).keys := by
  refine ⟨by simp [bossSend], fun id => ?_⟩
  rw [entries, Function.update_apply]
  by_cases same : id = "l@h" <;> simp [bossSend, same]

theorem boss_size {ownerLifetime : String} (filled : ownerLifetime ≠ "") :
    Json.size (boss ownerLifetime).json =
      Json.size (Json.member "owner_lifetime" (Json.quote ownerLifetime)) + 1 +
        Json.size (boss "").json := by
  have first :
      optional "owner_lifetime" ownerLifetime =
      [Json.member "owner_lifetime" (Json.quote ownerLifetime)] := by
    simp [optional, filled]
  have left_out : optional "owner_lifetime" "" = [] := by simp [optional]
  unfold Caller.json Json.object
  simp only [boss, first, left_out, List.nil_append, List.cons_append]
  rw [Json.size_enclose_cons]
  simp

theorem bossRef_size {ownerLifetime : String} (filled : ownerLifetime ≠ "") :
    Json.size (bossRef ownerLifetime).json =
      Json.size (Json.member "owner_lifetime" (Json.quote ownerLifetime)) + 1 +
        Json.size (bossRef "").json := by
  have target : optional "target" "l@h" = [Json.member "target" (Json.quote "l@h")] := by
    simp [optional]
  have member : ∀ value, Json.size (Json.member "owner" value) = Json.size (Json.quote "owner") +
      (1 + Json.size value) := by
    intro value
    rw [Json.member, Json.size_append, Json.size_cons]
    rfl
  unfold TraceRecipient.json Json.object
  simp only [bossRef, target, List.cons_append, List.nil_append, ne_eq, reduceCtorEq,
    not_false_eq_true, Json.size_enclose_cons, Json.size_enclose_singleton, member,
    boss_size filled]
  omega

def lifetimeOf (n : Nat) : String := .ofList (.replicate n 'x')

theorem mem_lifetimeOf {n : Nat} {c : Char} (h : c ∈ (lifetimeOf n).toList) : c = 'x' := by
  rw [lifetimeOf, String.toList_ofList] at h
  exact (List.mem_replicate.mp h).2

theorem lifetimeOf_length (n : Nat) : (lifetimeOf n).length = n := by
  rw [← String.length_toList, lifetimeOf, String.toList_ofList, List.length_replicate]

theorem lifetimeOf_bytes (n : Nat) : byteLength (lifetimeOf n) = n := by
  unfold byteLength
  rw [Json.size_eq_length, String.length_toList, lifetimeOf_length]
  intro c hc
  rw [mem_lifetimeOf hc]
  decide

theorem lifetimeOf_ne {n : Nat} (some_ : 0 < n) : lifetimeOf n ≠ "" := by
  intro empty
  have length := lifetimeOf_length n
  rw [empty] at length
  have none : "".length = 0 := rfl
  omega

theorem lifetimeOf_size {n : Nat} (some_ : 0 < n) :
    Json.size (bossRef (lifetimeOf n)).json ≤ n + 1024 := by
  have quoted : Json.size (Json.quote (lifetimeOf n)) = n + 2 := by
    rw [Json.size_quote_plain, lifetimeOf_length]
    intro c hc
    rw [mem_lifetimeOf hc]
    decide
  have short : Json.size (bossRef "").json ≤ 1000 := by decide +kernel
  have name : Json.size (Json.quote "owner_lifetime") = 16 := by decide +kernel
  have colon : Char.utf8Size ':' = 1 := by decide
  rw [bossRef_size (lifetimeOf_ne some_), Json.member, Json.size_append, Json.size_cons, quoted,
    name, colon]
  omega

theorem lifetimeOf_invalid {n : Nat} (long : 1024 < n) :
    Federation.validTraceRecipient bareUnicode (bossRef (lifetimeOf n)) "" = false := by
  have over_ : decide (byteLength (bossRef (lifetimeOf n)).owner.ownerLifetime ≤ 1024) = false := by
    have bytes : byteLength (bossRef (lifetimeOf n)).owner.ownerLifetime = n := lifetimeOf_bytes n
    rw [bytes, decide_eq_false_iff_not]
    omega
  unfold Federation.validTraceRecipient
  split
  · simp only [over_, Bool.and_false, Bool.false_and]
  · rfl

theorem bossSend_collect {ownerLifetime : String}
    (snapshot : (bossLane ownerLifetime).snapshotTrace 0 =
      some { bossRef ownerLifetime with target := "" })
    (selected : ((bossSend ownerLifetime).directory.selectEntries Directory.stillAround ["l@h"]
        ["session:boss@far"] (some ["l@h"]) "" true none none).map
      (fun selection => gather selection.selected []) = some [({ target := "l@h" }, some 0)])
    (size : Json.size (bossRef ownerLifetime).json ≤ 16384) :
    (bossSend ownerLifetime).collect ["session:boss@far"] (some ["l@h"]) "" none =
      some [bossRef ownerLifetime] := by
  obtain ⟨selection, heq, legs⟩ := Option.map_eq_some_iff.mp selected
  have traced : (bossSend ownerLifetime).traceTarget {} (({ target := "l@h" }, some 0), 0) =
      (TraceTargets.add {} {} (bossRef ownerLifetime)) := by
    unfold TraceSending.traceTarget
    have found : ((bossSend ownerLifetime).traced 0).snapshotTrace 0 =
        some { bossRef ownerLifetime with target := "" } := snapshot
    simp only [Option.bind_some, found]
    rfl
  have added : (TraceTargets.add {} {} (bossRef ownerLifetime)).refs = [bossRef ownerLifetime] := by
    unfold TraceTargets.add
    extract_lets raw
    have fits : raw ≤ 16384 := size
    have reserved : TraceTargets.reserves {} {} raw = true := by
      simp only [TraceTargets.reserves, TraceBudget.reserves, maxTraceBytes, maxTraceWork, if_true,
        Bool.not_false, Bool.true_and, Bool.and_eq_true, decide_eq_true_eq, Nat.zero_add]
      exact ⟨by omega, by decide⟩
    rw [if_neg, if_pos reserved]
    · rfl
    · simp only [List.any_nil, List.length_nil, Federation.maxTraceRecipients, Bool.false_or,
        Bool.or_eq_true, decide_eq_true_eq, not_or, not_lt, gt_iff_lt, Nat.zero_add]
      refine ⟨⟨by decide, fits⟩, ?_⟩
      omega
  have here : (bossSend ownerLifetime).directory.selectEntries (bossSend ownerLifetime).around
      (bossSend ownerLifetime).keys ["session:boss@far"] (some ["l@h"]) "" true none none =
      some selection := heq
  unfold TraceSending.collect
  rw [here, Option.map_some, legs]
  simp only [List.zipIdx_cons, List.zipIdx_nil, List.foldl_cons, List.foldl_nil, traced, added]

set_option maxRecDepth 20000 in
theorem longLane_entries :
    (bossSend (lifetimeOf 1025)).directory.entries =
      Function.update (fun _ => none) "l@h" (some 0) := rfl

theorem longLane_snapshot :
    (bossLane (lifetimeOf 1025)).snapshotTrace 0 =
      some { bossRef (lifetimeOf 1025) with target := "" } := by
  decide +kernel

theorem longLane_selected :
    ((bossSend (lifetimeOf 1025)).directory.selectEntries Directory.stillAround ["l@h"]
        ["session:boss@far"] (some ["l@h"]) "" true none none).map
      (fun selection => gather selection.selected []) = some [({ target := "l@h" }, some 0)] := by
  decide +kernel

/-- A lifetime of 1025 bytes passes the checks, and the reply to a later send does not encode. -/
theorem long_lifetime_refused :
    ∃ env : TraceSending, Directory.Served "h" bareUnicode env.directory ∧
      env.directory.Keys env.keys ∧ (∀ i, Tracing (fun _ => True) "h" bareUnicode (env.traced i)) ∧
      ∃ trace r, env.collect ["session:boss@far"] (some ["l@h"]) "" none = some trace ∧ r ∈ trace ∧
        Federation.validTraceRecipient bareUnicode r "" = false ∧
        ∀ (compact : List Char → Option (List Char)) (reply : Federation.Reply),
          reply.trace = some trace →
          Federation.encodeTraceReply bareUnicode compact reply = none := by
  have tracing : Tracing (fun _ => True) "h" bareUnicode (bossLane (lifetimeOf 1025)) :=
    bossLane_tracing trivial
  have invalid := lifetimeOf_invalid (n := 1025) (by decide)
  refine ⟨bossSend (lifetimeOf 1025), bossSend_served tracing, bossSend_keys longLane_entries,
    fun _ => tracing, [bossRef (lifetimeOf 1025)], bossRef (lifetimeOf 1025), ?_, by simp, invalid,
    fun compact reply attached => ?_⟩
  · refine bossSend_collect longLane_snapshot longLane_selected ?_
    have size := lifetimeOf_size (n := 1025) (by decide)
    omega
  · exact Federation.encodeTraceReply_none compact attached (List.mem_singleton_self _) invalid

/-- The same lane with a lifetime as the daemons make them. -/
theorem short_lifetime_encodes :
    ∃ trace, (bossSend "owner-aaaaaaaaaaaa").collect ["session:boss@far"] (some ["l@h"]) "" none =
        some trace ∧
      trace.length = 1 ∧ (trace.map TraceRecipient.child).Nodup ∧
      (∀ r ∈ trace, Federation.validTraceRecipient bareUnicode r "" = true) ∧
      (Federation.encodeTraceReply bareUnicode some
        { result := "\x7b\x7d".toList, trace := some trace }).isSome = true := by
  have tracing : Tracing Bounded "h" bareUnicode (bossLane "owner-aaaaaaaaaaaa") :=
    bossLane_tracing ⟨by decide, by decide⟩
  have entries : (bossSend "owner-aaaaaaaaaaaa").directory.entries =
      Function.update (fun _ => none) "l@h" (some 0) := rfl
  have collected : (bossSend "owner-aaaaaaaaaaaa").collect ["session:boss@far"]
      (some ["l@h"]) "" none = some [bossRef "owner-aaaaaaaaaaaa"] := by decide +kernel
  obtain ⟨distinct, -, valid, encodes⟩ :=
    TraceSending.eligibility_encodes (bossSend "owner-aaaaaaaaaaaa") (by decide) (by decide)
    (bossSend_served tracing) (bossSend_keys entries) (fun _ => tracing) ["session:boss@far"]
    (some ["l@h"]) "" none
  rw [collected] at distinct valid encodes
  exact ⟨_, collected, rfl, distinct, valid, encodes some _ rfl (by decide) rfl⟩

end Sessionbus
