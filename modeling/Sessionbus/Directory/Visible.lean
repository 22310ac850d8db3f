import Mathlib.Data.List.Sort
import Mathlib.Data.Set.Basic
import Sessionbus.Directory.Select

/-!
# Callers see what they share a group with

Two directories that show a caller the same entries answer it in the same way, whatever else they
hold, however their entries are numbered and in whatever order their maps are read.
-/

namespace Sessionbus

/-- What `selectEntries` and `route` read of an entry that the caller can see. -/
structure Sight where
  entry : Ptr
  row : Row
  peer : Bool
  claimed : Bool
  running : Bool
  wire : Option Postbox
  lifetime : Option Ownership
  info : Info

/-! The same with other numbers of entries. -/

def Sight.rename (σ : Ptr → Ptr) (v : Sight) : Sight := { v with entry := σ v.entry }

def Selected.rename (σ : Ptr → Ptr) (v : Selected) : Selected := { v with item := v.item.map σ }

def Selection.rename (σ : Ptr → Ptr) (v : Selection) : Selection :=
  { selected := v.selected.map (·.rename σ), offlineClose := v.offlineClose.map σ }

def RouteOutcome.rename (σ : Ptr → Ptr) : RouteOutcome → RouteOutcome
  | .awaits p => .awaits (σ p)
  | outcome => outcome

namespace Directory

/-- The daemon can be started on some rows and come to this directory. -/
def Reachable (d : Directory) : Prop :=
  ∃ host u rows actions, d = (newDirectory host u rows).run actions

theorem Reachable.sound {d : Directory} (h : d.Reachable) : d.Sound := by
  obtain ⟨host, u, rows, actions, rfl⟩ := h
  exact (sound_newDirectory host u rows).run actions

def sight (d : Directory) (around : Around) (p : Ptr) : Sight :=
  let item := d.items p
  { entry := p, row := item.row, peer := item.peer, claimed := item.claimed, running := item.running
    wire := item.attachment.map around.wire, lifetime := item.lifetime.map d.owners
    info := around.info p }

/-- All that a caller with these groups can see. -/
def sights (d : Directory) (around : Around) (groups : List String) : Set Sight :=
  { v | ∃ id p, d.entries id = some p ∧ visibleTo (d.items p) groups = true ∧ v = d.sight around p }

/-- The entry is listed under the ID and the caller can see it. -/
def Shown (d : Directory) (groups : List String) (id : String) (p : Ptr) : Prop :=
  d.entries id = some p ∧ visibleTo (d.items p) groups = true

/-- The caller cannot tell the two directories apart, but for the numbers of the entries. -/
structure Twins (σ : Ptr → Ptr) (d d' : Directory) (around around' : Around)
    (groups : List String) : Prop where
  shown : ∀ id p, d.Shown groups id p → d'.Shown groups id (σ p)
  onto : ∀ id p', d'.Shown groups id p' → ∃ p, d.Shown groups id p ∧ σ p = p'
  looks : ∀ id p, d.Shown groups id p → (d.sight around p).rename σ = d'.sight around' (σ p)

section

variable {σ : Ptr → Ptr} {d d' : Directory} {around around' : Around} {groups : List String}

theorem twins_of_sights (shape : d.Shape) (shape' : d'.Shape)
    (same : (d.sights around groups).image (Sight.rename σ) = d'.sights around' groups) :
    Twins σ d d' around around' groups := by
  have seen : ∀ id p, d.Shown groups id p →
      d'.Shown groups id (σ p) ∧ (d.sight around p).rename σ = d'.sight around' (σ p) := by
    intro id p h
    have mem : (d.sight around p).rename σ ∈ d'.sights around' groups := by
      rw [← same]
      exact ⟨_, ⟨id, p, h.1, h.2, rfl⟩, rfl⟩
    obtain ⟨id', p', entry', visible', look⟩ := mem
    obtain rfl : σ p = p' := congrArg Sight.entry look
    have row : (d.items p).row = (d'.items (σ p)).row := congrArg Sight.row look
    obtain rfl : id = id' := by
      rw [← (shape.ids _ _ h.1).1, ← (shape'.ids _ _ entry').1, row]
    exact ⟨⟨entry', visible'⟩, look⟩
  refine ⟨fun id p h => (seen id p h).1, fun id p' h => ?_, fun id p h => (seen id p h).2⟩
  have mem : d'.sight around' p' ∈ (d.sights around groups).image (Sight.rename σ) := by
    rw [same]
    exact ⟨id, p', h.1, h.2, rfl⟩
  obtain ⟨_, ⟨id', p, entry, visible, rfl⟩, look⟩ := mem
  have row : (d.items p).row = (d'.items p').row := congrArg Sight.row look
  obtain rfl : id' = id := by
    rw [← (shape.ids _ _ entry).1, ← (shape'.ids _ _ h.1).1, row]
  exact ⟨p, ⟨entry, visible⟩, congrArg Sight.entry look⟩

/-! ## One entry -/

theorem Twins.row (h : Twins σ d d' around around' groups) {id : String} {p : Ptr}
    (shown : d.Shown groups id p) : (d.items p).row = (d'.items (σ p)).row :=
  congrArg Sight.row (h.looks id p shown)

theorem Twins.attached (h : Twins σ d d' around around' groups) {id : String} {p : Ptr}
    (shown : d.Shown groups id p) :
    (d.items p).attachment.isSome = (d'.items (σ p)).attachment.isSome := by
  have wire :
      (d.items p).attachment.map around.wire = (d'.items (σ p)).attachment.map around'.wire :=
    congrArg Sight.wire (h.looks id p shown)
  simpa using congrArg Option.isSome wire

theorem Twins.inj (h : Twins σ d d' around around' groups) (shape : d.Shape)
    {id id' : String} {p q : Ptr} (shown : d.Shown groups id p) (shown' : d.Shown groups id' q)
    (same : σ p = σ q) : p = q := by
  obtain rfl : id = id' := by
    rw [← (shape.ids _ _ shown.1).1, ← (shape.ids _ _ shown'.1).1, h.row shown, h.row shown', same]
  exact Option.some.inj (shown.1.symm.trans shown'.1)

theorem Twins.summarize (h : Twins σ d d' around around' groups) {id : String} {p : Ptr}
    (shown : d.Shown groups id p) : d.summarize around p = d'.summarize around' (σ p) := by
  have attached := h.attached shown
  have look := h.looks id p shown
  simp only [sight, Sight.rename, Sight.mk.injEq] at look
  obtain ⟨-, row, peer, -, running, -, -, info⟩ := look
  simp only [Directory.summarize, row, peer, running, attached, info]

theorem Twins.routeLocked (h : Twins σ d d' around around' groups) (shape : d.Shape)
    (shape' : d'.Shape) {id : String} {p : Ptr} (shown : d.Shown groups id p)
    (request : RoutedCall) :
    d.routeLocked around (some p) request = d'.routeLocked around' (some (σ p)) request := by
  have shown' := h.shown id p shown
  have look := h.looks id p shown
  simp only [sight, Sight.rename, Sight.mk.injEq] at look
  obtain ⟨-, row, peer, claimed, -, wire, lifetime, -⟩ := look
  have live :
      ∀ token, ((d.items p).lifetime.any fun o => !(d.owners o).ended &&
        (d.owners o).token == token) =
      (d'.items (σ p)).lifetime.any fun o =>
        !(d'.owners o).ended && (d'.owners o).token == token := by
    intro token
    have mapped := congrArg (Option.any fun owner => !owner.ended && owner.token == token) lifetime
    rwa [Option.any_map, Option.any_map] at mapped
  have listed : d.listed p = true := by simp [Directory.listed, (shape.ids id p shown.1).1, shown.1]
  have listed' : d'.listed (σ p) = true := by
    simp [Directory.listed, (shape'.ids id (σ p) shown'.1).1, shown'.1]
  simp only [Directory.routeLocked, listed, listed', live, peer, claimed]
  cases attached : (d.items p).attachment with
  | none =>
    rw [attached, Option.map_none, eq_comm, Option.map_eq_none_iff] at wire
    rw [wire]
  | some s =>
    rw [attached, Option.map_some, eq_comm, Option.map_eq_some_iff] at wire
    obtain ⟨s', attached', same⟩ := wire
    rw [attached']
    simp only [same]

/-! ## Labels -/

/-- What the loop of `resolveLocked` makes of the entries with the name. -/
def sole : List Ptr → Option Ptr × Bool
  | [] => (none, false)
  | [p] => (some p, false)
  | _ => (none, true)

theorem resolveName_found (canonical : String) (p : Ptr) (l : List Ptr) :
    d.resolveName canonical groups l (some p) =
      sole (p :: l.filter (d.named canonical groups)) := by
  induction l with
  | nil => rfl
  | cons q l ih =>
    by_cases hq : d.named canonical groups q = true
    · simp [resolveName, hq, sole]
    · simp [resolveName, hq, ih]

theorem resolveName_none (canonical : String) (l : List Ptr) :
    d.resolveName canonical groups l none = sole (l.filter (d.named canonical groups)) := by
  induction l with
  | nil => rfl
  | cons q l ih =>
    by_cases hq : d.named canonical groups q = true
    · simp [resolveName, hq, resolveName_found]
    · simp [resolveName, hq, ih]

theorem sole_map (l : List Ptr) : sole (l.map σ) = Prod.map (Option.map σ) id (sole l) := by
  match l with
  | [] | [_] | _ :: _ :: _ => rfl

theorem sole_perm {l l' : List Ptr} (h : l.Perm l') : sole l = sole l' := by
  match l, h.length_eq with
  | [], _ => rw [h.symm.eq_nil]
  | [p], _ => rw [List.perm_singleton.mp h.symm]
  | p :: q :: l, length =>
    match l', length with
    | _ :: _ :: _, _ => rfl

theorem keys_nodup (shape : d.Shape) {keys : List String} (hk : d.Keys keys) :
    (keys.filterMap d.entries).Nodup := by
  refine hk.1.filterMap fun id id' p hp hp' => ?_
  rw [← (shape.ids id p hp).1, ← (shape.ids id' p hp').1]

theorem mem_keys {keys : List String} (hk : d.Keys keys) {p : Ptr} :
    p ∈ keys.filterMap d.entries ↔ ∃ id, d.entries id = some p := by
  rw [List.mem_filterMap]
  constructor
  · rintro ⟨id, -, entry⟩
    exact ⟨id, entry⟩
  · rintro ⟨id, entry⟩
    exact ⟨id, (hk.2 id).mpr (by simp [entry]), entry⟩

theorem Twins.perm (h : Twins σ d d' around around' groups) (shape : d.Shape) (shape' : d'.Shape)
    {keys keys' : List String} (hk : d.Keys keys) (hk' : d'.Keys keys') {test test' : Ptr → Bool}
    (seen : ∀ p, test p = true → visibleTo (d.items p) groups = true)
    (seen' : ∀ p, test' p = true → visibleTo (d'.items p) groups = true)
    (agree : ∀ id p, d.Shown groups id p → test p = test' (σ p)) :
    (((keys.filterMap d.entries).filter test).map σ).Perm
      ((keys'.filterMap d'.entries).filter test') := by
  have shown : ∀ p ∈ (keys.filterMap d.entries).filter test, ∃ id, d.Shown groups id p := by
    intro p hp
    rw [List.mem_filter, mem_keys hk] at hp
    obtain ⟨⟨id, entry⟩, tested⟩ := hp
    exact ⟨id, entry, seen p tested⟩
  have nodup : (((keys.filterMap d.entries).filter test).map σ).Nodup := by
    refine List.Nodup.map_on (fun p hp q hq same => ?_) ((keys_nodup shape hk).filter _)
    obtain ⟨id, here⟩ := shown p hp
    obtain ⟨id', there⟩ := shown q hq
    exact h.inj shape here there same
  rw [List.perm_ext_iff_of_nodup nodup ((keys_nodup shape' hk').filter _)]
  intro p'
  rw [List.mem_map, List.mem_filter, mem_keys hk']
  constructor
  · rintro ⟨p, hp, rfl⟩
    obtain ⟨id, here⟩ := shown p hp
    exact ⟨⟨id, (h.shown id p here).1⟩, by rw [← agree id p here, (List.mem_filter.mp hp).2]⟩
  · rintro ⟨⟨id, entry⟩, tested⟩
    obtain ⟨p, here, rfl⟩ := h.onto id p' ⟨entry, seen' p' tested⟩
    exact ⟨p, List.mem_filter.mpr ⟨(mem_keys hk).mpr ⟨id, here.1⟩, by rw [agree id p here, tested]⟩,
      rfl⟩

theorem Twins.resolveLocked (h : Twins σ d d' around around' groups) (shape : d.Shape)
    (shape' : d'.Shape) {keys keys' : List String} (hk : d.Keys keys) (hk' : d'.Keys keys')
    (canonical : String) :
    d'.resolveLocked keys' canonical groups =
      Prod.map (Option.map σ) id (d.resolveLocked keys canonical groups) := by
  have byID : ((d'.entries canonical).filter fun p => visibleTo (d'.items p) groups) =
      ((d.entries canonical).filter fun p => visibleTo (d.items p) groups).map σ := by
    ext p'
    simp only [Option.filter_eq_some_iff, Option.map_eq_some_iff]
    constructor
    · intro there
      obtain ⟨p, here, same⟩ := h.onto canonical p' there
      exact ⟨p, here, same⟩
    · rintro ⟨p, here, rfl⟩
      exact h.shown canonical p here
  have byName : d'.resolveName canonical groups (keys'.filterMap d'.entries) none =
      Prod.map (Option.map σ) id
      (d.resolveName canonical groups (keys.filterMap d.entries) none) := by
    rw [resolveName_none, resolveName_none, ← sole_map]
    refine (sole_perm (h.perm shape shape' hk hk' ?_ ?_ ?_)).symm
    · intro p tested
      simp only [named, Bool.and_eq_true] at tested
      exact tested.2
    · intro p tested
      simp only [named, Bool.and_eq_true] at tested
      exact tested.2
    · intro id p here
      simp only [named, h.row here, here.2, (h.shown id p here).2]
  simp only [Directory.resolveLocked, byID, byName]
  cases (d.entries canonical).filter fun p => visibleTo (d.items p) groups <;> rfl

theorem resolveLocked_shown {keys : List String} (hk : d.Keys keys) {canonical : String}
    {p : Ptr} {b : Bool} (h : d.resolveLocked keys canonical groups = (some p, b)) :
    ∃ id, d.Shown groups id p := by
  unfold Directory.resolveLocked at h
  cases found : (d.entries canonical).filter fun p => visibleTo (d.items p) groups with
  | some q =>
    simp only [found, Prod.mk.injEq, Option.some.injEq] at h
    obtain ⟨rfl, -⟩ := h
    exact ⟨canonical, Option.filter_eq_some_iff.mp found⟩
  | none =>
    simp only [found, resolveName_none] at h
    generalize hl : (keys.filterMap d.entries).filter (d.named canonical groups) = l at h
    match l with
    | [q] =>
      simp only [sole, Prod.mk.injEq, Option.some.injEq] at h
      obtain ⟨rfl, -⟩ := h
      have mem : q ∈ (keys.filterMap d.entries).filter (d.named canonical groups) := by simp [hl]
      rw [List.mem_filter, mem_keys hk] at mem
      obtain ⟨⟨id, entry⟩, tested⟩ := mem
      simp only [named, Bool.and_eq_true] at tested
      exact ⟨id, entry, tested.2⟩
    | [] | _ :: _ :: _ => simp [sole] at h

/-! ## Selections -/

theorem Twins.selectLabel (h : Twins σ d d' around around' groups) (shape : d.Shape)
    (shape' : d'.Shape) {keys keys' : List String} (hk : d.Keys keys) (hk' : d'.Keys keys')
    (host : d.host = d'.host) (valid : String → Bool) (label : String) :
    d'.selectLabel around' keys' groups valid label =
      (d.selectLabel around keys groups valid label).map (·.rename σ) := by
  unfold Directory.selectLabel
  rw [← host]
  obtain ⟨id, code⟩ := canonical label d.host valid
  simp only [h.resolveLocked shape shape' hk hk' id]
  split
  · rfl
  · cases found : d.resolveLocked keys id groups with
    | mk item ambiguous =>
      cases item with
      | none => rfl
      | some p =>
        obtain ⟨id', here⟩ := resolveLocked_shown hk found
        simp [Selected.rename, h.summarize here]

theorem selectLabel_shown {keys : List String} (hk : d.Keys keys) {valid : String → Bool}
    {label : String} {selected : Selected}
    (h : d.selectLabel around keys groups valid label = some selected) {p : Ptr}
    (item : selected.item = some p) : ∃ id, d.Shown groups id p := by
  unfold Directory.selectLabel at h
  simp only [Option.ite_none_left_eq_some, Option.some.injEq] at h
  obtain ⟨-, rfl⟩ := h
  exact resolveLocked_shown hk (Prod.ext item rfl)

theorem Twins.routeSelected (h : Twins σ d d' around around' groups) (shape : d.Shape)
    (shape' : d'.Shape) (request : RoutedCall) {first : Selected} (rest : List Selected)
    (shown : ∀ p, first.item = some p → ∃ id, d.Shown groups id p) :
    d'.routeSelected around' request (first.rename σ) (rest.map (·.rename σ)) =
      (d.routeSelected around request first rest).rename σ := by
  obtain ⟨label, item, summary, code, ambiguous⟩ := first
  unfold Directory.routeSelected Selected.rename
  cases code with
  | some _ => rfl
  | none =>
    cases item with
    | none => rfl
    | some p =>
      cases ambiguous with
      | true => rfl
      | false =>
        obtain ⟨id, here⟩ := shown p rfl
        have attached := h.attached here
        have look := h.looks id p here
        simp only [sight, Sight.rename, Sight.mk.injEq] at look
        obtain ⟨-, -, peer, claimed, -, -, -, -⟩ := look
        simp only [Option.map_some, ← Option.not_isSome, peer, claimed, ← attached,
          h.routeLocked shape shape' here request]
        split <;> simp [Selection.rename, Selected.rename]

theorem mapM_rename {f f' : String → Option Selected}
    (same : ∀ label, f' label = (f label).map (·.rename σ)) (labels : List String) :
    labels.mapM f' = (labels.mapM f).map (List.map (·.rename σ)) := by
  induction labels with
  | nil => rfl
  | cons label labels ih =>
    rw [List.mapM_cons, List.mapM_cons, same, ih]
    cases f label with
    | none => rfl
    | some first => cases labels.mapM f <;> rfl

theorem mapM_mem {α β : Type} {f : α → Option β} {l : List α} {r : List β} (h : l.mapM f = some r)
    {y : β} (hy : y ∈ r) : ∃ x, f x = some y := by
  induction l generalizing r with
  | nil =>
    simp only [List.mapM_nil, Option.pure_def, Option.some.injEq] at h
    subst h
    cases hy
  | cons x l ih =>
    simp only [List.mapM_cons, Option.pure_def, Option.bind_eq_bind, Option.bind_eq_some_iff,
      Option.some.injEq] at h
    obtain ⟨first, found, rest, later, rfl⟩ := h
    rcases List.mem_cons.mp hy with rfl | hy
    · exact ⟨x, found⟩
    · exact ih later hy

theorem listed_visible {group : String} {omitted : Option Ptr} {p : Ptr}
    (h : d.listed? groups group omitted p = true) : visibleTo (d.items p) groups = true := by
  unfold listed? at h
  rw [Bool.and_eq_true] at h
  exact h.1

theorem before_sorted (l : List Selected) :
    (l.mergeSort Selected.before).Pairwise fun left right => Selected.before left right = true := by
  apply List.pairwise_mergeSort
  · intro a b c hab hbc
    exact decide_eq_true ((of_decide_eq_true hab).trans (of_decide_eq_true hbc))
  · intro a b
    simpa [Selected.before] using le_total a.label b.label

theorem mergeSort_perm_eq {l l' : List Selected} (h : l.Perm l')
    (labels : ∀ a ∈ l, ∀ b ∈ l, a.label = b.label → a = b) :
    l.mergeSort Selected.before = l'.mergeSort Selected.before := by
  have perm : (l.mergeSort Selected.before).Perm (l'.mergeSort Selected.before) :=
    ((List.mergeSort_perm l _).trans h).trans (List.mergeSort_perm l' _).symm
  refine perm.eq_of_pairwise (fun a b ha hb hab hba => ?_) (before_sorted l) (before_sorted l')
  refine labels a (List.mem_mergeSort.mp ha) b (h.mem_iff.mpr (List.mem_mergeSort.mp hb)) ?_
  exact le_antisymm (of_decide_eq_true hab) (of_decide_eq_true hba)

/-- What the caller leaves out of its group is left out of both directories. -/
def Omits (σ : Ptr → Ptr) (d : Directory) (groups : List String)
    (omitted omitted' : Option Ptr) : Prop :=
  ∀ id p, d.Shown groups id p → (omitted = some p ↔ omitted' = some (σ p))

-- The sort by ID has one result, as no two listed entries have the same ID.
theorem Twins.listed (h : Twins σ d d' around around' groups) (shape : d.Shape) (shape' : d'.Shape)
    {keys keys' : List String} (hk : d.Keys keys) (hk' : d'.Keys keys') (group : String)
    {omitted omitted' : Option Ptr} (omits : Omits σ d groups omitted omitted') :
    (((keys'.filterMap d'.entries).filter (d'.listed? groups group omitted')).map
        (d'.listEntry around')).mergeSort Selected.before =
      ((((keys.filterMap d.entries).filter (d.listed? groups group omitted)).map
        (d.listEntry around)).mergeSort Selected.before).map (·.rename σ) := by
  have agree : ∀ id p, d.Shown groups id p →
      d.listed? groups group omitted p = d'.listed? groups group omitted' (σ p) := by
    intro id p here
    have left : (omitted == some p) = (omitted' == some (σ p)) := by
      rw [Bool.eq_iff_iff, beq_iff_eq, beq_iff_eq]
      exact omits id p here
    simp only [listed?, h.row here, here.2, (h.shown id p here).2, left]
  have perm := h.perm shape shape' hk hk' (fun _ => listed_visible) (fun _ => listed_visible) agree
  generalize there : (keys'.filterMap d'.entries).filter (d'.listed? groups group omitted') =
    found' at perm ⊢
  generalize here : (keys.filterMap d.entries).filter (d.listed? groups group omitted) =
    found at perm ⊢
  have shown : ∀ p ∈ found, ∃ id, d.Shown groups id p := by
    intro p hp
    rw [← here, List.mem_filter, mem_keys hk] at hp
    obtain ⟨⟨id, entry⟩, tested⟩ := hp
    exact ⟨id, entry, listed_visible tested⟩
  have looks : found.map (fun p => d'.listEntry around' (σ p)) =
      (found.map (d.listEntry around)).map (·.rename σ) := by
    rw [List.map_map]
    refine List.map_congr_left fun p hp => ?_
    obtain ⟨id, visible⟩ := shown p hp
    simp [listEntry, Selected.rename, h.row visible, h.summarize visible]
  have entries := perm.symm.map (d'.listEntry around')
  rw [List.map_map] at entries
  have sorted : (found'.map (d'.listEntry around')).Perm
      (((found.map (d.listEntry around)).mergeSort Selected.before).map (·.rename σ)) :=
    (entries.trans (List.Perm.of_eq looks)).trans ((List.mergeSort_perm _ _).symm.map _)
  rw [mergeSort_perm_eq sorted ?_]
  · refine List.mergeSort_of_pairwise ?_
    rw [List.pairwise_map]
    exact before_sorted _
  · intro a ha b hb same
    obtain ⟨p, hp, rfl⟩ := List.mem_map.mp ha
    obtain ⟨q, hq, rfl⟩ := List.mem_map.mp hb
    have listed : ∀ p' ∈ found', ∃ id, d'.entries id = some p' := by
      intro p' hp'
      rw [← there, List.mem_filter, mem_keys hk'] at hp'
      exact hp'.1
    obtain ⟨id, entry⟩ := listed p hp
    obtain ⟨id', entry'⟩ := listed q hq
    have ids : id = id' := by
      rw [← (shape'.ids id p entry).1, ← (shape'.ids id' q entry').1]
      exact same
    rw [ids, entry'] at entry
    rw [Option.some.inj entry]

theorem Twins.selectEntries (h : Twins σ d d' around around' groups) (shape : d.Shape)
    (shape' : d'.Shape) {keys keys' : List String} (hk : d.Keys keys) (hk' : d'.Keys keys')
    (host : d.host = d'.host) (unicode : d.unicode = d'.unicode) (labels : Option (List String))
    (group : String) (names : Bool) {omitted omitted' : Option Ptr}
    (omits : Omits σ d groups omitted omitted') (request : Option RoutedCall) :
    d'.selectEntries around' keys' groups labels group names omitted' request =
      (d.selectEntries around keys groups labels group names omitted request).map (·.rename σ) := by
  unfold Directory.selectEntries
  cases labels with
  | none =>
    simp only [h.listed shape shape' hk hk' group omits, Option.map_some, Selection.rename,
      Option.map_none]
  | some labels =>
    simp only [← unicode]
    generalize (if names then validNamePart d.unicode else validIDPart d.unicode) = valid
    rw [mapM_rename (h.selectLabel shape shape' hk hk' host valid) labels]
    cases found : labels.mapM (d.selectLabel around keys groups valid) with
    | none => rfl
    | some selected =>
      cases request with
      | none => rfl
      | some request =>
        cases selected with
        | nil => rfl
        | cons first rest =>
          obtain ⟨label, hlabel⟩ := mapM_mem found List.mem_cons_self
          simp only [Option.map_some, List.map_cons,
            h.routeSelected shape shape' request rest fun p => selectLabel_shown hk hlabel]

theorem Twins.routeSession (h : Twins σ d d' around around' groups) (shape : d.Shape)
    (shape' : d'.Shape) {keys keys' : List String} (hk : d.Keys keys) (hk' : d'.Keys keys')
    (host : d.host = d'.host) (unicode : d.unicode = d'.unicode) (label : String)
    (request : RoutedCall) :
    d'.routeSession around' keys' groups label request =
      (d.routeSession around keys groups label request).rename σ := by
  have nobody : Omits σ d groups none none := fun _ _ _ => by simp
  simp only [Directory.routeSession, ← host, ← unicode,
    h.selectEntries shape shape' hk hk' host unicode (some [label]) "" false nobody (some request)]
  split
  · rfl
  · split
    · rfl
    · cases d.selectEntries around keys groups (some [label]) "" false none (some request) with
      | none => rfl
      | some selection =>
        obtain ⟨selected, offlineClose⟩ := selection
        cases selected with
        | nil => rfl
        | cons first rest =>
          obtain ⟨label, item, summary, code, ambiguous⟩ := first
          cases item <;> cases ambiguous <;> cases code <;> rfl

end

/-- What callers with these groups are told, and which entry a label means, depends on what they can
see only, up to the numbers of entries. -/
theorem visible_entries_decide {d d' : Directory} (reach : d.Reachable) (reach' : d'.Reachable)
    (host : d.host = d'.host) (unicode : d.unicode = d'.unicode) {keys keys' : List String}
    (hk : d.Keys keys) (hk' : d'.Keys keys') {around around' : Around} {groups : List String}
    {σ : Ptr → Ptr}
    (same : (d.sights around groups).image (Sight.rename σ) = d'.sights around' groups) :
    (∀ canonical, d'.resolveLocked keys' canonical groups =
        Prod.map (Option.map σ) id (d.resolveLocked keys canonical groups)) ∧
      (∀ labels group names omitted omitted' request, Omits σ d groups omitted omitted' →
        d'.selectEntries around' keys' groups labels group names omitted' request =
          (d.selectEntries around keys groups labels group names omitted request).map
            (·.rename σ)) ∧
      ∀ label request, d'.routeSession around' keys' groups label request =
        (d.routeSession around keys groups label request).rename σ := by
  have shape := reach.sound.shape
  have shape' := reach'.sound.shape
  have twins := twins_of_sights shape shape' same
  refine ⟨twins.resolveLocked shape shape' hk hk',
    fun labels group names omitted omitted' request omits => ?_,
    twins.routeSession shape shape' hk hk' host unicode⟩
  exact twins.selectEntries shape shape' hk hk' host unicode labels group names omits request

/-- Two lanes of one name in different groups. -/
def seenRow : Row := { sessionID := "a@h", name := "n@h", groups := ["g"], createdAt := 1 }
def hiddenRow : Row := { sessionID := "b@h", name := "n@h", groups := ["x"], createdAt := 1 }

def anyUnicode : Unicode := { print := fun _ => true, space := fun _ => false }

def stillAround : Around := { info := fun _ => [], wire := fun _ => .taken }

def oneRow : Directory := newDirectory "h" anyUnicode [seenRow]
def twoRows : Directory := newDirectory "h" anyUnicode [hiddenRow, seenRow]

theorem oneRow_entries (id : String) : oneRow.entries id = if id = "a@h" then some 0 else none := by
  simp [oneRow, newDirectory, seenRow, Function.update_apply]

theorem twoRows_entries (id : String) :
    twoRows.entries id = if id = "a@h" then some 1 else if id = "b@h" then some 0 else none := by
  simp [twoRows, newDirectory, seenRow, hiddenRow, Function.update_apply]

theorem sights_rows : (oneRow.sights stillAround ["g"]).image
    (Sight.rename (· + 1)) = twoRows.sights stillAround ["g"] := by
  ext v
  constructor
  · rintro ⟨_, ⟨id, p, entry, -, rfl⟩, rfl⟩
    rw [oneRow_entries] at entry
    split at entry
    · obtain rfl := Option.some.inj entry
      exact ⟨"a@h", 1, by simp [twoRows_entries], by decide, rfl⟩
    · cases entry
  · rintro ⟨id, p, entry, visible, rfl⟩
    rw [twoRows_entries] at entry
    split at entry
    · obtain rfl := Option.some.inj entry
      exact ⟨_, ⟨"a@h", 0, by simp [oneRow_entries], by decide, rfl⟩, rfl⟩
    · split at entry
      · obtain rfl := Option.some.inj entry
        exact absurd visible (by decide)
      · cases entry

/-- A lane that the caller cannot see does not make a name ambiguous. -/
theorem visible_entries_decide_name :
    oneRow.resolveLocked ["a@h"] "n@h" ["g"] = (some 0, false) ∧
      twoRows.resolveLocked ["b@h", "a@h"] "n@h" ["g"] = (some 1, false) := by
  have keys : oneRow.Keys ["a@h"] := by
    refine ⟨by decide, fun id => ?_⟩
    rw [oneRow_entries]
    split <;> simp_all
  have keys' : twoRows.Keys ["b@h", "a@h"] := by
    refine ⟨by decide, fun id => ?_⟩
    rw [twoRows_entries]
    split <;> [simp_all; split <;> simp_all]
  have reach : oneRow.Reachable := ⟨"h", anyUnicode, [seenRow], [], rfl⟩
  have reach' : twoRows.Reachable := ⟨"h", anyUnicode, [hiddenRow, seenRow], [], rfl⟩
  have found : oneRow.resolveLocked ["a@h"] "n@h" ["g"] = (some 0, false) := by decide +kernel
  have decided := (visible_entries_decide reach reach' rfl rfl keys keys' sights_rows).1 "n@h"
  rw [found] at decided
  exact ⟨found, decided⟩

end Directory

end Sessionbus
