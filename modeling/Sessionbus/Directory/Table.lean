import Sessionbus.Directory.Listing
import Sessionbus.Protocol.Written

/-!
# The durable session table

`table.go`: a file for each lane's row, written as JSON and read back when the daemon starts.
The file's name is a digest of the session ID, which is a parameter. A file is the text that
`encoding/json` reads in it.
-/

namespace Sessionbus

open Json

/-- How `time.Time` is written and read. -/
structure TimeText where
  write : Nat → String
  read : String → Option Nat
  read_write : ∀ at', read (write at') = some at'
  read_empty : read "" = none

/-! ## Writing -/

def LanePolicy.members (p : LanePolicy) : List (String × Raw) :=
  [("persistent", .bool p.persistent), ("auto_close_ms", .num (.ofNat p.autoCloseMS)),
    ("idle_message", .str p.idleMessage), ("notify", .bool p.notify)] ++
    omitEmpty "notify_target" p.notifyTarget ++ omitEmpty "owner_session_id" p.ownerSessionID ++
    omitEmpty "trace" p.trace

/-- A nil slice is written as null. -/
def textsRaw (values : List String) : Raw := if values = [] then .null else .arr (values.map .str)

def OpenOptions.members (o : OpenOptions) : List (String × Raw) :=
  omitEmpty "cwd" o.cwd ++ omitEmpty "permission_mode" o.permissionMode ++
    omitEmpty "model" o.model ++ omitEmpty "reasoning_effort" o.reasoningEffort ++
    if o.arguments = [] then [] else [("arguments", textsRaw o.arguments)]

def Row.members (time : TimeText) (r : Row) : List (String × Raw) :=
  (match r.policy with
    | some policy => [("policy", .obj policy.members)]
    | none => []) ++
  [("session_id", .str r.sessionID), ("product", .str r.product), ("name", .str r.name),
    ("groups", textsRaw r.groups), ("open", .obj r.openOptions.members),
    ("created_at", .str (time.write r.createdAt))]

def rowFile (digest : String → String) (id : String) : String := digest id ++ ".json"

/-- `table.write`: the name of the file and its text. -/
def Row.file (time : TimeText) (digest : String → String) (r : Row) : Option (String × List Char) :=
  if r.policy.any (·.trace != "") then none
  else some (rowFile digest r.sessionID, Json.write (.obj (r.members time)))

/-! ## Reading -/

/-- The struct `row`, with the text of its time. -/
def GoType.row : GoType :=
  .struct [("policy", .pointer lanePolicy), ("session_id", .string), ("product", .string),
    ("name", .string), ("groups", texts), ("open", openOptions), ("created_at", .string)]

namespace GoValue

def get (v : GoValue) (name : String) : Option GoValue :=
  match v with
  | .struct fields => fields.lookup name
  | _ => none

def text (v : GoValue) (name : String) : String :=
  match v.get name with
  | some (.string value) => value
  | _ => ""

def flag (v : GoValue) (name : String) : Bool :=
  match v.get name with
  | some (.bool value) => value
  | _ => false

def number (v : GoValue) (name : String) : Int :=
  match v.get name with
  | some (.int value) => value
  | _ => 0

def texts (v : GoValue) (name : String) : List String :=
  match v.get name with
  | some (.slice (some items) _) => items.filterMap fun
    | .string value => some value
    | _ => none
  | _ => []

def target (v : GoValue) (name : String) : Option GoValue :=
  match v.get name with
  | some (.pointer value) => value
  | _ => none

end GoValue

/-- The policy of a struct `LanePolicy`; the schema has no negative time. -/
def LanePolicy.ofGo (v : GoValue) : Option LanePolicy :=
  if v.number "auto_close_ms" < 0 then none
  else
    some
      { persistent := v.flag "persistent"
        autoCloseMS := (v.number "auto_close_ms").toNat
        idleMessage := v.text "idle_message"
        notify := v.flag "notify"
        notifyTarget := v.text "notify_target"
        ownerSessionID := v.text "owner_session_id"
        trace := v.text "trace" }

def OpenOptions.ofGo (v : GoValue) : OpenOptions :=
  { cwd := v.text "cwd"
    permissionMode := v.text "permission_mode"
    model := v.text "model"
    reasoningEffort := v.text "reasoning_effort"
    arguments := v.texts "arguments" }

/-- What rows were before there were policies. -/
def LanePolicy.legacy : LanePolicy := { persistent := true, autoCloseMS := 0, notify := false }

/-- The text of the policy has no member `trace`, be it null or empty. -/
def traceless : Option Raw → Bool
  | some (.obj members) => (members.lookup "trace").isNone
  | some .null | none => true
  | some _ => false

/-- `EncodeResult` of a `lane.spawn` result with this session ID and policy. -/
def spawnResult (id : String) (policy : LanePolicy) : Bool := id != "" && policy.legal

/-- Every time in the row is one that `time.Time` reads. -/
def timed (time : TimeText) (members : List (String × Raw)) : Bool :=
  members.all fun m =>
    fieldFor ["policy", "session_id", "product", "name", "groups", "open", "created_at"] m.1 !=
    some "created_at" ||
    match m.2 with
    | .null => true
    | .str text => (time.read text).isSome
    | _ => false

/-- A stored policy is checked, and then loses the passive delivery of old rows. -/
def storedPolicy (fields : List (String × Raw)) (id : String) (policy : LanePolicy) :
    Option LanePolicy :=
  if traceless (fields.lookup "policy") && spawnResult id policy then
    some { policy with idleMessage := "run" }
  else none

/-- One file of `openTable`. -/
def openRow (time : TimeText) (digest : String → String) (file : String) (text : List Char) :
    Option Row :=
  match parse text with
  | some (.obj members) =>
    let fields := lastWins members
    match GoType.row.decode GoType.row.zero (.obj members) with
    | some value =>
      let row : Row :=
        { sessionID := value.text "session_id"
          product := value.text "product"
          name := value.text "name"
          groups := value.texts "groups"
          openOptions := (value.get "open").elim {} OpenOptions.ofGo
          createdAt := (time.read (value.text "created_at")).getD 0 }
      if (fields.length == 6 || fields.length == 7) && GoType.row.knows (.obj members) &&
          timed time members && file == rowFile digest row.sessionID && row.name != "" &&
          decide (2 ≤ row.groups.length) then
        if fields.length = 6 then
          (storedPolicy fields row.sessionID .legacy).map fun policy =>
            { row with policy := some policy }
        else
          match value.target "policy" with
          | none => some row
          | some policy =>
            (LanePolicy.ofGo policy).bind fun policy =>
              (storedPolicy fields row.sessionID policy).map fun policy =>
                { row with policy := some policy }
      else none
    | none => none
  | _ => none

/-- What `os.ReadDir` and `os.ReadFile` find under a name. -/
inductive Stored
  | folder
  | unreadable
  | text (content : List Char)
deriving DecidableEq, Repr

/-- `filepath.Ext` is `.json`. -/
def isTableFile (name : String) : Bool := ".json".toList.isSuffixOf name.toList

def openFile (time : TimeText) (digest : String → String) (file : String × Stored) : Option Row :=
  match file.2 with
  | .text content => openRow time digest file.1 content
  | .folder | .unreadable => none

/-- The loop of `openTable`, with the rows it has so far. -/
def openFiles (time : TimeText) (digest : String → String) :
    List (String × Stored) → List Row → Option (List Row)
  | [], rows => some rows
  | file :: files, rows =>
    if !isTableFile file.1 then openFiles time digest files rows
    else
      match openFile time digest file with
      | some row =>
        if rows.any (fun r => r.sessionID == row.sessionID) ||
            rows.any (fun r => r.name == row.name) then none
        else openFiles time digest files (rows ++ [row])
      | none => none

/-- `openTable`, with the files of the directory in their order. -/
def openTable (time : TimeText) (digest : String → String) (files : List (String × Stored)) :
    Option (List Row) :=
  openFiles time digest files []

/-! ## What was written is read -/

section Values
variable (p : LanePolicy) (o : OpenOptions) (r : Row) (time : TimeText)

/-- The struct that holds a policy. -/
def LanePolicy.go : GoValue :=
  .struct [("persistent", .bool p.persistent), ("auto_close_ms", .int p.autoCloseMS),
    ("idle_message", .string p.idleMessage), ("notify", .bool p.notify),
    ("notify_target", .string p.notifyTarget), ("owner_session_id", .string p.ownerSessionID),
    ("trace", .string p.trace)]

def textsGo (values : List String) : GoValue :=
  .slice (if values = [] then none else some (values.map .string)) []

def OpenOptions.go : GoValue :=
  .struct [("cwd", .string o.cwd), ("permission_mode", .string o.permissionMode),
    ("model", .string o.model), ("reasoning_effort", .string o.reasoningEffort),
    ("arguments", textsGo o.arguments)]

def Row.go : GoValue :=
  .struct [("policy", .pointer (r.policy.map LanePolicy.go)), ("session_id", .string r.sessionID),
    ("product", .string r.product), ("name", .string r.name), ("groups", textsGo r.groups),
    ("open", r.openOptions.go), ("created_at", .string (time.write r.createdAt))]

end Values

section
variable {p : LanePolicy}

theorem LanePolicy.ofGo_go (p : LanePolicy) : LanePolicy.ofGo p.go = some p := by
  simp [LanePolicy.ofGo, LanePolicy.go, GoValue.number, GoValue.flag, GoValue.text, GoValue.get,
    List.lookup_cons]

theorem GoValue.texts_go {v : GoValue} {name : String} {values : List String}
    (h : v.get name = some (textsGo values)) : v.texts name = values := by
  unfold GoValue.texts
  rw [h, textsGo]
  by_cases empty : values = []
  · simp [empty]
  · simp only [empty, if_false, List.filterMap_map]
    exact List.filterMap_some

theorem OpenOptions.ofGo_go (o : OpenOptions) : OpenOptions.ofGo o.go = o := by
  have arguments : o.go.texts "arguments" = o.arguments := GoValue.texts_go rfl
  simp only [OpenOptions.ofGo, arguments]
  rfl

theorem policy_names (p : LanePolicy) : List.Sublist (p.members.map Prod.fst)
    ["persistent", "auto_close_ms", "idle_message", "notify", "notify_target", "owner_session_id",
      "trace"] := by
  simp only [LanePolicy.members, List.map_append]
  exact (((List.Sublist.refl ["persistent", "auto_close_ms", "idle_message", "notify"]).append
    (sublist_omitEmpty "notify_target" _)).append (sublist_omitEmpty "owner_session_id" _)).append
    (sublist_omitEmpty "trace" _)

theorem open_names (o : OpenOptions) : List.Sublist (o.members.map Prod.fst)
    ["cwd", "permission_mode", "model", "reasoning_effort", "arguments"] := by
  have arguments :
      List.Sublist
      ((if o.arguments = [] then [] else [("arguments", textsRaw o.arguments)] :
        List (String × Raw)).map Prod.fst) ["arguments"] := by
    split
    · exact List.nil_sublist _
    · exact List.Sublist.refl _
  simp only [OpenOptions.members, List.map_append]
  exact ((((sublist_omitEmpty "cwd" _).append (sublist_omitEmpty "permission_mode" _)).append
    (sublist_omitEmpty "model" _)).append (sublist_omitEmpty "reasoning_effort" _)).append arguments

theorem row_names (time : TimeText) (r : Row) : List.Sublist ((r.members time).map Prod.fst)
    ["policy", "session_id", "product", "name", "groups", "open", "created_at"] := by
  unfold Row.members
  cases r.policy with
  | none => exact List.sublist_cons_self _ _
  | some p => exact List.Sublist.refl _

theorem decode_policy (h : p.autoCloseMS ≤ 9223372036854775807) :
    GoType.lanePolicy.decode GoType.lanePolicy.zero (.obj p.members) = some p.go := by
  refine decode_written (by decide) (policy_names p) ?_
  simp [LanePolicy.members, lookup_omitEmpty, List.lookup_append, List.lookup_cons, decode_omitted,
    GoType.decode, parseInt64_ofNat h]

theorem decode_textsRaw (values : List String) :
    GoType.texts.decode GoType.texts.zero (textsRaw values) = some (textsGo values) := by
  unfold textsRaw textsGo
  by_cases empty : values = []
  · simp [empty, GoType.texts, GoType.decode]
  · simp [empty, decode_texts]

theorem decode_open (o : OpenOptions) :
    GoType.openOptions.decode GoType.openOptions.zero (.obj o.members) = some o.go := by
  refine decode_written (by decide) (open_names o) ?_
  have nil : GoType.texts.zero = .slice none [] := rfl
  by_cases empty : o.arguments = []
  · simp [OpenOptions.members, lookup_omitEmpty, List.lookup_append, decode_omitted, empty,
      textsGo, nil]
  · simp [OpenOptions.members, lookup_omitEmpty, List.lookup_append, List.lookup_cons,
      decode_omitted, empty, decode_textsRaw]

theorem decode_row (time : TimeText) {r : Row}
    (short : ∀ p ∈ r.policy, p.autoCloseMS ≤ 9223372036854775807) :
    GoType.row.decode GoType.row.zero (.obj (r.members time)) = some (r.go time) := by
  refine decode_written (by decide) (row_names time r) ?_
  unfold Row.members
  cases hp : r.policy with
  | none =>
    have absent : (GoType.pointer GoType.lanePolicy).zero = .pointer none := rfl
    simp [List.lookup_cons, absent, decode_textsRaw, decode_open, GoType.decode]
  | some p =>
    simp [List.lookup_cons, decode_pointer (decode_policy (short p hp)), decode_textsRaw,
      decode_open, GoType.decode]

theorem natural_omitEmpty {name value : String} {m : String × Raw} (h : m ∈ omitEmpty name value) :
    Natural m.2 := by
  rw [mem_omitEmpty h]
  trivial

theorem natural_policy (p : LanePolicy) : Natural (.obj p.members) := by
  apply natural_obj
  simp only [LanePolicy.members, List.mem_append, List.mem_cons, List.not_mem_nil, or_false]
  rintro m ((((rfl | rfl | rfl | rfl) | hm) | hm) | hm)
  · trivial
  · exact ⟨_, rfl⟩
  · trivial
  · trivial
  all_goals exact natural_omitEmpty hm

theorem natural_texts (values : List String) : Natural (textsRaw values) := by
  unfold textsRaw
  split
  · trivial
  · apply natural_arr
    simp only [List.mem_map]
    rintro x ⟨v, -, rfl⟩
    trivial

theorem natural_open (o : OpenOptions) : Natural (.obj o.members) := by
  apply natural_obj
  simp only [OpenOptions.members, List.mem_append]
  rintro m ((((hm | hm) | hm) | hm) | hm)
  case inr =>
    split at hm
    · exact absurd hm (by simp)
    · rw [List.mem_singleton.mp hm]
      exact natural_texts _
  all_goals exact natural_omitEmpty hm

theorem natural_row (time : TimeText) (r : Row) : Natural (.obj (r.members time)) := by
  apply natural_obj
  simp only [Row.members, List.mem_append, List.mem_cons, List.not_mem_nil, or_false]
  rintro m (hm | rfl | rfl | rfl | rfl | rfl | rfl)
  · split at hm
    · rw [List.mem_singleton.mp hm]
      exact natural_policy _
    · exact absurd hm (by simp)
  · trivial
  · trivial
  · trivial
  · exact natural_texts _
  · exact natural_open _
  · trivial

theorem shallow_omitEmpty (n : Nat) (name value : String) :
    (omitEmpty name value).all (fun m => shallow n m.2) = true := by
  unfold omitEmpty
  split
  · rfl
  · cases n <;> rfl

theorem shallow_texts (n : Nat) (values : List String) :
    shallow (n + 1) (textsRaw values) = true := by
  unfold textsRaw
  split
  · rfl
  · cases n <;> simp [shallow]

theorem shallow_row (time : TimeText) (r : Row) (n : Nat) :
    shallow (n + 3) (.obj (r.members time)) = true := by
  have policy : ∀ p : LanePolicy, shallow (n + 2) (.obj p.members) = true := fun p => by
    simp [LanePolicy.members, shallow, shallow_omitEmpty]
  have options : shallow (n + 2) (.obj r.openOptions.members) = true := by
    simp only [OpenOptions.members, shallow, List.all_append, shallow_omitEmpty, Bool.true_and]
    split
    · rfl
    · simp [shallow_texts]
  have text : ∀ value, shallow (n + 2) (.str value) = true := fun _ => rfl
  change (r.members time).all (fun m => shallow (n + 2) m.2) = true
  cases hp : r.policy <;> simp [Row.members, hp, policy, options, text, shallow_texts]

theorem knows_policy (p : LanePolicy) : GoType.lanePolicy.knows (.obj p.members) = true := by
  refine knows_written (fun m hm => (policy_names p).subset (List.mem_map_of_mem hm))
    fun f hf m _ _ => ?_
  simp only [List.mem_cons, List.not_mem_nil, or_false] at hf
  rcases hf with rfl | rfl | rfl | rfl | rfl | rfl | rfl <;> rfl

theorem knows_texts (raw : Raw) : GoType.texts.knows raw = true := by
  cases raw <;> simp [GoType.texts, GoType.knows]

theorem knows_open (o : OpenOptions) : GoType.openOptions.knows (.obj o.members) = true := by
  refine knows_written (fun m hm => (open_names o).subset (List.mem_map_of_mem hm))
    fun f hf m _ _ => ?_
  simp only [List.mem_cons, List.not_mem_nil, or_false] at hf
  rcases hf with rfl | rfl | rfl | rfl | rfl
  case inr.inr.inr.inr => exact knows_texts _
  all_goals rfl

theorem knows_row (time : TimeText) (r : Row) :
    GoType.row.knows (.obj (r.members time)) = true := by
  refine knows_written (fun m hm => (row_names time r).subset (List.mem_map_of_mem hm)) ?_
  have each : ∀ m ∈ r.members time, (m.1 = "policy" → GoType.lanePolicy.knows m.2 = true) ∧
      (m.1 = "open" → GoType.openOptions.knows m.2 = true) := by
    simp only [Row.members, List.mem_append, List.mem_cons, List.not_mem_nil, or_false]
    rintro m (hm | rfl | rfl | rfl | rfl | rfl | rfl)
    · split at hm
      · rw [List.mem_singleton.mp hm]
        exact ⟨fun _ => knows_policy _, by simp⟩
      · exact absurd hm (by simp)
    case inr.inr.inr.inr.inr.inl => exact ⟨by simp, fun _ => knows_open _⟩
    all_goals simp
  intro f hf m hm same
  simp only [List.mem_cons, List.not_mem_nil, or_false] at hf
  rcases hf with rfl | rfl | rfl | rfl | rfl | rfl | rfl
  · rw [GoType.knows]
    exact (each m hm).1 same
  · rfl
  · rfl
  · rfl
  · exact knows_texts _
  · exact (each m hm).2 same
  · rfl

theorem timed_row (time : TimeText) (r : Row) : timed time (r.members time) = true := by
  unfold timed
  rw [List.all_eq_true]
  intro m hm
  rw [fieldFor_self ((row_names time r).subset (List.mem_map_of_mem hm))]
  simp only [Row.members, List.mem_append, List.mem_cons, List.not_mem_nil, or_false] at hm
  rcases hm with hm | rfl | rfl | rfl | rfl | rfl | rfl
  · split at hm
    · rw [List.mem_singleton.mp hm]
      rfl
    · exact absurd hm (by simp)
  case inr.inr.inr.inr.inr.inr => simp [time.read_write]
  all_goals rfl

end

/-- What the table asks of a row before it takes it. -/
structure Row.Durable (r : Row) : Prop where
  id : r.sessionID ≠ ""
  name : r.name ≠ ""
  groups : 2 ≤ r.groups.length
  policy : ∃ p, r.policy = some p ∧ p.legal = true ∧ p.trace = "" ∧ p.idleMessage = "run"

theorem Row.Durable.opens {r : Row} (h : r.Durable) (time : TimeText) (digest : String → String) :
    ∃ text, r.file time digest = some (rowFile digest r.sessionID, text) ∧
      openRow time digest (rowFile digest r.sessionID) text = some r := by
  obtain ⟨p, hp, legal, trace, idle⟩ := h.policy
  refine ⟨Json.write (.obj (r.members time)), by simp [Row.file, hp, trace], ?_⟩
  have parsed := (spells_write (natural_row time r)).parse (shallow_row time r 9997)
  have short : ∀ q ∈ r.policy, q.autoCloseMS ≤ 9223372036854775807 := by
    rintro q hq
    cases hp.symm.trans hq
    simp only [LanePolicy.legal, Bool.and_eq_true, decide_eq_true_eq] at legal
    omega
  have decoded := decode_row time short
  have nodup : ((r.members time).map Prod.fst).Nodup := (row_names time r).nodup (by decide)
  have seven : (r.members time).length = 7 := by simp [Row.members, hp]
  have kept : lastWins (r.members time) = r.members time := lastWins_of_nodup nodup
  have groups : (r.go time).texts "groups" = r.groups := GoValue.texts_go rfl
  have options : ((r.go time).get "open").elim {} OpenOptions.ofGo = r.openOptions :=
    OpenOptions.ofGo_go r.openOptions
  have created : (time.read ((r.go time).text "created_at")).getD 0 = r.createdAt := by
    change (time.read (time.write r.createdAt)).getD 0 = r.createdAt
    rw [time.read_write, Option.getD_some]
  have policy : (r.go time).target "policy" = some p.go := by
    change r.policy.map LanePolicy.go = some p.go
    rw [hp, Option.map_some]
  have id : (r.go time).text "session_id" = r.sessionID := rfl
  have product : (r.go time).text "product" = r.product := rfl
  have name : (r.go time).text "name" = r.name := rfl
  have stored : storedPolicy (r.members time) r.sessionID p = some p := by
    have found : (r.members time).lookup "policy" = some (.obj p.members) := by
      simp [Row.members, hp]
    have absent : p.members.lookup "trace" = none := by
      simp [LanePolicy.members, lookup_omitEmpty, List.lookup_append, List.lookup_cons, trace]
    simp [storedPolicy, found, traceless, absent, spawnResult, h.id, legal, ← idle]
  simp [openRow, parsed, decoded, kept, seven, knows_row, timed_row, groups, options, created,
    policy, id, product, name, h.name, h.groups, LanePolicy.ofGo_go, stored]
  rw [← hp]

/-! ## Whole tables -/

section
variable (time : TimeText) (digest : String → String)

/-- No two rows have one ID or one name. -/
def Distinct (rows : List Row) : Prop := (rows.map Row.sessionID).Nodup ∧ (rows.map Row.name).Nodup

theorem Distinct.sublist {rows rows' : List Row} (h : Distinct rows) (s : List.Sublist rows' rows) :
    Distinct rows' :=
  ⟨(s.map Row.sessionID).nodup h.1, (s.map Row.name).nodup h.2⟩

theorem distinct_append {rows : List Row} {row : Row} :
    Distinct (rows ++ [row]) ↔ Distinct rows ∧
      (rows.any (fun r => r.sessionID == row.sessionID) || rows.any (fun r => r.name == row.name)) =
        false := by
  simp [Distinct, List.nodup_append, List.any_eq_false]
  grind

theorem openFiles_iff (files : List (String × Stored)) :
    ∀ {rows : List Row} (rows' : List Row), Distinct rows →
      (openFiles time digest files rows = some rows' ↔
        ∃ new, rows' = rows ++ new ∧ Distinct rows' ∧
          List.Forall₂ (fun f r => openFile time digest f = some r)
            (files.filter fun f => isTableFile f.1) new) := by
  induction files with
  | nil =>
    intro rows rows' distinct
    simp only [openFiles, List.filter_nil, Option.some.injEq]
    constructor
    · rintro rfl
      exact ⟨[], by simp, distinct, .nil⟩
    · rintro ⟨new, rfl, -, reads⟩
      cases reads
      simp
  | cons file files ih =>
    intro rows rows' distinct
    rw [openFiles, List.filter_cons]
    by_cases mine : isTableFile file.1 = true
    case neg =>
      simp only [mine]
      exact ih rows' distinct
    simp only [mine, Bool.not_true, Bool.false_eq_true, if_false, if_true]
    constructor
    · intro opened
      cases read : openFile time digest file with
      | none => simp [read] at opened
      | some row =>
        simp only [read, Option.ite_none_left_eq_some] at opened
        have more := distinct_append.mpr ⟨distinct, Bool.eq_false_iff.mpr opened.1⟩
        obtain ⟨new, rfl, all, reads⟩ := (ih rows' more).mp opened.2
        exact ⟨row :: new, by simp, all, .cons read reads⟩
    · rintro ⟨new, rfl, all, reads⟩
      cases reads with
      | @cons _ row _ new read reads =>
        have more : Distinct (rows ++ [row]) := all.sublist (by simp)
        obtain ⟨-, fresh⟩ := distinct_append.mp more
        simp only [read, fresh, Bool.false_eq_true, if_false]
        exact (ih _ more).mpr ⟨new, by simp, all, reads⟩

theorem isTableFile_rowFile (id : String) : isTableFile (rowFile digest id) = true := by
  unfold isTableFile rowFile
  rw [List.isSuffixOf_iff_suffix, String.toList_append]
  exact List.suffix_append _ _

/-- A table that opens still does with one more row, which is read as it was written. -/
theorem openTable_insert {before after : List (String × Stored)} {rows : List Row}
    (opened : openTable time digest (before ++ after) = some rows) {row : Row}
    (durable : row.Durable) (fresh : ∀ q ∈ rows, q.sessionID ≠ row.sessionID ∧ q.name ≠ row.name) :
    ∃ text rows', row.file time digest = some (rowFile digest row.sessionID, text) ∧
      openTable time digest (before ++ (rowFile digest row.sessionID, .text text) :: after) =
        some rows' ∧
      List.Perm rows' (row :: rows) := by
  obtain ⟨text, written, read⟩ := durable.opens time digest
  have empty : Distinct [] := ⟨by simp, by simp⟩
  obtain ⟨new, hnew, distinct, reads⟩ := (openFiles_iff time digest _ rows empty).mp opened
  rw [List.nil_append] at hnew
  subst hnew
  rw [List.filter_append] at reads
  -- The rows split where the files do.
  have first := List.forall₂_take (before.filter fun f => isTableFile f.1).length reads
  have last := List.forall₂_drop (before.filter fun f => isTableFile f.1).length reads
  rw [List.take_left] at first
  rw [List.drop_left] at last
  have both := List.take_append_drop (before.filter fun f => isTableFile f.1).length rows
  generalize rows.take _ = left at first both
  generalize rows.drop _ = right at last both
  have perm : List.Perm (left ++ row :: right) (row :: rows) := both ▸ List.perm_middle
  refine ⟨text, left ++ row :: right, written, ?_, perm⟩
  refine (openFiles_iff time digest _ _ empty).mpr ⟨_, rfl, ?_, ?_⟩
  · refine ⟨(perm.map Row.sessionID).nodup_iff.mpr ?_, (perm.map Row.name).nodup_iff.mpr ?_⟩
    · refine List.nodup_cons.mpr ⟨?_, distinct.1⟩
      simp only [List.mem_map, not_exists, not_and]
      exact fun q hq => (fresh q hq).1
    · refine List.nodup_cons.mpr ⟨?_, distinct.2⟩
      simp only [List.mem_map, not_exists, not_and]
      exact fun q hq => (fresh q hq).2
  · rw [List.filter_append, List.filter_cons, if_pos (isTableFile_rowFile digest row.sessionID)]
    exact List.rel_append first (.cons read last)

end

end Sessionbus
