import Mathlib.Data.List.Perm.Basic
import Mathlib.Data.List.Nodup
import Mathlib.Data.String.Basic
import Sessionbus.Directory.Runs
import Sessionbus.Json.Node

/-!
# Selecting entries for a caller

`resolveLocked`, `selectEntries` and `routeLocked` of `directory.go` and `route` of `handlers.go`.
A loop over the map of entries takes the keys in any order; the order is an argument here.
-/

namespace Sessionbus

inductive SessionKind
  | lane | peer
deriving DecidableEq, Repr

/-- The decoded members of an `info`. -/
abbrev Info := List (String × Json.Node Rat)

structure SessionSummary where
  sessionID : String
  kind : SessionKind
  product : String
  name : String
  groups : List String
  connected : Bool
  running : Bool
  info : Info
  policy : Option LanePolicy

/-- What `wire.Post` of a session does with a request. -/
inductive Postbox
  | taken | full | done
deriving DecidableEq, Repr

/-- What is read beside the directory: an entry's `info` and a session's wire. -/
structure Around where
  info : Ptr → Info
  wire : Ptr → Postbox

/-- What `routeLocked` reads of a `routedRequest`; a trace copy has a lifetime. -/
structure RoutedCall where
  method : Method
  traceLifetime : Option String := none
deriving DecidableEq, Repr

/-- An entry selected for a label. The summary is empty when there is none. -/
structure Selected where
  label : String
  item : Option Ptr := none
  summary : Option SessionSummary := none
  code : Option Code := none
  ambiguous : Bool := false

def Selected.before (left right : Selected) : Bool := decide (left.label ≤ right.label)

/-- What `selectEntries` returns, and the entry that it has claimed for `finishOfflineClose`. -/
structure Selection where
  selected : List Selected
  offlineClose : Option Ptr := none

/-- The qualified value and its code. -/
def canonical (value host : String) (valid : String → Bool) : String × Option Code :=
  match splitHost value with
  | some (part, there) =>
    if !valid part then ("", some .invalidFrame)
    else if !validHost there || there ≠ host then ("", some .unknownHost)
    else (value, none)
  | none => if valid value then (qualify value host, none) else ("", some .invalidFrame)

/-- What `session.route` does with a request at once. -/
inductive RouteOutcome
  | rejected
  | forwarded (target : String)
  | refused (code : Code)
  | awaits (item : Ptr)
deriving DecidableEq, Repr

namespace Directory

def visibleTo (item : Item) (groups : List String) : Bool :=
  visible item && shares groups item.row.groups

def summarize (d : Directory) (around : Around) (p : Ptr) : SessionSummary :=
  let item := d.items p
  { sessionID := item.row.sessionID
    kind := if item.peer then .peer else .lane
    product := item.row.product
    name := item.row.name
    groups := item.row.groups
    connected := item.attachment.isSome
    running := item.running
    info := around.info p
    policy := item.row.policy }

/-- Each entry once, in the order of the keys. -/
def Keys (d : Directory) (keys : List String) : Prop :=
  keys.Nodup ∧ ∀ id, id ∈ keys ↔ (d.entries id).isSome

def named (d : Directory) (canonical : String) (groups : List String) (p : Ptr) : Bool :=
  (d.items p).row.name != "" && (d.items p).row.name == canonical && visibleTo (d.items p) groups

/-- The loop of `resolveLocked`. -/
def resolveName (d : Directory) (canonical : String) (groups : List String) :
    List Ptr → Option Ptr → Option Ptr × Bool
  | [], found => (found, false)
  | p :: rest, found =>
    if d.named canonical groups p then
      match found with
      | some _ => (none, true)
      | none => d.resolveName canonical groups rest (some p)
    else d.resolveName canonical groups rest found

def resolveLocked (d : Directory) (keys : List String) (canonical : String) (groups : List String) :
    Option Ptr × Bool :=
  match (d.entries canonical).filter fun p => visibleTo (d.items p) groups with
  | some p => (some p, false)
  | none => d.resolveName canonical groups (keys.filterMap d.entries) none

def routeLocked (d : Directory) (around : Around) (item : Option Ptr) (request : RoutedCall) :
    Option Code :=
  match item with
  | none => some .notConnected
  | some p =>
    let item := d.items p
    if !d.listed p then some .notConnected
    else if item.claimed && request.method != .deliver then some .busy
    else if request.traceLifetime.any fun token =>
        !item.lifetime.any fun o =>
          !(d.owners o).ended && (d.owners o).token == token then some .notConnected
    else
      match item.attachment with
      | none => some .notConnected
      | some s =>
        if item.peer && request.method != .deliver then some .unknownSession
        else
          match around.wire s with
          | .taken => none
          | .done => some .notConnected
          | .full => some .busy

/-- The entries that are listed without labels, in no order. -/
def listed? (d : Directory) (groups : List String) (group : String) (omitted : Option Ptr)
    (p : Ptr) : Bool :=
  visibleTo (d.items p) groups &&
    !(group != "" && (omitted == some p || !(d.items p).row.groups.contains group))

def listEntry (d : Directory) (around : Around) (p : Ptr) : Selected :=
  { label := (d.items p).row.sessionID, item := some p, summary := some (d.summarize around p) }

/-- One label of `selectEntries`; `none` is the code `invalid_frame`. -/
def selectLabel (d : Directory) (around : Around) (keys groups : List String)
    (valid : String → Bool) (label : String) : Option Selected :=
  let (id, code) := canonical label d.host valid
  if code = some .invalidFrame then none
  else
    let (item, ambiguous) := d.resolveLocked keys id groups
    some { label, item, summary := item.map (d.summarize around), code, ambiguous }

/-- The request that comes with a first label. -/
def routeSelected (d : Directory) (around : Around) (request : RoutedCall) (first : Selected)
    (rest : List Selected) : Selection :=
  match first.code, first.item, first.ambiguous with
  | none, some p, false =>
    let item := d.items p
    if request.method == .close && !item.peer && item.attachment.isNone && !item.claimed then
      { selected := first :: rest, offlineClose := some p }
    else { selected := { first with code := d.routeLocked around (some p) request } :: rest }
  | _, _, _ => { selected := first :: rest }

/-- `selectEntries`; a request comes with at least one label. -/
def selectEntries (d : Directory) (around : Around) (keys groups : List String)
    (labels : Option (List String)) (group : String) (names : Bool) (omitted : Option Ptr)
    (request : Option RoutedCall) : Option Selection :=
  match labels with
  | none =>
    let found := ((keys.filterMap d.entries).filter (d.listed? groups group omitted)).map
      (d.listEntry around)
    some { selected := found.mergeSort Selected.before }
  | some labels =>
    let valid := if names then validNamePart d.unicode else validIDPart d.unicode
    (labels.mapM (d.selectLabel around keys groups valid)).map fun selected =>
      match request, selected with
      | some request, first :: rest => d.routeSelected around request first rest
      | _, _ => { selected }

/-- `route` of `handlers.go`. -/
def routeSession (d : Directory) (around : Around) (keys groups : List String) (label : String)
    (request : RoutedCall) : RouteOutcome :=
  match canonicalTarget label d.host (validIDPart d.unicode) with
  | none => .rejected
  | some (target, host) =>
    if host ≠ d.host then .forwarded target
    else
      match d.selectEntries around keys groups (some [label]) "" false none (some request) with
      | some { selected := selected :: _, .. } =>
        match selected.item, selected.ambiguous, selected.code with
        | some p, false, none => .awaits p
        | some _, false, some code => .refused code
        | _, _, code => .refused (code.getD .unknownSession)
      | _ => .rejected

end Directory

end Sessionbus
