import Sessionbus.Directory.Owners
import Sessionbus.Federation.Trace
import Sessionbus.Message.Send

/-!
# Eligibility for traces

`trace.go` of the daemon: which lanes are traced for their owners, and what a `message.send` that is
served for another host collects of them.
-/

namespace Sessionbus

/-! ## Trace policies -/

structure TracePolicy where
  mode : String := ""
  version : String := ""
deriving DecidableEq, Repr

def traceMode (mode : String) : Bool := mode == "events" || mode == "content"

/-- The directory with the trace policy of each entry. `tokens` are the bytes of its owners' tokens.
-/
structure Traced where
  directory : Directory
  policy : Ptr → TracePolicy := fun _ => {}
  tokens : Ptr → Vector UInt8 12

/-- An action on the directory, with the mode of a launch and the random bytes of its version; and
`configureTrace` on the lane's own host. -/
inductive TraceAction
  | directory (action : Directory.Action) (mode : String) (bytes : Vector UInt8 12)
  | configure (owner : Ptr) (id mode : String) (bytes : Vector UInt8 12)

namespace Directory

/-- The entry that the action publishes. -/
def published (d : Directory) : Action → Option Ptr
  | .publish s l now _ =>
    if (d.sessions s).launch = some l && now != 0 && d.mayPublish s l && d.publishes l then
      some (d.launches l).entry
    else none
  | _ => none

def ownerLive (d : Directory) (p : Ptr) : Bool :=
  (d.items p).parent.any fun o => !(d.owners o).ended

/-- `end` was called on the entry, or `endOwner` on its owner while it was listed. -/
def untraced (d d' : Directory) (p : Ptr) : Bool :=
  !(d.items p).done && (d'.items p).done ||
    d.listed p && (d.items p).parent.any fun o => !(d.owners o).ended && (d'.owners o).ended

end Directory

namespace Traced

/-- `configureTrace` for an owner of a lane here. -/
def configure (t : Traced) (owner : Ptr) (id : String) (policy : TracePolicy) : Traced :=
  let d := t.directory
  match d.entries id with
  | none => t
  | some p =>
    if d.closing || (d.owners owner).ended || (d.items p).peer || (d.items p).parent ≠ some owner ||
        (d.items p).claimed then t
    else { t with policy := Function.update t.policy p policy }

def step (t : Traced) : TraceAction → Traced
  | .directory a mode bytes =>
    let d := t.directory
    { t with
      directory := d.step a
      policy := fun p =>
        if d.published a = some p && d.ownerLive p then { mode, version := randomID "policy" bytes }
        else if d.untraced (d.step a) p then {}
        else t.policy p }
  | .configure owner id mode bytes =>
    t.configure owner id { mode, version := randomID "policy" bytes }

/-! ## Recipients -/

/-- The owner as `snapshotTrace` names it: an attached session of this host, or the recorded caller.
-/
def traceOwner (t : Traced) (o : Ptr) : Option Caller :=
  let d := t.directory
  let owner := d.owners o
  if owner.host = "" then
    match d.entries owner.id with
    | none => none
    | some q =>
      let parent := d.items q
      if parent.lifetime = some o && parent.attachment.isSome then
        some {
          ownerLifetime := randomID "owner" (t.tokens o), sessionID := owner.id,
            name := parent.row.name
          product := parent.row.product, privateGroup := privateGroup parent.toEntry,
            groups := parent.row.groups }
      else none
  else owner.caller

def snapshotTrace (t : Traced) (p : Ptr) : Option TraceRecipient :=
  let item := t.directory.items p
  let policy := t.policy p
  if item.peer || !traceMode policy.mode || !t.directory.ownerLive p then none
  else
    (item.parent.bind t.traceOwner).map fun owner =>
      { child := item.row.sessionID, mode := policy.mode, version := policy.version, owner }

end Traced

/-! ## Collecting -/

def maxTraceBytes : Nat := 4 <<< 20

def maxTraceWork : Nat := 256

/-- What the daemon's traces hold when a recipient is added. -/
structure TraceBudget where
  closing : Bool := false
  count : Nat := 0
  bytes : Nat := 0

/-- `reserveTrace`. -/
def TraceBudget.reserves (b : TraceBudget) (size : Nat) : Bool :=
  !b.closing && b.bytes + size ≤ maxTraceBytes && b.count < maxTraceWork

/-- `traceTargets` and `traceTargetsBytes` of a session. -/
structure TraceTargets where
  refs : List TraceRecipient := []
  bytes : Nat := 0

/-- The first recipient reserves a trace, and the others only their bytes. -/
def TraceTargets.reserves (targets : TraceTargets) (budget : TraceBudget) (size : Nat) : Bool :=
  if targets.bytes = 0 then budget.reserves size else budget.bytes + size ≤ maxTraceBytes

/-- `addTraceRef` for a request of another host. -/
def TraceTargets.add (targets : TraceTargets) (budget : TraceBudget) (ref : TraceRecipient) :
    TraceTargets :=
  let raw := Json.size ref.json
  if targets.refs.any (·.child == ref.child) ||
      Federation.maxTraceRecipients ≤ targets.refs.length || raw > 16384 ||
      targets.bytes + raw > 65536 then targets
  else if targets.reserves budget raw then
    { refs := targets.refs ++ [ref], bytes := targets.bytes + raw }
  else targets

/-- What one `send` meets when it selects, and when it traces the entry at an index. -/
structure TraceSending where
  directory : Directory
  around : Around
  keys : List String
  traced : Nat → Traced
  budget : Nat → TraceBudget

namespace TraceSending

variable (env : TraceSending)

/-- `traceTarget` for the leg at the index. -/
def traceTarget (targets : TraceTargets) (leg : Leg × Nat) : TraceTargets :=
  match leg.1.2.bind (env.traced leg.2).snapshotTrace with
  | none => targets
  | some ref => targets.add (env.budget leg.2) { ref with target := leg.1.1.target }

/-- The recipients that `traceReply` attaches; `none` is the code `invalid_frame`. -/
def collect (groups : List String) (labels : Option (List String)) (group : String)
    (omitted : Option Ptr) : Option (List TraceRecipient) :=
  (env.directory.selectEntries env.around env.keys groups labels group true omitted none).map
    fun selection =>
    ((gather selection.selected []).zipIdx.foldl env.traceTarget {}).refs

end TraceSending

/-! ## Runs -/

/-- What `decodeForward` has checked of the caller of a request from another host. -/
def Relayed (u : Unicode) (host : String) (caller : Caller) : Prop :=
  ∃ there, Federation.validHost there = true ∧ there ≠ host ∧ validCaller u caller there = true

/-- A checked action, for callers of other hosts that are `ok`. -/
def TraceAction.Checked (ok : Caller → Prop) (host : String) (u : Unicode) : TraceAction → Prop
  | .directory a _ _ => Directory.Checked u a ∧ ∀ caller, a.remoteCaller = some caller →
    Relayed u host caller ∧ ok caller
  | .configure _ _ _ _ => True

/-- The states of a host's daemons. -/
inductive Tracing (ok : Caller → Prop) (host : String) (u : Unicode) : Traced → Prop
  | start (rows : List Row) (writer : Row → Directory)
      (written : ∀ row ∈ rows, (writer row).Wrote row)
      (served : ∀ row ∈ rows, Directory.Served host u (writer row))
      (names : (rows.map Row.name).Nodup) (tokens : Ptr → Vector UInt8 12) :
      Tracing ok host u { directory := .newDirectory host u rows, tokens }
  | step {t : Traced} (reached : Tracing ok host u t) (a : TraceAction)
      (checked : a.Checked ok host u) : Tracing ok host u (t.step a)

end Sessionbus
