import Sessionbus.Directory.Spec

/-!
# What the sessions and the launches do

The calls of the directory's operations, as the sessions' run loops, the request handlers and
the goroutines of the launches make them, one call of a locked operation at a time. Only the
started child presents the token of its launch.
-/

namespace Sessionbus

namespace Party

@[simps, grind =]
def setOpening (p : Party) (opening : Opening) : Party := { p with opening }

/-- The session of a published lane. -/
@[simps, grind =]
def commit (p : Party) : Party := { p with opening := .none, committed := true }

/-- The session of a run loop that has returned. -/
@[simps, grind =]
def return_ (p : Party) : Party := { p with opening := .none, returned := true }

/-- The run loop takes its next event: it has not returned, and is not inside `finishOpen`. -/
def handles (p : Party) : Bool := !p.returned && p.opening != .reserved

/-- The run loop handles frames. -/
def reads (p : Party) : Bool := p.handles && !p.stopping && !p.closed

def launching (p : Party) : Bool := p.launch.isSome && !p.committed

def abortLaunch (p : Party) (answer : Answer) : Party :=
  if p.launchResult.isSome || p.committed then p else { p with launchResult := some answer }

/-- `recordStop`. -/
def stop (p : Party) : Party := { p with stopping := true, wireClosed := true }

/-- The failure of `finishOpen`. -/
def openFailed (p : Party) (answer : Answer) : Party :=
  ((p.setOpening .none).abortLaunch answer).stop

def timedOut (p : Party) : Party := if p.launching then (p.abortLaunch (.code .timeout)).stop else p

def shutDown (p : Party) : Party :=
  (if p.launching
    then p.abortLaunch (.error { code := .internal, data := .text "daemon shutting down" })
    else p).stop

/-- `connectionClosed` and `handleClosed`, without the directory's part. -/
def lost (p : Party) : Party :=
  let p := { p with closed := true, wireClosed := true }
  if p.launch.isSome then
    (if p.committed then p
    else
      p.abortLaunch
        (.error { code := .spawnFailed, data := failure none "worker exited before open" })).stop
  else p

/-- `startLane`. `sent` says that the wire took the request of `beginOpen`. -/
def startLane (p : Party) (l : Ptr) (launch : Launch) (row : Row) (hello : HelloDescription)
    (sent : Bool) : Party :=
  let p := { p with launch := some l, identity := some launch.entry }
  let field :=
    if !launch.describe && !hello.supportsMessageRun then "idle_message"
    else unsupported row.openOptions hello.supportedOpenFields
  if launch.describe || field ≠ "" then
    { p with
      launchResult :=
        some (if field ≠ "" then .code .unsupportedOpen else .value (.description hello))
      stopping := true }
  else if sent then { p with opening := .waiting }
  else
    (p.abortLaunch
      (.error { code := .spawnFailed, data := failure none "worker closed before open" })).stop

def policyClose (p : Party) : Party :=
  if p.stopping || p.closing || !p.committed then p else { p with closing := true }

end Party

namespace Directory

/-! ## Requests of sessions -/

/-- `federationCaller` of a local session. -/
def federationCaller (d : Directory) (p : Ptr) : Caller :=
  let item := d.items p
  { ownerLifetime := (item.lifetime.map fun o => (d.owners o).token).getD ""
    sessionID := item.row.sessionID, name := item.row.name, product := item.row.product
    privateGroup := privateGroup item.toEntry, groups := item.row.groups }

/-- The target under which `spawn` forwards a request. -/
def spawnTarget (d : Directory) (input : LaneSpawnRequest) : Option String :=
  if input.host ≠ "" ∧ input.host ≠ d.host then some ("spawn@" ++ input.host)
  else if input.resumeSessionID ≠ "" then
    match canonicalTarget input.resumeSessionID d.host (validIDPart d.unicode) with
    | some (id, host) => if host ≠ d.host then some id else none
    | none => none
  else none

/-- `spawn` on the lane's own host. -/
def spawnHere (d : Directory) (parent : Ptr) (caller : Caller) (input : LaneSpawnRequest) :
    Option Directory :=
  if input.resumeSessionID ≠ "" then
    (canonicalTarget input.resumeSessionID d.host (validIDPart d.unicode)).bind fun target =>
      d.reserveResume target.1 caller.groups parent input
  else (spawnRow d.unicode d.host caller input).bind fun row =>
    d.reserveFresh row parent input.trace

/-- A local session with a current identity handles a request. -/
def requests (d : Directory) (s : Ptr) : Bool :=
  (d.sessions s).reads && !(d.sessions s).launching &&
    match (d.sessions s).identity with
    | some p => d.current p s
    | none => false

/-- `spawn` of a local session. -/
def spawn (d : Directory) (s : Ptr) (input : LaneSpawnRequest) : Directory :=
  match d.callerOwner s, (d.sessions s).identity with
  | some parent, some p =>
    if input.host = "local" ∧ input.host ≠ d.host then d
    else
      match d.spawnTarget input with
      | some target => d.postCallerForward s target
      | none => (d.spawnHere parent (d.federationCaller p) input).getD d
  | _, _ => d

/-- `spawn` of a remote caller, for a target on this host. -/
def remoteSpawn (d : Directory) (caller : Caller) (input : LaneSpawnRequest) : Directory :=
  let (d, parent) := d.remoteOwner caller
  match parent, d.spawnTarget input with
  | some o, none => (d.spawnHere o caller input).getD d
  | _, _ => d

/-- `configureTrace` of a local session, as far as owners go. -/
def configureTrace (d : Directory) (s : Ptr) (label : String) : Directory :=
  match canonicalTarget label d.host (validIDPart d.unicode) with
  | some (id, host) => if host ≠ d.host then d.postCallerForward s id else d
  | none => d

/-! ## Launches -/

/-- `start.reply <- answer`. -/
def reply (d : Directory) (l : Ptr) (answer : Answer) : Directory :=
  d.setLaunch l ((d.launches l).reply answer)

def startChild (d : Directory) (l : Ptr) : Directory :=
  if l < d.nextLaunch then d.setLaunch l { d.launches l with child := true } else d

/-- `finishUnclaimed` up to `revokeLaunch`. -/
def revoke (d : Directory) (l : Ptr) (answer : Answer) : Directory :=
  match d.revokeLaunch l with
  | some d => d.setLaunch l ((d.launches l).setRevoked (some answer))
  | none => d

/-- The rest of `finishUnclaimed`. -/
def release (full : List Ptr) (d : Directory) (l : Ptr) : Directory :=
  match (d.launches l).revoked with
  | some answer =>
    let d := d.releaseLaunch full l
    (d.setLaunch l ((d.launches l).setRevoked none)).reply l answer
  | none => d

/-- A worker's hello. -/
def claim (d : Directory) (s l : Ptr) (hello : HelloDescription) (sent : Bool) : Directory :=
  if (d.sessions s).reads && (d.sessions s).identity.isNone && (d.launches l).child then
    match d.claimWorker s l hello.product with
    | some d =>
      let launch := d.launches l
      d.setSession s ((d.sessions s).startLane l launch (d.items launch.entry).row hello sent)
    | none => d
  else d

/-- `finishOpen` of a new lane up to `reserveID`. -/
def openID (d : Directory) (s l : Ptr) (id : String) : Directory :=
  if validIDPart d.unicode id then
    match d.reserveID (d.launches l).entry (qualify id d.host) with
    | (d, true) => d.setSession s ((d.sessions s).setOpening .reserved)
    | (d, false) =>
      d.setSession s ((d.sessions s).openFailed
        (.error { code := .spawnFailed, data := failure none "session id already exists" }))
  else d

/-- `spawnResult`: the mode is for the parent alone, as long as it is one. -/
def spawnResult (d : Directory) (s l : Ptr) : Value :=
  let launch := d.launches l
  let item := d.items launch.entry
  let attached (parent : Ptr) : Bool :=
    match d.entries (d.owners parent).id with
    | some p => (d.items p).lifetime == some parent && (d.items p).attachment.isSome
    | none => false
  let told := !d.closing && d.entries item.row.sessionID == some launch.entry &&
    item.attachment == some s && !item.claimed && item.parent == launch.parent &&
    launch.parent.any fun parent =>
      !(d.owners parent).ended && ((d.owners parent).host != "" || attached parent)
  .spawned item.row.sessionID (if told then
    item.row.policy.map fun policy =>
      { policy with trace := if launch.trace = "" then "off" else launch.trace }
  else item.row.policy)

/-- `finishOpen` from `publish` on; `restoreError` is of writing the old row back. -/
def publishLane (d : Directory) (s l : Ptr) (now : Nat) (restoreError : Option String) :
    Directory :=
  let fresh := (d.launches l).fresh
  match d.publish l s (if fresh then now else 0) with
  | some d =>
    let d := d.setSession s (d.sessions s).commit
    d.reply l (.value (d.spawnResult s l))
  | none =>
    d.setSession s ((d.sessions s).openFailed
      (if fresh then .error { code := .internal, data := .text "session publication failed" }
      else match restoreError with
        | some text => .error { code := .internal, data := .text text }
        | none => .code .alreadyConnected))

/-- The ID of a new lane is reserved, that of a resumed one was checked. -/
def mayPublish (d : Directory) (s l : Ptr) : Bool :=
  let p := d.sessions s
  !p.returned &&
    if (d.launches l).fresh then p.opening == .reserved else p.opening == .waiting && p.reads

/-- `finishLane`, or the end of a peer's run loop. -/
def finish (full : List Ptr) (d : Directory) (s : Ptr) (deleted : Bool) : Directory :=
  let p := d.sessions s
  let d :=
    match p.launch, p.identity with
    | some l, some item =>
      let d := if p.committed then d else d.releaseLaunch full l
      let d := match p.launchResult with
        | some answer => d.reply l answer
        | none => d
      if p.committed then d.offline item s (p.forget && deleted) else d
    | _, _ => d
  d.setSession s (d.sessions s).return_

/-! ## Steps -/

inductive Action
  | hello (s : Ptr) (value : PeerHello) (full : List Ptr)
  | spawn (s : Ptr) (input : LaneSpawnRequest)
  | configureTrace (s : Ptr) (label : String)
  | remoteSpawn (caller : Caller) (input : LaneSpawnRequest)
  | remoteConfigure (caller : Caller)
  | remoteEnded (event : LifetimeEvent) (full : List Ptr)
  | describe (product : String)
  | startChild (l : Ptr)
  | revoke (l : Ptr) (answer : Answer)
  | release (l : Ptr) (full : List Ptr)
  | claim (s l : Ptr) (hello : HelloDescription) (sent : Bool)
  /-- An error, an invalid result, or a row that was not written. -/
  | openFailed (s : Ptr) (answer : Answer)
  | openID (s l : Ptr) (id : String)
  | publish (s l : Ptr) (now : Nat) (restoreError : Option String)
  | execute (s : Ptr)
  | finishRun (s : Ptr)
  | beginClose (s : Ptr) (forget : Bool)
  | closeWritten (s : Ptr)
  | ownerEnd (s : Ptr)
  | reject (s : Ptr)
  | hardStop (s : Ptr)
  | closeWire (s : Ptr)
  | spawnTimeout (s : Ptr)
  | shutDown (s : Ptr)
  | exited (s : Ptr)
  | disconnect (s : Ptr) (full : List Ptr)
  | finish (s : Ptr) (deleted : Bool) (full : List Ptr)
  | closeOffline (p : Ptr)
  | finishOfflineClose (p : Ptr) (forget deleted : Bool)
  /-- There is a link or not, and its inbox has so many free places. -/
  | link (up : Bool) (room : Nat := outboxSize)
  | shutdown

/-- `admits` of `directory.go` for `turn.execute`. -/
def admitsRun (d : Directory) (p s : Ptr) : Bool :=
  (d.items p).attachment == some s && !(d.items p).claimed && !(d.items p).running

/-- Something the session's run loop does to its own state alone. -/
def handled (d : Directory) (s : Ptr) (f : Party → Party) : Directory :=
  if (d.sessions s).handles then d.setSession s (f (d.sessions s)) else d

def helloStep (full : List Ptr) (d : Directory) (s : Ptr) (value : PeerHello) : Directory :=
  if (d.sessions s).reads && (d.sessions s).launch.isNone &&
      validIDPart d.unicode value.sessionID &&
      (value.name == "" || validNamePart d.unicode value.name) && validHost value.product then
    (d.installPeer full s value).getD d
  else d

/-- A step of a session with its entry, while the loop handles events. -/
def withEntry (d : Directory) (s : Ptr) (f : Ptr → Directory) : Directory :=
  match (d.sessions s).identity with
  | some p => if (d.sessions s).handles then f p else d
  | none => d

def ownerEndStep (d : Directory) (s : Ptr) : Directory :=
  match (d.sessions s).inbox with
  | [] => d
  | o :: rest =>
    d.handled s fun p =>
      let p := { p with inbox := rest }
      match p.identity with
      | some e =>
        if (d.items e).parent = some o && (d.items e).nonpersistent && (d.owners o).ended then
          p.policyClose
        else p
      | none => p

def disconnectStep (full : List Ptr) (d : Directory) (s : Ptr) : Directory :=
  if (d.sessions s).handles && !(d.sessions s).closed then
    let d :=
      match (d.sessions s).identity with
      | some p => d.detach full p s
      | none => d
    d.setSession s (d.sessions s).lost
  else d

def step (d : Directory) : Action → Directory
  | .hello s value full => d.helloStep full s value
  | .spawn s input => if d.requests s then d.spawn s input else d
  | .configureTrace s label => if d.requests s then d.configureTrace s label else d
  | .remoteSpawn caller input => d.remoteSpawn caller input
  | .remoteConfigure caller => (d.remoteOwner caller).1
  | .remoteEnded event full => d.remoteEnded full event
  | .describe product => (d.reserveDescribe product).getD d
  | .startChild l => d.startChild l
  | .revoke l answer => d.revoke l answer
  | .release l full => d.release full l
  | .claim s l hello sent => d.claim s l hello sent
  | .openFailed s answer =>
    if (d.sessions s).opening == .reserved || (d.sessions s).opening == .waiting &&
        (d.sessions s).reads then
      d.setSession s ((d.sessions s).openFailed answer)
    else d
  | .openID s l id =>
    if (d.sessions s).launch = some l && (d.launches l).fresh &&
        (d.sessions s).opening == .waiting && (d.sessions s).reads then d.openID s l id
    else d
  | .publish s l now restoreError =>
    if (d.sessions s).launch = some l && now != 0 && d.mayPublish s l then
      d.publishLane s l now restoreError
    else d
  | .execute s =>
    d.withEntry s fun p =>
      if (d.sessions s).committed && d.admitsRun p s then d.admitted p .execute else d
  | .finishRun s => d.withEntry s fun p => d.finishRun p s
  | .beginClose s forget =>
    d.handled s fun p =>
      if p.committed && !p.stopping && !p.closing then { p with closing := true, forget } else p
  | .closeWritten s =>
    d.withEntry s fun p =>
      if (d.sessions s).committed && (d.sessions s).closing && !(d.sessions s).stopping &&
          !(d.sessions s).closed then
        d.admitted p .close
      else d
  | .ownerEnd s => d.ownerEndStep s
  | .reject s => d.handled s fun p => { p with stopping := true }
  | .hardStop s => d.handled s Party.stop
  | .closeWire s => d.setSession s { d.sessions s with wireClosed := true }
  | .spawnTimeout s => d.handled s Party.timedOut
  | .shutDown s => d.handled s Party.shutDown
  | .exited s => d.handled s fun p => { p with processExited := true }
  | .disconnect s full => d.disconnectStep full s
  | .finish s deleted full =>
    let p := d.sessions s
    if p.handles && p.closed && (p.launch.isNone || p.processExited) then d.finish full s deleted
    else d
  | .closeOffline p => (d.claimOffline p).getD d
  | .finishOfflineClose p forget deleted =>
    if d.offlineClosing.contains p then d.finishOfflineClose p forget deleted else d
  | .link up room => { d with linked := up, link := { d.link with room } }
  | .shutdown => { d with closing := true }

def run (d : Directory) (actions : List Action) : Directory := actions.foldl step d

end Directory

end Sessionbus
