import Sessionbus.Directory.State

/-!
# The operations of the directory

What `directory.go`, `ownership.go` and `policy.go` do under the directory mutex. An operation
that can be refused returns `none` then, and nothing has changed.
-/

namespace Sessionbus

/-! ## Policies and rows of new lanes -/

/-- What the definition `LanePolicy` of the schema asks of a policy. -/
def LanePolicy.legal (p : LanePolicy) : Bool :=
  p.autoCloseMS ≤ 9223372036854 && ["stage", "run"].contains p.idleMessage &&
    (p.trace == "" || ["off", "events", "content"].contains p.trace)

def normalizePolicy (input : LaneSpawnRequest) (previous : Option LanePolicy) (ownerID : String) :
    Option LanePolicy :=
  let value : LanePolicy :=
    match previous with
    | none =>
      { autoCloseMS := 60000, idleMessage := "run", notify := true, ownerSessionID := ownerID }
    | some p => { p with autoCloseMS := 60000, ownerSessionID := ownerID }
  if value.persistent && input.persistent == some false then none
  else
    let value := { value with
      persistent := input.persistent.getD value.persistent
      autoCloseMS := input.autoCloseMS.getD value.autoCloseMS
      idleMessage := "run" }
    let disabled := input.notify == some false && input.notifyTarget != ""
    let chosen :=
      if value.persistent then
        let inherited :=
          match previous with
          | none => { value with ownerSessionID := "", notify := false }
          | some p =>
            if !p.persistent && p.notify then
              { value with ownerSessionID := "", notifyTarget := p.ownerSessionID }
            else { value with ownerSessionID := "" }
        let chosen :=
          if input.notifyTarget ≠ "" then
            { inherited with notifyTarget := input.notifyTarget, notify := true }
          else inherited
        let value := { chosen with notify := input.notify.getD chosen.notify }
        let value := if value.notify then value else { value with notifyTarget := "" }
        if value.notify && value.notifyTarget == "" || disabled then none else some value
      else if input.notifyTarget ≠ "" ∧ input.notifyTarget ≠ ownerID ∨ disabled then none
      else some { value with notify := input.notify.getD true, notifyTarget := "" }
    chosen.filter LanePolicy.legal

/-- `unique` of `handlers.go`. -/
def unique (values : List String) : List String :=
  values.foldl (fun result value => if result.contains value then result else result ++ [value]) []

/-- The row that `spawn` reserves for a new lane of this caller. -/
def spawnRow (u : Unicode) (host : String) (caller : Caller) (input : LaneSpawnRequest) :
    Option Row :=
  let composedName := unqualify caller.name ++ "/" ++ input.name
  match input.openOptions with
  | none => none
  | some options =>
    if validHost input.product && validNamePart u input.name && validNamePart u composedName then
      (normalizePolicy input none caller.sessionID).map fun policy =>
        { product := input.product
          name := qualify composedName host
          groups :=
            unique ([caller.privateGroup, caller.privateGroup ++ "/" ++ input.name] ++
              input.extraGroups)
          openOptions := options
          policy := some policy }
    else none

def shares (left right : List String) : Bool := left.any right.contains

def orderedPeerGroups (declared : List String) (ownGroup : String) : List String :=
  if declared.contains ownGroup then declared else declared ++ [ownGroup]

def lanePrivate (row : Row) : String := row.groups.getD 1 ""

def privateGroup (entry : Entry) : String :=
  if entry.peer then "session:" ++ entry.row.sessionID else lanePrivate entry.row

namespace Directory

/-! ## Owners -/

/-- `ownerEndEvent` for one child, or its closed wire. `full` are the sessions whose inbox takes no
event. -/
def notify (full : List Ptr) (owner : Ptr) (d : Directory) (p : Ptr) : Directory :=
  match (d.items p).attachment with
  | none => d
  | some s =>
    if d.listed p && (d.items p).parent == some owner && (d.items p).nonpersistent then
      d.setSession s
        (if full.contains s then { d.sessions s with wireClosed := true }
        else { d.sessions s with inbox := (d.sessions s).inbox ++ [owner] })
    else d

def forwardOwnerEnd (d : Directory) (o : Ptr) : Directory :=
  if (d.owners o).host ≠ "" || !d.linked then d
  else
    { d with
      link := (d.owners o).destinations.foldl
        (fun l host =>
          l.post { host, sessionID := (d.owners o).id, lifetime := (d.owners o).token }) d.link }

def endOwner (full : List Ptr) (d : Directory) (owner : Option Ptr) : Directory :=
  match owner with
  | none => d
  | some o =>
    if (d.owners o).ended then d
    else
      ((List.range d.nextItem).foldl (notify full o)
        (d.setOwner o { d.owners o with ended := true })).forwardOwnerEnd o

/-- `end`. -/
def endEntry (full : List Ptr) (d : Directory) (p : Ptr) : Directory :=
  let d := d.endOwner full (d.items p).lifetime
  d.setItem p (d.items p).ended

def newOwner (d : Directory) (owner : Ownership) : Directory :=
  { d.setOwner d.nextOwner owner with nextOwner := d.nextOwner + 1 }

/-- `callerOwner` of a local session. -/
def callerOwner (d : Directory) (s : Ptr) : Option Ptr :=
  match (d.sessions s).identity with
  | some p => if (d.items p).attachment = some s then (d.items p).lifetime else none
  | none => none

def ownerKey (owner : Ownership) : String × String × String :=
  (owner.id, owner.token, owner.attachment)

/-- `remoteOwnerLocked`, when it makes a new record. -/
def addRemoteOwner (d : Directory) (caller : Caller) : Directory :=
  let host := ((splitHost caller.sessionID).map Prod.snd).getD caller.sessionID
  let owner : Ownership :=
    { caller := some caller, id := caller.sessionID, token := caller.ownerLifetime, host
      attachment := caller.sourceAttachment }
  let d' := d.newOwner owner
  { d' with remoteOwners := Function.update d'.remoteOwners (ownerKey owner) (some d.nextOwner) }

/-- `remoteOwnerLocked`. -/
def remoteOwner (d : Directory) (caller : Caller) : Directory × Option Ptr :=
  if caller.ownerLifetime = "" ∨ caller.sourceAttachment = "" then (d, none)
  else
    match d.remoteOwners (caller.sessionID, caller.ownerLifetime, caller.sourceAttachment) with
    | some o => (d, some o)
    | none => (d.addRemoteOwner caller, some d.nextOwner)

def lifetimeEnds (e : LifetimeEvent) (owner : Ownership) : Bool :=
  match e with
  | .owner sessionID lifetime attachment =>
    owner.id == sessionID && owner.token == lifetime && owner.attachment == attachment
  | .host host attachment => owner.host == host && owner.attachment == attachment
  | .link => true

/-- One record of `remoteOwners` under `remoteEnded`. -/
def endRemote (full : List Ptr) (e : LifetimeEvent) (d : Directory) (o : Ptr) : Directory :=
  if d.remoteOwners (ownerKey (d.owners o)) == some o && lifetimeEnds e (d.owners o) then
    let d := d.endOwner full (some o)
    { d with remoteOwners := Function.update d.remoteOwners (ownerKey (d.owners o)) none }
  else d

def remoteEnded (full : List Ptr) (d : Directory) (e : LifetimeEvent) : Directory :=
  (List.range d.nextOwner).foldl (endRemote full e) d

/-! ## Peers -/

/-- A new entry, listed under its ID, with the session that is attached to it. -/
@[simps]
def seat (d : Directory) (s : Ptr) (id : String) (item : Item) : Directory :=
  { d with
    items := Function.update d.items d.nextItem item
    entries := Function.update d.entries id (some d.nextItem)
    nextItem := d.nextItem + 1
    sessions := Function.update d.sessions s ((d.sessions s).setIdentity d.nextItem) }

attribute [grind =] seat_entries seat_names seat_tokens seat_items seat_owners seat_launches
  seat_sessions seat_nextItem seat_nextOwner seat_nextLaunch seat_offlineClosing seat_linked
  seat_link seat_remoteOwners seat_host seat_unicode seat_closing

/-- The entry that `installPeer` makes. -/
@[simps, grind =]
def peerItem (host : String) (s : Ptr) (hello : PeerHello) (lifetime : Option Ptr) : Item :=
  let id := qualify hello.sessionID host
  { row :=
      { sessionID := id, product := hello.product, name := qualify hello.name host
        groups := orderedPeerGroups hello.groups ("session:" ++ id) }
    peer := true, declaredGroups := hello.groups, attachment := some s, lifetime }

/-- The new entry of a peer; another peer's entry under its ID ends, and its lifetime goes on. -/
def takeID (full : List Ptr) (d : Directory) (host : String) (s : Ptr) (hello : PeerHello) :
    Directory :=
  let id := qualify hello.sessionID host
  match d.entries id with
  | some found =>
    ((d.setItem found ((d.items found).setLifetime none)).endEntry full found).seat s id
      (peerItem host s hello (d.items found).lifetime)
  | none =>
    (d.newOwner { id, token := ownerToken d.nextOwner }).seat s id
      (peerItem host s hello (some d.nextOwner))

/-- `takeID` after the session's former entry, if it has one, was ended. -/
def replacePeer (full : List Ptr) (d : Directory) (s : Ptr) (hello : PeerHello) (old : Option Ptr) :
    Directory :=
  match old with
  | none => d.takeID full d.host s hello
  | some o =>
    ((d.setEntry (d.items o).row.sessionID none).endEntry full o).takeID full d.host s hello

/-- `installPeer`, and the identity that `peerHello` takes from it. -/
def installPeer (full : List Ptr) (d : Directory) (s : Ptr) (hello : PeerHello) :
    Option Directory :=
  let id := qualify hello.sessionID d.host
  let name := qualify hello.name d.host
  let fresh (old : Option Ptr) : Option Directory :=
    match d.entries id with
    | some found => if (d.items found).peer then some (d.replacePeer full s hello old) else none
    | none => some (d.replacePeer full s hello old)
  match (d.sessions s).identity with
  | none => fresh none
  | some old =>
    let item := d.items old
    if item.attachment ≠ some s then none
    else if item.row.sessionID = id then
      if item.row.product ≠ hello.product ∨ item.declaredGroups ≠ hello.groups then none
      else some (d.setItem old (item.setRow { item.row with name }))
    else fresh (some old)

/-! ## Launches -/

/-- The end of `reserveFresh`, `reserveResume` and `describe`: the launch and its entry. -/
@[simps]
def addLaunch (d : Directory) (item : Item) (launch : Launch) : Directory :=
  { d with
    items := Function.update d.items d.nextItem item
    launches := Function.update d.launches d.nextLaunch { launch with entry := d.nextItem }
    nextItem := d.nextItem + 1
    nextLaunch := d.nextLaunch + 1
    tokens := d.tokens ++ [d.nextLaunch] }

attribute [grind =] addLaunch_entries addLaunch_names addLaunch_tokens addLaunch_items
  addLaunch_owners addLaunch_launches addLaunch_sessions addLaunch_nextItem addLaunch_nextLaunch
  addLaunch_offlineClosing

def reserveFresh (d : Directory) (value : Row) (parent : Ptr) (trace : String) : Option Directory :=
  if (d.owners parent).ended || (d.names value.name).isSome || d.closing then none
  else
    some ((d.addLaunch (.reserved value (some parent))
      { parent := some parent, product := value.product, fresh := true, trace }).setName value.name
        (some d.nextItem))

def reserveResume (d : Directory) (id : String) (groups : List String) (parent : Ptr)
    (input : LaneSpawnRequest) : Option Directory :=
  match d.entries id with
  | none => none
  | some previous =>
    let item := d.items previous
    if (d.owners parent).ended || item.peer || !shares groups item.row.groups || item.claimed ||
        item.attachment.isSome || d.closing then none
    else
      (normalizePolicy input item.row.policy (d.owners parent).id).map fun policy =>
        let row := { item.row with policy := some policy }
        ((d.addLaunch (.reserved row (some parent))
          { parent := some parent, previous := some previous, product := row.product,
            trace := input.trace }).setEntry id (some d.nextItem)).setName row.name
            (some d.nextItem)

/-- `describe` and `reserveDescribe`. -/
def reserveDescribe (d : Directory) (product : String) : Option Directory :=
  if d.closing || !validHost product then none
  else some (d.addLaunch (.reserved { product } none) { product, describe := true })

def claimWorker (d : Directory) (s l : Ptr) (product : String) : Option Directory :=
  if d.tokens.contains l && (d.launches l).product == product && (d.launches l).owner.isNone then
    some ((d.setLaunch l ((d.launches l).claim s)).setTokens (d.tokens.filter (· != l)))
  else none

/-- `reserveID`, with the assignment that `finishOpen` makes before it. -/
def reserveID (d : Directory) (p : Ptr) (id : String) : Directory × Bool :=
  let d := d.setItem p ((d.items p).setRow { (d.items p).row with sessionID := id })
  if (d.items p).claimed && (d.entries id).isNone then (d.setEntry id (some p), true)
  else (d, false)

def publishes (d : Directory) (l : Ptr) : Bool :=
  let p := (d.launches l).entry
  let item := d.items p
  !d.closing && d.listed p && item.claimed && item.attachment.isNone &&
    !(match item.parent with
      | some o => (d.owners o).ended && item.nonpersistent
      | none => false)

/-- A creation time of 0 keeps the row's. -/
def stamp (row : Row) (createdAt : Nat) : Row :=
  if createdAt = 0 then row else { row with createdAt }

/-- The directory with the lane that a launch publishes. -/
def attach (d : Directory) (l s : Ptr) (createdAt : Nat) : Directory :=
  let p := (d.launches l).entry
  let item := d.items p
  ((d.newOwner { id := item.row.sessionID, token := ownerToken d.nextOwner }).setItem p
    (item.published (stamp item.row createdAt) s d.nextOwner)).setLaunch l (d.launches l).conclude

def publish (d : Directory) (l s : Ptr) (createdAt : Nat) : Option Directory :=
  if d.publishes l then some (d.attach l s createdAt) else none

def revokeLaunch (d : Directory) (l : Ptr) : Option Directory :=
  if (d.launches l).owner.isNone && d.tokens.contains l then
    some (d.setTokens (d.tokens.filter (· != l)))
  else none

/-- What an unpublished launch replaced comes back, and what it added goes. -/
def restore (d : Directory) (l : Ptr) : Directory :=
  let p := (d.launches l).entry
  let row := (d.items p).row
  let d :=
    match (d.launches l).previous with
    | some previous => (d.setEntry row.sessionID (some previous)).setName row.name (some previous)
    | none => d
  if !(d.items p).peer && row.createdAt == 0 then
    let d := d.setName row.name none
    if d.listed p then d.setEntry row.sessionID none else d
  else d

def releaseLaunch (full : List Ptr) (d : Directory) (l : Ptr) : Directory :=
  let d := d.setTokens (d.tokens.filter (· != l))
  let p := (d.launches l).entry
  if (d.items p).claimed then
    let d := (d.setItem p ((d.items p).setClaimed false)).endEntry full p
    (d.setLaunch l (d.launches l).conclude).restore l
  else d

/-! ## Runs and the end of an attachment -/

def finishRun (d : Directory) (p s : Ptr) : Directory :=
  if (d.items p).attachment = some s then d.setItem p ((d.items p).setRunning false) else d

def admitted (d : Directory) (p : Ptr) (method : Method) : Directory :=
  match method with
  | .execute => d.setItem p ((d.items p).setRunning true)
  | .close => d.setItem p ((d.items p).setClaimed true)
  | _ => d

/-- An ended peer leaves the directory; an ended lane stays, claimed. -/
def leave (d : Directory) (p : Ptr) : Directory :=
  if (d.items p).peer then d.setEntry (d.items p).row.sessionID none
  else d.setItem p ((d.items p).setClaimed true)

def detach (full : List Ptr) (d : Directory) (p s : Ptr) : Directory :=
  if (d.items p).attachment = some s then (d.endEntry full p).leave p else d

/-- An entry leaves both maps. -/
def forgetEntry (d : Directory) (p : Ptr) : Directory :=
  if d.listed p then (d.setEntry (d.items p).row.sessionID none).setName (d.items p).row.name none
  else d

def offline (d : Directory) (p s : Ptr) (forget : Bool) : Directory :=
  let item := d.items p
  let item :=
    if item.attachment = some s then { item with attachment := none, running := false } else item
  let d := d.setItem p (item.setClaimed false)
  if forget then d.forgetEntry p else d

/-- `visibleTo` without the groups. -/
def visible (item : Item) : Bool := item.peer || item.row.createdAt != 0

/-- The part of `selectEntries` that claims an offline lane for a close. -/
def claimOffline (d : Directory) (p : Ptr) : Option Directory :=
  let item := d.items p
  if d.listed p && visible item && !item.peer && item.attachment.isNone && !item.claimed then
    some { d.setItem p (item.setClaimed true) with offlineClosing := d.offlineClosing ++ [p] }
  else none

/-- `deleted` says that a row to be forgotten was deleted. -/
def finishOfflineClose (d : Directory) (p : Ptr) (forget deleted : Bool) : Directory :=
  let d := { d with offlineClosing := d.offlineClosing.erase p }
  let item := d.items p
  if d.listed p && item.attachment.isNone && item.claimed then
    let d := d.setItem p (item.setClaimed false)
    if forget && deleted then
      let named := d.names item.row.name = some p
      let d := d.setEntry item.row.sessionID none
      if named then d.setName item.row.name none else d
    else d
  else d

/-! ## Forwards -/

/-- `postCallerForward` for the methods that make this host's session an owner elsewhere. -/
def postCallerForward (d : Directory) (s : Ptr) (target : String) : Directory :=
  match d.callerOwner s with
  | none => d
  | some o =>
    if !d.linked || (d.owners o).ended then d
    else
      let host := ((canonicalTarget target d.host (validIDPart d.unicode)).map Prod.snd).getD ""
      d.setOwner o { d.owners o with
        destinations := if (d.owners o).destinations.contains host then (d.owners o).destinations
          else (d.owners o).destinations ++ [host] }

end Directory

end Sessionbus
