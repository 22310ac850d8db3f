import Mathlib.Logic.Function.Basic
import Sessionbus.Names
import Sessionbus.Session.Spec

/-!
# The directory and the sessions that use it

`directory.go`, `ownership.go`, `policy.go` and `launch.go`: the daemon's shared state. The
Go maps are functions to pointers, and what a pointer points to is kept in `items`, `owners`,
`launches` and `sessions`. Of a session there is what decides which calls it makes.
-/

namespace Sessionbus

/-! ## Requests -/

structure PeerHello where
  sessionID : String
  name : String := ""
  product : String
  groups : List String
deriving DecidableEq, Repr

/-- `federation.Caller`. -/
structure Caller where
  ownerLifetime : String := ""
  sourceAttachment : String := ""
  sessionID : String
  name : String := ""
  product : String
  privateGroup : String
  groups : List String
deriving DecidableEq, Repr

structure LaneSpawnRequest where
  name : String := ""
  product : String := ""
  host : String := ""
  resumeSessionID : String := ""
  extraGroups : List String := []
  openOptions : Option OpenOptions := none
  persistent : Option Bool := none
  autoCloseMS : Option Nat := none
  notify : Option Bool := none
  notifyTarget : String := ""
  trace : String := ""
deriving DecidableEq, Repr

/-- `federation.OwnerEnd`, as the daemon posts it. -/
structure OwnerEnd where
  host : String
  sessionID : String
  lifetime : String
deriving DecidableEq, Repr

/-- `link` is the event without owner and host, for a lost link. -/
inductive LifetimeEvent
  | owner (sessionID lifetime attachment : String)
  | host (host attachment : String)
  | link
deriving DecidableEq, Repr

/-! ## What is pointed to -/

structure Ownership where
  caller : Option Caller := none
  id : String := ""
  token : String := ""
  host : String := ""
  attachment : String := ""
  ended : Bool := false
  destinations : List String := []
deriving DecidableEq, Repr

/-- `randomID("owner")`: different owners have different tokens. -/
def ownerToken (p : Ptr) : String := "owner-" ++ Text.formatUint p

/-- An entry with the owner record of its lifetime. `ends` has a mark for each call of `end`:
whether `done` was closed. -/
structure Item extends Entry where
  lifetime : Option Ptr := none
  ends : List Bool := []
deriving DecidableEq, Repr

def Item.nonpersistent (item : Item) : Bool :=
  match item.row.policy with
  | some policy => !policy.persistent
  | none => false

namespace Item

/-- What `end` leaves of an entry. -/
@[simps, grind =]
def ended (item : Item) : Item :=
  { item with attachment := none, running := false, done := true, ends := item.ends ++ [item.done] }

@[simps, grind =]
def setClaimed (item : Item) (claimed : Bool) : Item := { item with claimed }

@[simps, grind =]
def setRunning (item : Item) (running : Bool) : Item := { item with running }

@[simps toEntry lifetime ends, grind =]
def setLifetime (item : Item) (lifetime : Option Ptr) : Item := { item with lifetime }

@[simps, grind =]
def setRow (item : Item) (row : Row) : Item := { item with row }

/-- What `publish` makes of the entry of a launch. -/
@[simps, grind =]
def published (item : Item) (row : Row) (s owner : Ptr) : Item :=
  { item with row, claimed := false, attachment := some s, lifetime := some owner }

/-- The entry of a launch that was just added. -/
@[simps, grind =]
def reserved (row : Row) (parent : Option Ptr) : Item := { row, parent, claimed := true }

end Item

/-- `revoked` is the answer that the launch's goroutine holds between `revokeLaunch` and its reply,
`trace` the mode that was asked for. A launch is concluded when its entry was published or released.
-/
structure Launch where
  parent : Option Ptr := none
  previous : Option Ptr := none
  product : String := ""
  entry : Ptr := 0
  owner : Option Ptr := none
  describe : Bool := false
  fresh : Bool := false
  trace : String := ""
  child : Bool := false
  revoked : Option Answer := none
  concluded : Bool := false
  replies : List Answer := []
deriving DecidableEq, Repr

namespace Launch

@[simps, grind =]
def claim (launch : Launch) (s : Ptr) : Launch := { launch with owner := some s }

@[simps, grind =]
def conclude (launch : Launch) : Launch := { launch with concluded := true }

@[simps, grind =]
def setRevoked (launch : Launch) (revoked : Option Answer) : Launch := { launch with revoked }

@[simps, grind =]
def reply (launch : Launch) (answer : Answer) : Launch :=
  { launch with replies := launch.replies ++ [answer] }

end Launch

/-- `waiting` for the result of `session.open`; `reserved`: its ID is in the directory. -/
inductive Opening
  | none | waiting | reserved
deriving DecidableEq, Repr

/-- `inbox` has the owners of the `ownerEndEvent`s still to be taken; `closing`: there is a close
call. -/
structure Party where
  identity : Option Ptr := none
  launch : Option Ptr := none
  opening : Opening := .none
  committed : Bool := false
  closing : Bool := false
  forget : Bool := false
  stopping : Bool := false
  closed : Bool := false
  wireClosed : Bool := false
  processExited : Bool := false
  returned : Bool := false
  launchResult : Option Answer := none
  inbox : List Ptr := []
deriving DecidableEq, Repr

@[simps, grind =]
def Party.setIdentity (p : Party) (identity : Ptr) : Party := { p with identity := some identity }

/-- The inbox of the federation link: its free places, what was put in it, and whether `cancel` was
called for want of a place. -/
structure LinkInbox where
  room : Nat := outboxSize
  posted : List OwnerEnd := []
  cancelled : Bool := false
deriving DecidableEq, Repr

/-- One turn of the loop of `forwardOwnerEnd`. -/
def LinkInbox.post (l : LinkInbox) (e : OwnerEnd) : LinkInbox :=
  if l.room = 0 then { l with cancelled := true }
  else { l with room := l.room - 1, posted := l.posted ++ [e] }

/-- `tokens` can still be claimed; `offlineClosing` are between `selectEntries` and
`finishOfflineClose`. -/
structure Directory where
  host : String
  unicode : Unicode
  closing : Bool := false
  entries : String → Option Ptr := fun _ => none
  names : String → Option Ptr := fun _ => none
  tokens : List Ptr := []
  remoteOwners : String × String × String → Option Ptr := fun _ => none
  items : Ptr → Item := fun _ => {}
  owners : Ptr → Ownership := fun _ => {}
  launches : Ptr → Launch := fun _ => {}
  sessions : Ptr → Party := fun _ => {}
  nextItem : Ptr := 0
  nextOwner : Ptr := 0
  nextLaunch : Ptr := 0
  offlineClosing : List Ptr := []
  linked : Bool := false
  link : LinkInbox := {}

namespace Directory

@[simps]
def setItem (d : Directory) (p : Ptr) (item : Item) : Directory :=
  { d with items := Function.update d.items p item }

@[simps]
def setOwner (d : Directory) (o : Ptr) (owner : Ownership) : Directory :=
  { d with owners := Function.update d.owners o owner }

@[simps]
def setLaunch (d : Directory) (l : Ptr) (launch : Launch) : Directory :=
  { d with launches := Function.update d.launches l launch }

@[simps]
def setSession (d : Directory) (s : Ptr) (session : Party) : Directory :=
  { d with sessions := Function.update d.sessions s session }

@[simps]
def setTokens (d : Directory) (tokens : List Ptr) : Directory := { d with tokens }

@[simps]
def setEntry (d : Directory) (id : String) (p : Option Ptr) : Directory :=
  { d with entries := Function.update d.entries id p }

@[simps]
def setName (d : Directory) (name : String) (p : Option Ptr) : Directory :=
  { d with names := Function.update d.names name p }

attribute [grind =] setItem_host setItem_unicode setItem_closing setItem_entries setItem_names
  setItem_tokens setItem_remoteOwners setItem_items setItem_owners setItem_launches setItem_sessions
  setItem_nextItem setItem_nextOwner setItem_nextLaunch setItem_offlineClosing setItem_linked
  setItem_link
attribute [grind =] setOwner_host setOwner_unicode setOwner_closing setOwner_entries setOwner_names
  setOwner_tokens setOwner_remoteOwners setOwner_items setOwner_owners setOwner_launches
  setOwner_sessions setOwner_nextItem setOwner_nextOwner setOwner_nextLaunch setOwner_offlineClosing
  setOwner_linked setOwner_link
attribute [grind =] setLaunch_host setLaunch_unicode setLaunch_closing setLaunch_entries
  setLaunch_names setLaunch_tokens setLaunch_remoteOwners setLaunch_items setLaunch_owners
  setLaunch_launches setLaunch_sessions setLaunch_nextItem setLaunch_nextOwner setLaunch_nextLaunch
  setLaunch_offlineClosing setLaunch_linked setLaunch_link
attribute [grind =] setSession_host setSession_unicode setSession_closing setSession_entries
  setSession_names setSession_tokens setSession_remoteOwners setSession_items setSession_owners
  setSession_launches setSession_sessions setSession_nextItem setSession_nextOwner
  setSession_nextLaunch setSession_offlineClosing setSession_linked setSession_link
attribute [grind =] setEntry_host setEntry_unicode setEntry_closing setEntry_entries setEntry_names
  setEntry_tokens setEntry_remoteOwners setEntry_items setEntry_owners setEntry_launches
  setEntry_sessions setEntry_nextItem setEntry_nextOwner setEntry_nextLaunch setEntry_offlineClosing
  setEntry_linked setEntry_link
attribute [grind =] setName_host setName_unicode setName_closing setName_entries setName_names
  setName_tokens setName_remoteOwners setName_items setName_owners setName_launches setName_sessions
  setName_nextItem setName_nextOwner setName_nextLaunch setName_offlineClosing setName_linked
  setName_link

attribute [grind =] setTokens_host setTokens_unicode setTokens_closing setTokens_entries
  setTokens_names setTokens_tokens setTokens_remoteOwners setTokens_items setTokens_owners
  setTokens_launches setTokens_sessions setTokens_nextItem setTokens_nextOwner setTokens_nextLaunch
  setTokens_offlineClosing setTokens_linked setTokens_link

/-- The directory maps the ID of the entry to the entry. -/
def listed (d : Directory) (p : Ptr) : Bool := d.entries (d.items p).row.sessionID == some p

def current (d : Directory) (p s : Ptr) : Bool := d.listed p && (d.items p).attachment == some s

def newDirectory (host : String) (unicode : Unicode) (rows : List Row) : Directory :=
  (rows.foldl (fun d row =>
    { ((d.setItem d.nextItem { row, done := true }).setEntry row.sessionID
      (some d.nextItem)).setName row.name
        (some d.nextItem) with nextItem := d.nextItem + 1 })
    { host, unicode })

end Directory

end Sessionbus
