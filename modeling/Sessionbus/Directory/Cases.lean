import Sessionbus.Directory.Steps

/-!
# What a step can do

`Does` has the calls that change the directory, each with what was checked before it. Every
invariant is proved along its cases.
-/

namespace Sessionbus

namespace Directory

/-- The caller of another host that an action is for. -/
def Action.remoteCaller : Action → Option Caller
  | .remoteSpawn caller _ => some caller
  | .remoteConfigure caller => some caller
  | _ => none

/-- The target under which a request for an owner is forwarded. -/
def forwardTarget (d : Directory) : Action → Option String
  | .spawn _ input =>
    if input.host = "local" ∧ input.host ≠ d.host then none else d.spawnTarget input
  | .configureTrace _ label =>
    (canonicalTarget label d.host (validIDPart d.unicode)).bind fun target =>
      if target.2 ≠ d.host then some target.1 else none
  | _ => none

abbrev entryOf (d : Directory) (l : Ptr) : Item := d.items (d.launches l).entry

/-- The entry of the launch has the ID that the worker returned. -/
abbrev identified (d : Directory) (l : Ptr) (id : String) : Directory :=
  d.setItem (d.launches l).entry
    ((d.entryOf l).setRow { (d.entryOf l).row with sessionID := qualify id d.host })

/-- What an event changes of its own session alone. -/
inductive Own (d : Directory) (s : Ptr) : (Party → Party) → Prop
  | beginClose (forget : Bool) :
    Own d s fun p =>
      if p.committed && !p.stopping && !p.closing then { p with closing := true, forget } else p
  | reject : Own d s fun p => { p with stopping := true }
  | hardStop : Own d s Party.stop
  | spawnTimeout : Own d s Party.timedOut
  | shutDown : Own d s Party.shutDown
  | exited : Own d s fun p => { p with processExited := true }
  | ownerEnd {o rest} (queue : (d.sessions s).inbox = o :: rest)
      (stays : ∀ e, (d.sessions s).identity = some e → (d.items e).nonpersistent = true →
        (d.owners o).ended = true → (d.items e).parent ≠ some o) :
    Own d s fun p => { p with inbox := rest }
  | policyClose {o rest} (queue : (d.sessions s).inbox = o :: rest) :
    Own d s fun p => { p with inbox := rest }.policyClose

/-- What more than one action does. -/
inductive Routine (d : Directory) (a : Action) : Directory → Prop
  | idle : Routine d a d
  | own {s f} (own : Own d s f) (rests : (d.sessions s).opening ≠ .reserved) :
    Routine d a (d.setSession s (f (d.sessions s)))
  | forward (s) {target} (forwarded : d.forwardTarget a = some target) :
      Routine d a (d.postCallerForward s target)
  | remoteOwner {caller} (remote : a.remoteCaller = some caller) :
      Routine d a (d.remoteOwner caller).1
  | openFailed (s answer) (opening : (d.sessions s).opening ≠ .none) :
    Routine d a (d.setSession s ((d.sessions s).openFailed answer))

inductive Does (d : Directory) : Action → Directory → Prop
  | routine {a d'} (routine : Routine d a d') : Does d a d'
  | hello (s value full) {d'} (vacant : (d.sessions s).launch = none)
      (reads : (d.sessions s).closed = false) (id : validIDPart d.unicode value.sessionID = true)
      (name : value.name = "" ∨ validNamePart d.unicode value.name = true)
      (product : validHost value.product = true)
      (installed : d.installPeer full s value = some d') :
    Does d (.hello s value full) d'
  | spawn (s input) {parent p d'} (owner : d.callerOwner s = some parent)
      (identity : (d.sessions s).identity = some p) (current : d.current p s = true)
      (spawned : d.spawnHere parent (d.federationCaller p) input = some d') :
      Does d (.spawn s input) d'
  | remoteSpawn (caller input) {parent d'} (owner : (d.remoteOwner caller).2 = some parent)
      (spawned : (d.remoteOwner caller).1.spawnHere parent caller input = some d') :
    Does d (.remoteSpawn caller input) d'
  | remoteEnded (event full) : Does d (.remoteEnded event full) (d.remoteEnded full event)
  | describe (product) :
    Does d (.describe product)
    (d.addLaunch (.reserved { product } none) { product, describe := true })
  | startChild (l) : Does d (.startChild l) (d.setLaunch l { d.launches l with child := true })
  | revoke (l answer) (token : l ∈ d.tokens) :
    Does d (.revoke l answer)
      ((d.setTokens (d.tokens.filter (· != l))).setLaunch l
        ((d.launches l).setRevoked (some answer)))
  | release (l full) {answer} (revoked : (d.launches l).revoked = some answer) :
    Does d (.release l full) (((d.releaseLaunch full l).setLaunch l
      (((d.releaseLaunch full l).launches l).setRevoked none)).reply l answer)
  | claim (s l hello sent) (reads : (d.sessions s).reads = true)
      (unknown : (d.sessions s).identity = none) (token : l ∈ d.tokens) :
    Does d (.claim s l hello sent)
      (((d.setLaunch l ((d.launches l).claim s)).setTokens (d.tokens.filter (· != l))).setSession s
        ((d.sessions s).startLane l ((d.launches l).claim s) (d.entryOf l).row hello sent))
  | openID (s l id) (launch : (d.sessions s).launch = some l) (fresh : (d.launches l).fresh = true)
      (waiting : (d.sessions s).opening = .waiting) (reads : (d.sessions s).reads = true)
      (part : validIDPart d.unicode id = true) (free : d.entries (qualify id d.host) = none) :
    Does d (.openID s l id)
    (((d.identified l id).setEntry (qualify id d.host) (some (d.launches l).entry)).setSession s
      ((d.sessions s).setOpening .reserved))
  | refusedID (s l id answer) (launch : (d.sessions s).launch = some l)
      (fresh : (d.launches l).fresh = true) (waiting : (d.sessions s).opening = .waiting) :
    Does d (.openID s l id) ((d.identified l id).setSession s ((d.sessions s).openFailed answer))
  | publish (s l) {now} (restoreError answer) (launch : (d.sessions s).launch = some l)
      (timed : now ≠ 0) (may : d.mayPublish s l = true) (publishes : d.publishes l = true) :
    Does d (.publish s l now restoreError)
      (((d.attach l s (if (d.launches l).fresh then now else 0)).setSession s
        (d.sessions s).commit).reply l answer)
  | execute (s p) (attached : (d.items p).attachment = some s) :
    Does d (.execute s) (d.setItem p ((d.items p).setRunning true))
  | finishRun (s p) : Does d (.finishRun s) (d.setItem p ((d.items p).setRunning false))
  | closeWritten (s p) (committed : (d.sessions s).committed = true)
      (running : (d.sessions s).returned = false) (identity : (d.sessions s).identity = some p)
      (reads : (d.sessions s).closed = false) :
    Does d (.closeWritten s) (d.setItem p ((d.items p).setClaimed true))
  | closeWire (s) : Does d (.closeWire s) (d.setSession s { d.sessions s with wireClosed := true })
  | lost (s full) (reads : (d.sessions s).closed = false)
      (rests : (d.sessions s).opening ≠ .reserved) (apart : ∀ p, (d.sessions s).identity = some p →
        (d.items p).attachment ≠ some s) :
    Does d (.disconnect s full) (d.setSession s (d.sessions s).lost)
  | detach (s full p) (running : (d.sessions s).returned = false)
      (rests : (d.sessions s).opening ≠ .reserved) (identity : (d.sessions s).identity = some p)
      (attached : (d.items p).attachment = some s) :
    Does d (.disconnect s full)
      (((d.endEntry full p).leave p).setSession s (((d.endEntry full p).leave p).sessions s).lost)
  | finish (s deleted full) (running : (d.sessions s).returned = false)
      (closed : (d.sessions s).closed = true) :
    Does d (.finish s deleted full) (d.finish full s deleted)
  | closeOffline (p) (listed : d.listed p = true) (lane : (d.items p).peer = false)
      (unattached : (d.items p).attachment = none) (unclaimed : (d.items p).claimed = false) :
    Does d (.closeOffline p)
      { d.setItem p ((d.items p).setClaimed true) with offlineClosing := d.offlineClosing ++ [p] }
  | finishOfflineClose (p forget deleted) (closing : p ∈ d.offlineClosing) :
    Does d (.finishOfflineClose p forget deleted) (d.finishOfflineClose p forget deleted)
  | link (up room) : Does d (.link up room) { d with linked := up, link := { d.link with room } }
  | shutdown : Does d .shutdown { d with closing := true }

variable {d : Directory}

theorem running_of_reads {p : Party} (reads : p.reads = true) :
    p.returned = false ∧ p.closed = false := by
  simp only [Party.reads, Party.handles, Bool.and_eq_true, Bool.not_eq_eq_eq_not,
    Bool.not_true] at reads
  exact ⟨reads.1.1.1, reads.2⟩

theorem mayPublish_opening {s l : Ptr} (may : d.mayPublish s l = true) :
    (d.sessions s).opening ≠ .none := by
  unfold Directory.mayPublish at may
  grind

namespace Does

theorem idle {a : Action} : Does d a d := .routine .idle

theorem handled {s : Ptr} {f : Party → Party} (own : Own d s f) (a : Action) :
    Does d a (d.handled s f) := by
  unfold Directory.handled
  split
  next handles =>
    simp only [Party.handles, Bool.and_eq_true, bne_iff_ne] at handles
    exact .routine (.own own handles.2)
  · exact .idle

theorem helloStep (s : Ptr) (value : PeerHello) (full : List Ptr) :
    Does d (.hello s value full) (d.helloStep full s value) := by
  unfold Directory.helloStep
  split
  next guard =>
    simp only [Party.reads, Bool.and_eq_true, Bool.or_eq_true, Bool.not_eq_eq_eq_not,
      Bool.not_true, beq_iff_eq, Option.isNone_iff_eq_none] at guard
    obtain ⟨⟨⟨⟨⟨-, reads⟩, vacant⟩, id⟩, name⟩, product⟩ := guard
    cases installed : d.installPeer full s value with
    | none => exact .idle
    | some d' => exact .hello s value full vacant reads id name product installed
  · exact .idle

theorem spawned (s : Ptr) (input : LaneSpawnRequest) :
    Does d (.spawn s input) (d.step (.spawn s input)) := by
  simp only [Directory.step, Directory.spawn]
  split
  case isFalse => exact .idle
  next requests =>
  split
  case h_2 => exact .idle
  next parent p owner identity =>
  split
  · exact .idle
  next other =>
  split
  next target forwarded =>
    exact .routine (.forward s (by rw [forwardTarget, if_neg other, forwarded]))
  · cases spawned : d.spawnHere parent (d.federationCaller p) input with
    | none => exact .idle
    | some d' =>
      simp only [Directory.requests, identity, Bool.and_eq_true] at requests
      exact .spawn s input owner identity requests.2 spawned

theorem configured (s : Ptr) (label : String) :
    Does d (.configureTrace s label) (d.step (.configureTrace s label)) := by
  simp only [Directory.step, Directory.configureTrace]
  split
  case isFalse => exact .idle
  split
  case h_2 => exact .idle
  next id there target =>
  split
  next other =>
    exact .routine (.forward s (by rw [forwardTarget, target, Option.bind_some, if_pos other]))
  · exact .idle

theorem remoteSpawned (caller : Caller) (input : LaneSpawnRequest) :
    Does d (.remoteSpawn caller input) (d.remoteSpawn caller input) := by
  unfold Directory.remoteSpawn
  simp only
  split
  next parent owner _ =>
    cases spawned : (d.remoteOwner caller).1.spawnHere parent caller input with
    | none => exact .routine (.remoteOwner rfl)
    | some d' => exact .remoteSpawn caller input owner spawned
  · exact .routine (.remoteOwner rfl)

theorem claimed (s l : Ptr) (hello : HelloDescription) (sent : Bool) :
    Does d (.claim s l hello sent) (d.claim s l hello sent) := by
  unfold Directory.claim Directory.claimWorker
  split
  case isFalse => exact .idle
  next guard =>
  simp only [Bool.and_eq_true, Option.isNone_iff_eq_none] at guard
  obtain ⟨⟨reads, unknown⟩, -⟩ := guard
  split
  next d' heq =>
    simp only [Option.ite_none_right_eq_some, Bool.and_eq_true, List.contains_iff_mem,
      Option.some.injEq] at heq
    obtain ⟨⟨⟨token, -⟩, -⟩, rfl⟩ := heq
    simpa using Does.claim s l hello sent reads unknown token
  · exact .idle

theorem opened (s l : Ptr) (id : String) : Does d (.openID s l id) (d.step (.openID s l id)) := by
  simp only [Directory.step, Directory.openID, Directory.reserveID]
  split
  case isFalse => exact .idle
  next guard =>
  simp only [Bool.and_eq_true, decide_eq_true_eq, beq_iff_eq] at guard
  obtain ⟨⟨⟨launch, fresh⟩, waiting⟩, reads⟩ := guard
  split
  case isFalse => exact .idle
  next part =>
  split
  next d' heq =>
    split at heq
    next free =>
      obtain ⟨rfl, -⟩ := Prod.mk.inj heq
      simp only [Bool.and_eq_true, Option.isNone_iff_eq_none] at free
      exact .openID s l id launch fresh waiting reads part free.2
    · simp at heq
  next d' heq =>
    split at heq
    · simp at heq
    · obtain ⟨rfl, -⟩ := Prod.mk.inj heq
      exact .refusedID s l id _ launch fresh waiting

theorem published (s l : Ptr) (now : Nat) (restoreError : Option String) :
    Does d (.publish s l now restoreError) (d.step (.publish s l now restoreError)) := by
  simp only [Directory.step, Directory.publishLane, Directory.publish]
  split
  case isFalse => exact .idle
  next guard =>
  simp only [Bool.and_eq_true, decide_eq_true_eq, bne_iff_ne] at guard
  obtain ⟨⟨launch, timed⟩, may⟩ := guard
  split
  next d' heq =>
    simp only [Option.ite_none_right_eq_some, Option.some.injEq] at heq
    obtain ⟨publishes, rfl⟩ := heq
    exact .publish s l restoreError _ launch timed may publishes
  · exact .routine (.openFailed s _ (mayPublish_opening may))

theorem ownerEnded (s : Ptr) : Does d (.ownerEnd s) (d.ownerEndStep s) := by
  unfold Directory.ownerEndStep Directory.handled
  split
  · exact .idle
  next o rest queue =>
    split
    case isFalse => exact .idle
    next handles =>
      simp only [Party.handles, Bool.and_eq_true, bne_iff_ne] at handles
      simp only
      split
      next e identity =>
        split
        · exact .routine (.own (.policyClose queue) handles.2)
        next stays =>
          refine .routine
            (.own (.ownerEnd queue fun e' same nonpersistent ended parent => stays ?_) handles.2)
          cases identity.symm.trans same
          simp [nonpersistent, ended, parent]
      next unknown => exact .routine (.own (.ownerEnd queue (by simp [unknown])) handles.2)

theorem disconnected (s : Ptr) (full : List Ptr) :
    Does d (.disconnect s full) (d.disconnectStep full s) := by
  unfold Directory.disconnectStep Directory.detach
  split
  case isFalse => exact .idle
  next guard =>
  simp only [Party.handles, Bool.and_eq_true, Bool.not_eq_eq_eq_not, Bool.not_true,
    bne_iff_ne] at guard
  obtain ⟨⟨running, rests⟩, reads⟩ := guard
  cases identity : (d.sessions s).identity with
  | none => exact .lost s full reads rests (by simp [identity])
  | some p =>
    simp only
    split
    next attached => exact .detach s full p running rests identity attached
    next apart =>
      refine .lost s full reads rests fun q hq => ?_
      cases identity.symm.trans hq
      exact apart

theorem withEntry {a : Action} {s : Ptr} {f : Ptr → Directory}
    (each : ∀ p, (d.sessions s).identity = some p → (d.sessions s).returned = false →
      Does d a (f p)) :
    Does d a (d.withEntry s f) := by
  unfold Directory.withEntry
  split
  next p identity =>
    split
    next handles =>
      simp only [Party.handles, Bool.and_eq_true, Bool.not_eq_eq_eq_not, Bool.not_true] at handles
      exact each p identity handles.1
    · exact .idle
  · exact .idle

end Does

theorem does (d : Directory) (a : Action) : Does d a (d.step a) := by
  cases a with
  | hello s value full => exact .helloStep s value full
  | spawn s input => exact .spawned s input
  | configureTrace s label => exact .configured s label
  | remoteSpawn caller input => exact .remoteSpawned caller input
  | remoteConfigure caller => exact .routine (.remoteOwner rfl)
  | remoteEnded event full => exact .remoteEnded event full
  | describe product =>
    simp only [Directory.step, Directory.reserveDescribe]
    split
    · exact .idle
    · exact .describe product
  | startChild l =>
    simp only [Directory.step, Directory.startChild]
    split
    · exact .startChild l
    · exact .idle
  | revoke l answer =>
    simp only [Directory.step, Directory.revoke, Directory.revokeLaunch]
    split
    next d' heq =>
      simp only [Option.ite_none_right_eq_some, Bool.and_eq_true, List.contains_iff_mem,
        Option.some.injEq] at heq
      obtain ⟨⟨-, token⟩, rfl⟩ := heq
      exact .revoke l answer token
    · exact .idle
  | release l full =>
    simp only [Directory.step, Directory.release]
    split
    next answer revoked => exact .release l full revoked
    · exact .idle
  | claim s l hello sent => exact .claimed s l hello sent
  | openFailed s answer =>
    simp only [Directory.step]
    split
    next guard => exact .routine (.openFailed s answer (by grind))
    · exact .idle
  | openID s l id => exact .opened s l id
  | publish s l now restoreError => exact .published s l now restoreError
  | execute s =>
    refine .withEntry fun p _ _ => ?_
    split
    next guard =>
      simp only [Directory.admitsRun, Bool.and_eq_true, beq_iff_eq] at guard
      exact .execute s p guard.2.1.1
    · exact .idle
  | finishRun s =>
    refine .withEntry fun p _ _ => ?_
    unfold Directory.finishRun
    split
    · exact .finishRun s p
    · exact .idle
  | closeWritten s =>
    refine .withEntry fun p identity running => ?_
    split
    next guard =>
      simp only [Bool.and_eq_true, Bool.not_eq_eq_eq_not, Bool.not_true] at guard
      exact .closeWritten s p guard.1.1.1 running identity guard.2
    · exact .idle
  | ownerEnd s => exact .ownerEnded s
  | beginClose s forget => exact .handled (.beginClose forget) _
  | reject s => exact .handled .reject _
  | hardStop s => exact .handled .hardStop _
  | closeWire s => exact .closeWire s
  | spawnTimeout s => exact .handled .spawnTimeout _
  | shutDown s => exact .handled .shutDown _
  | exited s => exact .handled .exited _
  | disconnect s full => exact .disconnected s full
  | finish s deleted full =>
    simp only [Directory.step]
    split
    next guard =>
      simp only [Party.handles, Bool.and_eq_true, Bool.not_eq_eq_eq_not, Bool.not_true] at guard
      exact .finish s deleted full guard.1.1.1 guard.1.2
    · exact .idle
  | closeOffline p =>
    simp only [Directory.step, Directory.claimOffline]
    split
    next guard =>
      simp only [Bool.and_eq_true, Bool.not_eq_eq_eq_not, Bool.not_true,
        Option.isNone_iff_eq_none] at guard
      obtain ⟨⟨⟨⟨listed, -⟩, lane⟩, unattached⟩, unclaimed⟩ := guard
      exact .closeOffline p listed lane unattached unclaimed
    · exact .idle
  | finishOfflineClose p forget deleted =>
    simp only [Directory.step]
    split
    next closing => exact .finishOfflineClose p forget deleted (by simpa using closing)
    · exact .idle
  | link up room => exact .link up room
  | shutdown => exact .shutdown

end Directory

end Sessionbus
