import Sessionbus.Directory.Peers

/-!
# Every run of the directory keeps the representation invariant
-/

namespace Sessionbus

namespace Directory

attribute [local grind =] Function.update_apply

variable {d : Directory}

/-! ## Spawns -/

theorem qualify_ne_empty {value host : String} (h : value ≠ "") : qualify value host ≠ "" := by
  simp [qualify, h]

theorem spawnRow_new {u : Unicode} {host : String} {caller : Caller}
    {input : LaneSpawnRequest} {row : Row} (heq : spawnRow u host caller input = some row) :
    row.name ≠ "" ∧ row.createdAt = 0 := by
  unfold spawnRow at heq
  simp only at heq
  split at heq
  · simp at heq
  · simp only [Option.ite_none_right_eq_some, Option.map_eq_some_iff] at heq
    obtain ⟨-, policy, -, rfl⟩ := heq
    refine ⟨qualify_ne_empty fun empty => ?_, rfl⟩
    have := congrArg String.length empty
    rw [String.length_append, String.length_append] at this
    simp at this

theorem Sound.spawnHere (h : d.Sound) {d' : Directory} {parent : Ptr} {caller : Caller}
    {input : LaneSpawnRequest} (heq : d.spawnHere parent caller input = some d') : d'.Sound := by
  unfold Directory.spawnHere at heq
  split at heq
  · simp only [Option.bind_eq_some_iff] at heq
    obtain ⟨target, -, resumed⟩ := heq
    exact h.reserveResume resumed
  · simp only [Option.bind_eq_some_iff] at heq
    obtain ⟨row, new, reserved⟩ := heq
    exact h.reserveFresh (spawnRow_new new).2 reserved

theorem spawnHere_cases {d' : Directory} {parent : Ptr} {caller : Caller} {input : LaneSpawnRequest}
    (heq : d.spawnHere parent caller input = some d') :
    (d.owners parent).ended = false ∧
      ∃ row launch entries names, launch.owner = none ∧ launch.revoked = none ∧
        launch.concluded = false ∧ launch.replies = [] ∧
        d' = { d.addLaunch (.reserved row (some parent)) launch with entries, names } := by
  unfold Directory.spawnHere at heq
  split at heq
  · simp only [Option.bind_eq_some_iff] at heq
    obtain ⟨target, -, resumed⟩ := heq
    unfold Directory.reserveResume at resumed
    split at resumed
    · simp at resumed
    · simp only [Option.ite_none_left_eq_some, Option.map_eq_some_iff, Bool.or_eq_true, not_or,
        Bool.not_eq_true] at resumed
      obtain ⟨⟨⟨⟨⟨⟨unended, -⟩, -⟩, -⟩, -⟩, -⟩, policy, -, rfl⟩ := resumed
      exact ⟨unended, _, _, _, _, rfl, rfl, rfl, rfl, rfl⟩
  · simp only [Option.bind_eq_some_iff] at heq
    obtain ⟨row, -, reserved⟩ := heq
    unfold Directory.reserveFresh at reserved
    simp only [Option.ite_none_left_eq_some, Option.some.injEq, Bool.or_eq_true, not_or,
      Bool.not_eq_true] at reserved
    obtain ⟨⟨⟨unended, -⟩, -⟩, rfl⟩ := reserved
    exact ⟨unended, _, _, _, _, rfl, rfl, rfl, rfl, rfl⟩

/-! ## Publishing -/

theorem stamp_frame (row : Row) (createdAt : Nat) :
    (stamp row createdAt).sessionID = row.sessionID ∧ (stamp row createdAt).name = row.name ∧
    (stamp row createdAt).policy = row.policy := by
  unfold stamp
  split <;> exact ⟨rfl, rfl, rfl⟩

@[simp]
theorem attach_tokens (l s : Ptr) (createdAt : Nat) :
    (d.attach l s createdAt).tokens = d.tokens := rfl

@[simp]
theorem attach_nextLaunch (l s : Ptr) (createdAt : Nat) :
    (d.attach l s createdAt).nextLaunch = d.nextLaunch := rfl

@[simp]
theorem attach_sessions (l s : Ptr) (createdAt : Nat) :
    (d.attach l s createdAt).sessions = d.sessions := rfl

@[simp]
theorem attach_launches (l s : Ptr) (createdAt : Nat) :
    (d.attach l s createdAt).launches = Function.update d.launches l (d.launches l).conclude := rfl

@[simp]
theorem reply_tokens (l : Ptr) (answer : Answer) : (d.reply l answer).tokens = d.tokens := rfl

@[simp]
theorem reply_nextLaunch (l : Ptr) (answer : Answer) :
    (d.reply l answer).nextLaunch = d.nextLaunch := rfl

@[simp]
theorem reply_sessions (l : Ptr) (answer : Answer) : (d.reply l answer).sessions = d.sessions := rfl

@[simp]
theorem reply_launches (l : Ptr) (answer : Answer) :
    (d.reply l answer).launches = Function.update d.launches l ((d.launches l).reply answer) := rfl

theorem Sound.publish (h : d.Sound) {s l : Ptr} (launch : (d.sessions s).launch = some l)
    (may : d.mayPublish s l = true) (publishes : d.publishes l = true) (createdAt : Nat) :
    ((d.attach l s createdAt).setSession s (d.sessions s).commit).Sound := by
  have ⟨running, reads⟩ : (d.sessions s).returned = false ∧ (d.sessions s).closed = false := by
    have busy := h.seats.busy s
    unfold Directory.mayPublish Party.reads at may
    grind
  have uncommitted := (h.seats.opening s (mayPublish_opening may)).2.1
  have listed : d.listed (d.launches l).entry = true := by
    unfold Directory.publishes at publishes
    grind
  have owned :=
    h.calm
    (Told.newOwner { id := (d.entryOf l).row.sessionID, token := ownerToken d.nextOwner }).calm
  exact owned.published (s := s) (l := l) (o := d.nextOwner) launch uncommitted reads running listed
    (stamp_frame _ _).1

/-! ## Steps and runs -/

theorem Own.keeps {s : Ptr} {f : Party → Party} (own : Own d s f) (p : Party) : Keeps p (f p) := by
  unfold Keeps
  cases own with
  | beginClose forget => grind
  | reject => grind
  | hardStop => exact ⟨rfl, rfl, rfl, rfl, rfl, rfl⟩
  | spawnTimeout =>
    unfold Party.timedOut Party.abortLaunch Party.stop
    grind
  | shutDown =>
    unfold Party.shutDown Party.abortLaunch Party.stop
    grind
  | exited => grind
  | ownerEnd => grind
  | policyClose =>
    unfold Party.policyClose
    grind

theorem Sound.routine {d' : Directory} (h : d.Sound) {a : Action} (routine : Routine d a d') :
    d'.Sound := by
  cases routine with
  | idle => exact h
  | own own => exact h.calm (Calm.session (own.keeps _))
  | forward s => exact h.calm (Told.postCallerForward s _).calm
  | remoteOwner => exact h.calm (Told.remoteOwner _).calm
  | openFailed s answer => exact h.openFailed s answer

theorem Sound.step (h : d.Sound) (a : Action) : (d.step a).Sound := by
  have does := d.does a
  generalize d.step a = d' at does ⊢
  cases does with
  | routine routine => exact h.routine routine
  | hello s value full vacant reads _ _ _ installed => exact h.installPeer vacant reads installed
  | spawn s input _ _ _ spawned => exact h.spawnHere spawned
  | remoteSpawn caller input _ spawned =>
    exact (h.calm (Told.remoteOwner caller).calm).spawnHere spawned
  | remoteEnded event full => exact h.calm (Told.remoteEnded full event).calm
  | describe product => exact h.describe product
  | startChild l =>
    exact h.markLaunch d.tokens rfl rfl rfl rfl rfl rfl (fun _ => id) .inl fun hl =>
      (h.seats.tokened l hl).2.2
  | revoke l answer token =>
    exact h.markLaunch (v := (d.launches l).setRevoked (some answer)) (d.tokens.filter (· != l)) rfl
      rfl rfl rfl rfl rfl (by grind) (fun _ => .inr token) (by grind)
  | release l full revoked => exact h.release full revoked
  | claim s l hello sent reads unknown token =>
    obtain ⟨running, open_⟩ := running_of_reads reads
    obtain ⟨identity, launch, committed, closed, returned⟩ :=
      startLane_frame (d.sessions s) l ((d.launches l).claim s) (d.entryOf l).row hello sent
    exact h.claimed token unknown open_ running identity launch committed closed returned
  | openID s l id launch fresh waiting reads _ free =>
    exact h.openID launch fresh waiting reads free
  | refusedID s l id answer launch fresh waiting =>
    exact (h.identified launch fresh waiting id).openFailed s answer
  | publish s l _ answer launch _ may publishes =>
    exact (h.publish launch may publishes _).reply l answer
  | execute s p attached => exact h.admitted attached .execute
  | finishRun s p => exact h.finishRun p
  | closeWritten s p committed _ identity reads =>
    exact h.admitted (h.holds.live s p committed reads identity) .close
  | closeWire s => exact h.calm (Calm.session ⟨rfl, rfl, rfl, rfl, rfl, rfl⟩)
  | lost s full _ rests apart =>
    exact h.lost (lost_lost _) rests fun p attached =>
      apart p (h.holds.attached p s attached).2.2.1 attached
  | detach s full p _ rests _ attached => exact h.detach full rests attached
  | finish s deleted full running closed => exact h.finish running closed full deleted
  | closeOffline p listed _ unattached unclaimed => exact h.claimOffline listed unattached unclaimed
  | finishOfflineClose p forget deleted closing => exact h.finishOfflineClose closing forget deleted
  | link => exact h.calm { Calm.refl d with }
  | shutdown => exact h.calm { Calm.refl d with }

/-- Every state of a run is sound, so every operation is called in a sound state. -/
theorem Sound.run (h : d.Sound) (actions : List Action) : (d.run actions).Sound := by
  induction actions generalizing d with
  | nil => exact h
  | cons a actions ih => exact ih (h.step a)

/-! ## The state that a daemon starts with -/

/-- One row of `newDirectory`. -/
@[simps]
def addRow (d : Directory) (row : Row) : Directory :=
  { d with
    items := Function.update d.items d.nextItem { row, done := true }
    entries := Function.update d.entries row.sessionID (some d.nextItem)
    names := Function.update d.names row.name (some d.nextItem)
    nextItem := d.nextItem + 1 }

theorem newDirectory_eq (host : String) (u : Unicode) (rows : List Row) :
    newDirectory host u rows = rows.foldl addRow { host, unicode := u } := rfl

attribute [local grind =] addRow_entries addRow_items addRow_nextItem

/-- Offline lanes and nothing else. -/
structure Loaded (d : Directory) : Prop where
  ids : ∀ id p, d.entries id = some p → (d.items p).row.sessionID = id ∧ p < d.nextItem
  offline : ∀ p, (d.items p).peer = false ∧ (d.items p).attachment = none ∧
    (d.items p).running = false
  launches : d.launches = fun _ => {}
  sessions : d.sessions = fun _ => {}
  tokens : d.tokens = []
  nextLaunch : d.nextLaunch = 0
  offlineClosing : d.offlineClosing = []

theorem Loaded.addRow (h : d.Loaded) (row : Row) : (d.addRow row).Loaded := by
  refine { h with ids := ?_, offline := ?_ }
  · have := h.ids
    grind
  · have := h.offline
    grind

theorem Loaded.sound (h : d.Loaded) : d.Sound := by
  obtain ⟨ids, offline, launches, sessions, tokens, nextLaunch, offlineClosing⟩ := h
  refine ⟨?_, ?_, ?_⟩
  · refine ⟨ids, ?_, ?_, ?_, ?_, ?_, ?_⟩
    all_goals simp [Open, nextLaunch]
  · constructor
    all_goals simp [Open, launches, sessions, tokens, nextLaunch]
  · constructor
    all_goals simp [Open, offline, sessions, nextLaunch, offlineClosing]

theorem loaded_rows (rows : List Row) (h : d.Loaded) : (rows.foldl Directory.addRow d).Loaded := by
  induction rows generalizing d with
  | nil => exact h
  | cons row rows ih => exact ih (h.addRow row)

theorem sound_newDirectory (host : String) (u : Unicode) (rows : List Row) :
    (newDirectory host u rows).Sound := by
  rw [newDirectory_eq]
  refine (loaded_rows rows ⟨?_, ?_, rfl, rfl, rfl, rfl, rfl⟩).sound
  · simp
  · simp

end Directory

end Sessionbus
