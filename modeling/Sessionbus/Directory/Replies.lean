import Sessionbus.Directory.History

/-!
# The answer of a launch

A launch is answered when it is concluded: by the goroutine that revoked it, by the session
that publishes its lane, or by that session when it returns.
-/

namespace Sessionbus

/-- What a session holds for the reply channel of its launch. -/
structure Party.Holding (p : Party) : Prop where
  published : p.committed = true → p.launchResult = none
  stopped : p.launchResult ≠ none → p.stopping = true ∨ p.closed = true
  busy : p.opening = .reserved → p.launchResult = none
  lost : p.launch ≠ none → p.committed = false → p.closed = true → p.launchResult ≠ none

namespace Party.Holding

variable {p : Party}

theorem fresh : ({} : Party).Holding := ⟨by simp, by simp, by simp, by simp⟩

theorem openFailed (h : p.Holding) (answer : Answer) : (p.openFailed answer).Holding := by
  obtain ⟨published, -, -, -⟩ := h
  unfold Party.openFailed Party.abortLaunch Party.stop
  constructor <;> grind

theorem stop (h : p.Holding) : p.stop.Holding := by
  obtain ⟨published, -, busy, lost⟩ := h
  unfold Party.stop
  constructor <;> grind

theorem timedOut (h : p.Holding) (rests : p.opening ≠ .reserved) : p.timedOut.Holding := by
  obtain ⟨published, stopped, busy, lost⟩ := h
  unfold Party.timedOut Party.abortLaunch Party.stop Party.launching
  constructor <;> grind

theorem shutDown (h : p.Holding) (rests : p.opening ≠ .reserved) : p.shutDown.Holding := by
  obtain ⟨published, stopped, busy, lost⟩ := h
  unfold Party.shutDown Party.abortLaunch Party.stop Party.launching
  constructor <;> grind

theorem lose (h : p.Holding) (rests : p.opening ≠ .reserved) : p.lost.Holding := by
  obtain ⟨published, stopped, busy, lost⟩ := h
  unfold Party.lost Party.abortLaunch Party.stop
  cases hl : p.launch <;> cases hc : p.committed <;> constructor <;> grind

theorem startLane (h : p.Holding) (reads : p.reads = true)
    (uncommitted : p.committed = false) (l : Ptr) (launch : Launch) (row : Row)
    (hello : HelloDescription) (sent : Bool) : (p.startLane l launch row hello sent).Holding := by
  obtain ⟨published, stopped, busy, lost⟩ := h
  unfold Party.reads Party.handles at reads
  unfold Party.startLane Party.abortLaunch Party.stop
  constructor <;> grind

theorem commit (h : p.Holding) (none : p.launchResult = none) : p.commit.Holding := by
  obtain ⟨published, stopped, busy, lost⟩ := h
  constructor <;> grind

theorem return_ (h : p.Holding) : p.return_.Holding := by
  obtain ⟨published, stopped, busy, lost⟩ := h
  constructor <;> grind

theorem policyClose (h : p.Holding) : p.policyClose.Holding := by
  obtain ⟨published, stopped, busy, lost⟩ := h
  unfold Party.policyClose
  constructor <;> grind

end Party.Holding

namespace Directory

attribute [local grind =] Function.update_apply

structure Answered (d : Directory) : Prop where
  count : ∀ l, (d.launches l).replies.length = if (d.launches l).concluded then 1 else 0
  left : ∀ l, d.Open l → l ∈ d.tokens ∨ (d.launches l).revoked ≠ none ∨ (d.launches l).owner ≠ none
  returned : ∀ s l, (d.sessions s).launch = some l → (d.sessions s).returned = true →
    (d.launches l).concluded = true
  holding : ∀ s, (d.sessions s).Holding

variable {d d' : Directory}

/-! ## Steps that are not a launch's -/

/-- The steps that can change a launch. -/
def Action.ofLaunch : Action → Bool
  | .spawn .. | .remoteSpawn .. | .describe .. | .startChild .. | .revoke .. | .release .. |
    .claim .. | .publish ..
  | .finish .. => true
  | _ => false

/-- What a session may do apart from its launch. -/
def Aside (p p' : Party) : Prop :=
  p'.launch = p.launch ∧ p'.returned = p.returned ∧ (p.Holding → p'.Holding)

theorem Aside.refl (p : Party) : Aside p p := ⟨rfl, rfl, id⟩

theorem Heard.aside {p p' : Party} (h : Heard p p') : Aside p p' := by
  rw [h.same]
  exact ⟨rfl, rfl, fun h => ⟨h.published, h.stopped, h.busy, h.lost⟩⟩

theorem Own.aside {s : Ptr} {f : Party → Party} (own : Own d s f) {p : Party}
    (rests : p.opening ≠ .reserved) : Aside p (f p) := by
  obtain ⟨-, launch, -, -, -, returned⟩ := own.keeps p
  refine ⟨launch, returned, fun h => ?_⟩
  cases own with
  | beginClose forget =>
    beta_reduce
    split
    · exact ⟨h.published, h.stopped, h.busy, h.lost⟩
    · exact h
  | reject => exact ⟨h.published, fun _ => .inl rfl, h.busy, h.lost⟩
  | hardStop => exact h.stop
  | spawnTimeout => exact h.timedOut rests
  | shutDown => exact h.shutDown rests
  | exited => exact ⟨h.published, h.stopped, h.busy, h.lost⟩
  | ownerEnd => exact ⟨h.published, h.stopped, h.busy, h.lost⟩
  | @policyClose o rest =>
    have taken : { p with inbox := rest }.Holding := ⟨h.published, h.stopped, h.busy, h.lost⟩
    exact taken.policyClose

structure Apart (d d' : Directory) : Prop where
  launches : d'.launches = d.launches
  tokens : d'.tokens = d.tokens
  nextLaunch : d'.nextLaunch = d.nextLaunch
  sessions : ∀ s, Aside (d.sessions s) (d'.sessions s)

theorem Answered.apart (h : d.Answered) (a : Apart d d') : d'.Answered where
  count := by rw [a.launches]; exact h.count
  left := by
    unfold Open
    rw [a.launches, a.tokens, a.nextLaunch]
    exact h.left
  returned s l := by
    rw [a.launches, (a.sessions s).1, (a.sessions s).2.1]
    exact h.returned s l
  holding s := (a.sessions s).2.2 (h.holding s)

namespace Apart

theorem refl (d : Directory) : Apart d d := ⟨rfl, rfl, rfl, fun _ => Aside.refl _⟩

theorem trans {d'' : Directory} (h : Apart d d') (h' : Apart d' d'') : Apart d d'' where
  launches := h'.launches.trans h.launches
  tokens := h'.tokens.trans h.tokens
  nextLaunch := h'.nextLaunch.trans h.nextLaunch
  sessions s :=
    ⟨(h'.sessions s).1.trans (h.sessions s).1, (h'.sessions s).2.1.trans (h.sessions s).2.1,
      (h'.sessions s).2.2 ∘ (h.sessions s).2.2⟩

theorem told (t : Told d d') : Apart d d' :=
  ⟨t.launches, t.tokens, t.nextLaunch, fun s => (t.sessions s).aside⟩

theorem same (launches : d'.launches = d.launches) (tokens : d'.tokens = d.tokens)
    (nextLaunch : d'.nextLaunch = d.nextLaunch) (sessions : d'.sessions = d.sessions) :
    Apart d d' :=
  ⟨launches, tokens, nextLaunch, fun s => by rw [sessions]; exact Aside.refl _⟩

theorem session {s : Ptr} {v : Party} (h : Aside (d.sessions s) v) :
    Apart d (d.setSession s v) := by
  refine { refl d with sessions := fun s' => ?_ }
  by_cases heq : s' = s
  · subst heq
    simpa using h
  · simpa [Function.update_of_ne heq] using Aside.refl (d.sessions s')

theorem setItem (p : Ptr) (v : Item) : Apart d (d.setItem p v) := same rfl rfl rfl rfl

theorem endEntry (full : List Ptr) (p : Ptr) : Apart d (d.endEntry full p) :=
  (setItem p (d.items p).ended).trans (told (Told.endEntry full p))

theorem seat (s : Ptr) (id : String) (item : Item) : Apart d (d.seat s id item) := by
  refine { refl d with sessions := fun s' => ?_ }
  by_cases heq : s' = s
  · subst heq
    simp only [seat_sessions, Function.update_self]
    exact ⟨rfl, rfl, fun h => ⟨h.published, h.stopped, h.busy, h.lost⟩⟩
  · simpa [Function.update_of_ne heq] using Aside.refl (d.sessions s')

theorem takeID (full : List Ptr) (host : String) (s : Ptr) (hello : PeerHello) :
    Apart d (d.takeID full host s hello) := by
  unfold Directory.takeID
  simp only
  split
  next found _ =>
    exact ((setItem found ((d.items found).setLifetime none)).trans (endEntry full found)).trans
      (seat _ _ _)
  · exact (told (Told.newOwner _)).trans (seat _ _ _)

theorem installPeer {full : List Ptr} {s : Ptr} {hello : PeerHello}
    (heq : d.installPeer full s hello = some d') : Apart d d' := by
  obtain ⟨old, -, -, -, rfl⟩ | ⟨old, -, -, -, rfl⟩ := installPeer_cases heq
  · exact setItem _ _
  · unfold Directory.replacePeer
    split
    · exact takeID full _ s hello
    next o =>
      have unlisted : Apart d (d.setEntry (d.items o).row.sessionID none) := same rfl rfl rfl rfl
      exact (unlisted.trans (endEntry full o)).trans (takeID full _ s hello)

theorem lost {s : Ptr} (rests : (d.sessions s).opening ≠ .reserved) :
    Apart d (d.setSession s (d.sessions s).lost) := by
  obtain ⟨-, launch, -, -, -, returned⟩ := lost_lost (d.sessions s)
  exact session ⟨launch, returned, fun h => h.lose rests⟩

theorem detach (full : List Ptr) (p : Ptr) {s : Ptr} (rests : (d.sessions s).opening ≠ .reserved) :
    Apart d (((d.endEntry full p).leave p).setSession s
      (((d.endEntry full p).leave p).sessions s).lost) := by
  have ended : Apart d (d.endEntry full p) := endEntry full p
  have opening := ((Told.endEntry (d := d) full p).sessions s).keeps.2.2.1
  refine trans ?_ (lost ?_)
  · unfold Directory.leave
    split
    · exact ended.trans (same rfl rfl rfl rfl)
    · exact ended.trans (setItem _ _)
  · unfold Directory.leave
    split <;> exact fun reserved => rests (opening.symm.trans reserved)

theorem finishOfflineClose (p : Ptr) (forget deleted : Bool) :
    Apart d (d.finishOfflineClose p forget deleted) := by
  unfold Directory.finishOfflineClose
  simp only
  split
  · split
    · split <;> exact same rfl rfl rfl rfl
    · exact same rfl rfl rfl rfl
  · exact same rfl rfl rfl rfl

theorem openFailed (s : Ptr) (answer : Answer) :
    Apart d (d.setSession s ((d.sessions s).openFailed answer)) := by
  refine session ⟨?_, ?_, fun h => h.openFailed answer⟩
  all_goals unfold Party.openFailed Party.abortLaunch Party.stop; grind

theorem openID {s l : Ptr} (reads : (d.sessions s).reads = true) (id : String) :
    Apart d
      (((d.identified l id).setEntry (qualify id d.host) (some (d.launches l).entry)).setSession s
        ((d.sessions s).setOpening .reserved)) := by
  have listed :
      Apart d ((d.identified l id).setEntry (qualify id d.host) (some (d.launches l).entry)) :=
    same rfl rfl rfl rfl
  refine listed.trans (session ⟨rfl, rfl, fun h => ⟨h.published, h.stopped, fun _ => ?_, h.lost⟩⟩)
  have := h.stopped
  unfold Party.reads at reads
  simp only [setEntry_sessions, setItem_sessions, Party.setOpening_launchResult] at this ⊢
  grind

end Apart

theorem Routine.apart {a : Action} (routine : Routine d a d') : Apart d d' := by
  cases routine with
  | idle => exact .refl d
  | own own rests => exact .session (own.aside rests)
  | forward s => exact .told (Told.postCallerForward s _)
  | remoteOwner => exact .told (Told.remoteOwner _)
  | openFailed s answer => exact .openFailed s answer

theorem Does.apart {a : Action} (does : Does d a d') : Apart d d' ∨ a.ofLaunch = true := by
  cases does with
  | routine routine => exact .inl routine.apart
  | hello s value full _ _ _ _ _ installed => exact .inl (.installPeer installed)
  | remoteEnded event full => exact .inl (.told (Told.remoteEnded full event))
  | openID s l id _ _ _ reads => exact .inl (.openID reads id)
  | refusedID s l id answer => exact .inl ((Apart.setItem _ _).trans (.openFailed s answer))
  | execute => exact .inl (.setItem _ _)
  | finishRun => exact .inl (.setItem _ _)
  | closeWritten => exact .inl (.setItem _ _)
  | closeWire => exact .inl (.session ⟨rfl, rfl, fun h => ⟨h.published, h.stopped, h.busy, h.lost⟩⟩)
  | lost s full _ rests => exact .inl (.lost rests)
  | detach s full p _ rests => exact .inl (.detach full p rests)
  | closeOffline => exact .inl (.same rfl rfl rfl rfl)
  | finishOfflineClose p forget deleted => exact .inl (.finishOfflineClose p forget deleted)
  | link => exact .inl (.same rfl rfl rfl rfl)
  | shutdown => exact .inl (.same rfl rfl rfl rfl)
  | _ => exact .inr rfl

/-! ## Steps of a launch -/

namespace Answered

theorem addLaunch (h : d.Answered) (sound : d.Sound) {item : Item} {launch : Launch}
    (unanswered : launch.replies = []) (unconcluded : launch.concluded = false) :
    (d.addLaunch item launch).Answered := by
  constructor
  case count =>
    intro l
    have := h.count l
    by_cases heq : l = d.nextLaunch <;> grind
  case left =>
    intro l hl
    rcases (open_addLaunch unconcluded l).mp hl with hl | rfl
    · have := h.left l hl
      have := hl.1
      grind
    · exact .inl (by simp)
  case returned =>
    intro s l hs hr
    have := h.returned s l hs hr
    have := (sound.seats.lane s l hs).1
    grind
  case holding => exact h.holding

theorem spawnHere (h : d.Answered) (sound : d.Sound) {parent : Ptr} {caller : Caller}
    {input : LaneSpawnRequest} (heq : d.spawnHere parent caller input = some d') : d'.Answered := by
  obtain ⟨-, row, launch, entries, names, -, -, concluded, replies, rfl⟩ := spawnHere_cases heq
  have added : (d.addLaunch (.reserved row (some parent)) launch).Answered :=
    h.addLaunch sound replies concluded
  exact added.apart (Apart.same rfl rfl rfl rfl)

theorem markLaunch (h : d.Answered) {l : Ptr} {v : Launch}
    (replies : v.replies = (d.launches l).replies)
    (concluded : v.concluded = (d.launches l).concluded) (tokens : List Ptr)
    (others : ∀ l', l' ≠ l → l' ∈ d.tokens → l' ∈ tokens)
    (left : d.Open l → l ∈ tokens ∨ v.revoked ≠ none ∨ v.owner ≠ none) :
    ((d.setLaunch l v).setTokens tokens).Answered := by
  constructor
  case count => have := h.count; grind
  case left =>
    intro l' hl'
    have old : d.Open l' := by
      unfold Open at hl' ⊢
      grind
    have := h.left l' old
    by_cases heq : l' = l <;> grind
  case returned => have := h.returned; grind
  case holding => exact h.holding

theorem claim (h : d.Answered) (sound : d.Sound) {s l : Ptr} (reads : (d.sessions s).reads = true)
    (unknown : (d.sessions s).identity = none) (hello : HelloDescription) (sent : Bool) :
    (((d.setLaunch l ((d.launches l).claim s)).setTokens (d.tokens.filter (· != l))).setSession s
      ((d.sessions s).startLane l ((d.launches l).claim s) (d.entryOf l).row hello
        sent)).Answered := by
  have claimed :
      ((d.setLaunch l ((d.launches l).claim s)).setTokens (d.tokens.filter (· != l))).Answered :=
    h.markLaunch (v := (d.launches l).claim s) rfl rfl (d.tokens.filter (· != l)) (by grind)
    fun _ => .inr (.inr (by simp))
  have uncommitted : (d.sessions s).committed = false := by
    by_contra hc
    obtain ⟨l', hl'⟩ := Option.ne_none_iff_exists'.mp (sound.seats.committed s (by simpa using hc))
    have := (sound.seats.lane s l' hl').2.2
    simp_all
  have running := (running_of_reads reads).1
  obtain ⟨-, launch, -, -, returned⟩ := startLane_frame (d.sessions s) l ((d.launches l).claim s)
    (d.entryOf l).row hello sent
  have holding := (h.holding s).startLane reads uncommitted l ((d.launches l).claim s)
      (d.entryOf l).row hello sent
  constructor
  case count => exact claimed.count
  case left => exact claimed.left
  case returned =>
    intro s' l' hs' hr
    have := claimed.returned s' l'
    grind
  case holding =>
    intro s'
    have := h.holding s'
    grind

theorem conclude (h : d.Answered) {l : Ptr} (hl : d.Open l) (answer : Answer)
    (launch : (d'.launches l).concluded = true ∧
      (d'.launches l).replies = (d.launches l).replies ++ [answer])
    (launches : ∀ l', l' ≠ l → d'.launches l' = d.launches l')
    (tokens : ∀ l', l' ≠ l → l' ∈ d.tokens → l' ∈ d'.tokens)
    (nextLaunch : d'.nextLaunch = d.nextLaunch)
    (sessions : ∀ s, (d'.sessions s).launch = (d.sessions s).launch ∧
      ((d'.sessions s).returned = (d.sessions s).returned ∨ (d.sessions s).launch = some l))
    (holding : ∀ s, (d'.sessions s).Holding) : d'.Answered := by
  constructor
  case count =>
    intro l'
    by_cases heq : l' = l
    · subst heq
      have := h.count l'
      simp only [hl.2] at this
      simp_all
    · rw [launches l' heq]
      exact h.count l'
  case left =>
    intro l' hl'
    have heq : l' ≠ l := by
      rintro rfl
      have := hl'.2
      simp [launch.1] at this
    have old : d.Open l' := by
      unfold Open at hl' ⊢
      rwa [launches l' heq, nextLaunch] at hl'
    rw [launches l' heq]
    rcases h.left l' old with token | rest
    · exact .inl (tokens l' heq token)
    · exact .inr rest
  case returned =>
    intro s l' hs hr
    have := h.returned s l'
    by_cases heq : l' = l <;> grind
  case holding => exact holding

theorem release (h : d.Answered) {l : Ptr} (hl : d.Open l) (r : Released d l d') (answer : Answer) :
    ((d'.setLaunch l ((d'.launches l).setRevoked none)).reply l answer).Answered := by
  refine h.conclude hl answer ?_ (fun l' hne => ?_) (fun l' hne token => ?_) r.nextLaunch
    (fun s => ?_) fun s => ?_
  · simp [Directory.reply, r.launches]
  · simp [Directory.reply, r.launches, Function.update_of_ne hne]
  · have := r.tokens
    simp [Directory.reply, this, token, hne]
  · exact ⟨(r.sessions s).aside.1, .inl (r.sessions s).aside.2.1⟩
  · exact (r.sessions s).aside.2.2 (h.holding s)

theorem publish (h : d.Answered) (sound : d.Sound) {s l : Ptr}
    (launch : (d.sessions s).launch = some l) (may : d.mayPublish s l = true) (createdAt : Nat)
    (answer : Answer) :
    (((d.attach l s createdAt).setSession s (d.sessions s).commit).reply l answer).Answered := by
  have hl := sound.open_session launch (mayPublish_opening may)
  have unanswered : (d.sessions s).launchResult = none := by
    have stopped := (h.holding s).stopped
    have busy := (h.holding s).busy
    unfold Directory.mayPublish Party.reads at may
    grind
  refine h.conclude hl answer ?_ (fun l' hne => ?_) (fun l' hne token => ?_) (by simp)
    (fun s' => ?_) fun s' => ?_
  · simp
  · simp [Function.update_of_ne hne]
  · simpa using token
  · by_cases heq : s' = s
    · subst heq
      simp
    · simp [Function.update_of_ne heq]
  · by_cases heq : s' = s
    · subst heq
      simpa using (h.holding s').commit unanswered
    · simpa [Function.update_of_ne heq] using h.holding s'

theorem abandon (h : d.Answered) (sound : d.Sound) {s l : Ptr}
    (launch : (d.sessions s).launch = some l) (uncommitted : (d.sessions s).committed = false)
    (running : (d.sessions s).returned = false) (full : List Ptr) (answer : Answer) :
    (((d.releaseLaunch full l).reply l answer).setSession s
      ((d.releaseLaunch full l).sessions s).return_).Answered := by
  have hl : d.Open l :=
    ⟨(sound.seats.lane s l launch).1, sound.seats.uncommitted s l launch uncommitted running⟩
  have r := sound.releaseLaunch hl full
  have aside s' := (r.sessions s').aside
  refine h.conclude hl answer ?_ (fun l' hne => ?_) (fun l' hne token => ?_) r.nextLaunch
    (fun s' => ?_) fun s' => ?_
  · simp [r.launches]
  · simp [r.launches, Function.update_of_ne hne]
  · simp [r.tokens, token, hne]
  · by_cases heq : s' = s
    · subst heq
      simp [(aside s').1, launch]
    · simp [Function.update_of_ne heq, (aside s').1, (aside s').2.1]
  · have holding := (aside s').2.2 (h.holding s')
    by_cases heq : s' = s
    · subst heq
      simpa using holding.return_
    · simpa [Function.update_of_ne heq] using holding

theorem returns (h : d.Answered) {s : Ptr}
    (done : ∀ l, (d.sessions s).launch = some l → (d.launches l).concluded = true) :
    (d.setSession s (d.sessions s).return_).Answered := by
  refine { h with returned := ?_, holding := ?_ }
  · have := h.returned
    grind
  · intro s'
    have := h.holding s'
    have := (h.holding s).return_
    grind

theorem retire (h : d.Answered) (sound : d.Sound) {s l : Ptr}
    (launch : (d.sessions s).launch = some l) (committed : (d.sessions s).committed = true)
    (p : Ptr) (forget : Bool) :
    ((d.offline p s forget).setSession s ((d.offline p s forget).sessions s).return_).Answered := by
  obtain ⟨sessions, launches, tokens, nextLaunch⟩ := offline_frame d p s forget
  have offline : (d.offline p s forget).Answered :=
    h.apart (Apart.same launches tokens nextLaunch sessions)
  refine offline.returns fun l' hl' => ?_
  rw [sessions, launch] at hl'
  cases hl'
  rw [launches]
  exact sound.seats.concluded s l launch committed

theorem finish (h : d.Answered) (sound : d.Sound) {s : Ptr}
    (running : (d.sessions s).returned = false) (closed : (d.sessions s).closed = true)
    (full : List Ptr) (deleted : Bool) : (d.finish full s deleted).Answered := by
  have holding := h.holding s
  unfold Directory.finish
  cases hl : (d.sessions s).launch with
  | none =>
    simp only [hl]
    exact h.returns (by simp [hl])
  | some l =>
    have identity := (sound.seats.lane s l hl).2.2
    simp only [hl, identity]
    cases hc : (d.sessions s).committed with
    | false =>
      obtain ⟨answer, ha⟩ := Option.ne_none_iff_exists'.mp (holding.lost (by simp [hl]) hc closed)
      simp only [ha]
      exact h.abandon sound hl hc running full answer
    | true =>
      simp only [holding.published hc]
      exact h.retire sound hl hc _ _

theorem step (h : d.Answered) (sound : d.Sound) (a : Action) : (d.step a).Answered := by
  have does := d.does a
  generalize d.step a = d' at does ⊢
  obtain apart | ofLaunch := does.apart
  · exact h.apart apart
  cases does with
  | routine routine => exact h.apart routine.apart
  | spawn s input _ _ _ spawned => exact h.spawnHere sound spawned
  | remoteSpawn caller input _ spawned =>
    have told : Told d (d.remoteOwner caller).1 := Told.remoteOwner caller
    exact (h.apart (.told told)).spawnHere (sound.calm told.calm) spawned
  | describe => exact h.addLaunch sound rfl rfl
  | startChild l =>
    exact h.markLaunch (v := { d.launches l with child := true }) rfl rfl d.tokens
      (fun _ _ => id) (h.left l)
  | revoke l answer =>
    exact h.markLaunch (v := (d.launches l).setRevoked (some answer)) rfl rfl
      (d.tokens.filter (· != l)) (by grind) fun _ => .inr (.inl (by simp))
  | release l full revoked =>
    have hl := (sound.seats.revoked l (by simp [revoked])).1
    exact h.release hl (sound.releaseLaunch hl full) _
  | claim s l hello sent reads unknown => exact h.claim sound reads unknown hello sent
  | publish s l _ answer launch _ may => exact h.publish sound launch may _ answer
  | finish s deleted full running closed => exact h.finish sound running closed full deleted
  | _ => cases ofLaunch

theorem run (h : d.Answered) (sound : d.Sound) (actions : List Action) :
    (d.run actions).Answered := by
  induction actions generalizing d with
  | nil => exact h
  | cons a actions ih => exact ih (h.step sound a) (sound.step a)

end Answered

end Directory

end Sessionbus
