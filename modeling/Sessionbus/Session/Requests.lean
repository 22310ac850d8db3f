import Mathlib.Data.List.Count
import Sessionbus.Session.Quiet

/-!
# The client requests of a session

A request of the client that cannot be answered at once is registered with the replies it
waits for, and each of those arrives once. A `session.close` that succeeded is held back
while a `turn.run` on the same target is registered.
-/

namespace Sessionbus

/-- Nothing of its own, an entry of this directory, or the canonical ID of a remote session. -/
inductive Target
  | none
  | entry (item : Ptr)
  | remote (targetID : String)
deriving DecidableEq, Repr

inductive Registration
  /-- `route`, `forward`, `launchRequest` and the aggregates: one reply. -/
  | call (method : Method) (target : Target)
  /-- The local legs of a `message.send`, by their place among its deliveries. -/
  | send (messageID : String) (deliveries : List MessageSendDelivery) (legs : List Nat)

namespace Registration

def state : Registration → RequestState
  | .call method .none => { method, aggregate := method == .send }
  | .call method (.entry item) => { method, target := some item, aggregate := method == .send }
  | .call method (.remote targetID) => { method, targetID, aggregate := method == .send }
  | .send messageID deliveries legs =>
    { method := .send, messageID, deliveries, pending := legs.length }

def legs : Registration → List Nat
  | .call _ _ => [0]
  | .send _ _ legs => legs

end Registration

/-- The connection is open and its outbox has room for so many frames. -/
def Wire.room (c : Wire) (n : Nat) : Bool :=
  !c.finishing && !c.done && !c.fdClosed && decide (c.outbox.length + n ≤ outboxSize)

/-- What a reply makes the session answer encodes. -/
def RequestState.encodesReply (env : Env) (a : RequestState) (id leg : Nat)
    (answer : Answer) : Bool :=
  if a.method = .send ∧ a.aggregate = false then
    a.pending ≠ 1 || env.encodesAnswer id .send
      (.value (.sent a.messageID (a.deliveries.modify leg (MessageSendDelivery.settle · answer))))
  else env.encodesAnswer id a.method answer

/-- A session, the replies it waits for and the requests it registered. -/
structure Desk where
  session : Session
  due : List (Nat × Nat) := []
  registered : List Nat := []

namespace Desk

inductive Op
  | register (id : Nat) (r : Registration)
  | reply (id leg : Nat) (answer : Answer)
  | detach (code : Code)
  /-- The writer takes a frame. -/
  | write

/-- Request IDs of a client go up. A send with no leg to wait for is answered at once. -/
def step (env : Env) (t : Desk) : Op → Desk
  | .register id r =>
    if id ≤ t.session.lastIn then t
    else
      let s := { t.session with lastIn := id }
      if r.legs = [] then
        { t with
          session := s.respond env id .send (.value (.sent r.state.messageID r.state.deliveries))
          registered := id :: t.registered }
      else
        { session := { s with
          requests := s.requests.insert id r.state, owned := s.owned + r.legs.length }
          due := r.legs.map (id, ·) ++ t.due
          registered := id :: t.registered }
  | .reply id leg answer =>
    if (id, leg) ∈ t.due then
      { t with session := t.session.consumeReply env id leg answer, due := t.due.erase (id, leg) }
    else t
  | .detach code => { t with session := t.session.detachRequests env code }
  | .write => { t with session := { t.session with wire := t.session.wire.taken } }

def run (env : Env) (t : Desk) (ops : List Op) : Desk := ops.foldl (step env) t

/-- The response frames for the request that were put on the wire. -/
def responses (t : Desk) (id : Nat) : Nat := t.session.history.count (.responded id)

/-- The operation is a successful close while another close on its target is held. -/
def crowds (t : Desk) : Op → Bool
  | .reply id _ (.value _) =>
    match t.session.requests.lookup id with
    | some state => state.method == .close && t.session.requests.values.any (Session.heldFor state)
    | none => false
  | _ => false

/-- The answers that the operation gives encode, and the wire has room for them. -/
def served (env : Env) (t : Desk) : Op → Bool
  | .register id r =>
    r.legs ≠ [] || t.session.wire.room 1 &&
      env.encodesAnswer id .send (.value (.sent r.state.messageID r.state.deliveries))
  | .reply id leg answer =>
    t.session.wire.room 2 &&
      match t.session.requests.lookup id with
      | some state => state.encodesReply env id leg answer
      | none => true
  | .detach code =>
    t.session.wire.room t.session.requests.entries.length &&
      t.session.requests.entries.all fun e => env.encodesAnswer e.1 e.2.method (.code code)
  | .write => true

/-- No step of the run crowds, and each is served. -/
def calm (env : Env) (t : Desk) : List Op → Bool
  | [] => true
  | op :: ops => !t.crowds op && t.served env op && calm env (t.step env op) ops

end Desk

/-! ## Targets -/

namespace RequestState

/-- The two requests have one target. -/
def Aims (a b : RequestState) : Prop :=
  a.target.isSome = true ∧ a.target = b.target ∨ a.targetID ≠ "" ∧ a.targetID = b.targetID

/-- A request has a local or a remote target, not both. -/
def Exclusive (a : RequestState) : Prop := a.target = none ∨ a.targetID = ""

theorem Aims.symm {a b : RequestState} (h : Aims a b) : Aims b a := by
  rcases h with ⟨hs, heq⟩ | ⟨hs, heq⟩
  · exact .inl ⟨heq ▸ hs, heq.symm⟩
  · exact .inr ⟨heq ▸ hs, heq.symm⟩

theorem Aims.trans {a b c : RequestState} (hb : b.Exclusive) (h : Aims a b) (h' : Aims b c) :
    Aims a c := by
  rcases h with ⟨hs, heq⟩ | ⟨hs, heq⟩ <;> rcases h' with ⟨hs', heq'⟩ | ⟨hs', heq'⟩
  · exact .inl ⟨hs, heq.trans heq'⟩
  · rcases hb with hb | hb
    · rw [heq, hb] at hs
      cases hs
    · exact absurd hb hs'
  · rcases hb with hb | hb
    · rw [hb] at hs'
      cases hs'
    · exact absurd (heq.trans hb) hs
  · exact .inr ⟨hs, heq.trans heq'⟩

end RequestState

theorem Registration.exclusive (r : Registration) : r.state.Exclusive := by
  rcases r with ⟨method, _ | _ | _⟩ | _ <;> simp [state, RequestState.Exclusive]

namespace Session

theorem runPending_iff {s : Session} {a : RequestState} :
    s.runPending a.target a.targetID = true ↔
      ∃ id b, s.requests.lookup id = some b ∧ b.method = .run ∧ a.Aims b := by
  simp only [runPending, List.any_eq_true, AList.mem_values, Bool.and_eq_true,
    Bool.or_eq_true, beq_iff_eq, bne_iff_ne, ne_eq, RequestState.Aims]
  constructor
  · rintro ⟨b, ⟨id, hb⟩, hm, haim⟩
    exact ⟨id, b, hb, hm, haim.imp (fun h => ⟨h.1, h.2.symm⟩) fun h => ⟨h.1, h.2.symm⟩⟩
  · rintro ⟨id, b, hb, hm, haim⟩
    exact ⟨b, ⟨id, hb⟩, hm, haim.imp (fun h => ⟨h.1, h.2.symm⟩) fun h => ⟨h.1, h.2.symm⟩⟩

theorem heldFor_iff {a c : RequestState} :
    heldFor a c = true ↔ c.method = .close ∧ c.held.isSome = true ∧ c.Aims a := by
  simp [heldFor, RequestState.Aims, and_assoc]

theorem respond_frame (env : Env) (s : Session) (id : Nat) (method : Method) (answer : Answer) :
    (s.respond env id method answer).requests = s.requests ∧
    (s.respond env id method answer).lastIn = s.lastIn := by
  unfold respond
  split
  · split <;> exact ⟨rfl, rfl⟩
  · exact ⟨rfl, rfl⟩

theorem respond_taken {env : Env} {s : Session} {n id : Nat} {method : Method} {answer : Answer}
    (room : s.wire.room (n + 1) = true) (encodes : env.encodesAnswer id method answer = true) :
    (s.respond env id method answer).history = s.history ++ [.responded id] ∧
      (s.respond env id method answer).wire.room n = true := by
  simp only [Wire.room, Bool.and_eq_true, Bool.not_eq_true', decide_eq_true_eq] at room
  obtain ⟨⟨⟨finishing, done⟩, opened⟩, short⟩ := room
  have queued :
      s.wire.send (.response id answer.body) = (s.wire.queue (.response id answer.body), true) := by
    simp [Wire.send, finishing, done, show s.wire.outbox.length < outboxSize by omega]
  unfold respond
  rw [if_pos encodes, queued]
  refine ⟨rfl, ?_⟩
  simp [Wire.room, Wire.queue, finishing, done, opened]
  omega

/-! ## Every registered request waits or is answered -/

/-- The replies a registered request still waits for. A held close waits for none. -/
def Waits (a : RequestState) (n : Nat) : Prop :=
  if a.method = .send ∧ a.aggregate = false then n = a.pending ∧ 0 < n ∧ a.held = none
  else n + (if a.held.isSome then 1 else 0) = 1

/-- `awaited id` replies to request `id` are still to come. -/
structure Counted (s : Session) (awaited : Nat → Nat) (registered : List Nat) : Prop where
  waits : ∀ id a, s.requests.lookup id = some a → Waits a (awaited id)
  exclusive : ∀ id a, s.requests.lookup id = some a → a.Exclusive
  listed : ∀ id a, s.requests.lookup id = some a → id ∈ registered
  answered : ∀ id ∈ registered, s.history.count (.responded id) +
    (if (s.requests.lookup id).isSome then 1 else 0) = 1
  unanswered : ∀ id, s.lastIn < id → s.history.count (.responded id) = 0
  past : ∀ id ∈ registered, id ≤ s.lastIn

/-- A held close waits for a run on its target, and it is the only one held there. -/
structure Held (s : Session) : Prop where
  run : ∀ id a, s.requests.lookup id = some a → a.held.isSome = true →
    a.method = .close ∧ s.runPending a.target a.targetID = true
  solo : ∀ id id' a b, s.requests.lookup id = some a → s.requests.lookup id' = some b →
    a.held.isSome = true → b.held.isSome = true → a.Aims b → id = id'

/-- What is held encodes. -/
def Ready (env : Env) (s : Session) : Prop :=
  ∀ id a v, s.requests.lookup id = some a → a.held = some v → env.encodesAnswer id a.method v = true

variable {env : Env} {s t : Session} {awaited awaited' : Nat → Nat} {registered : List Nat}

theorem Ready.erase (h : Ready env s) {id : Nat} (hreq : t.requests = s.requests.erase id) :
    Ready env t := by
  intro k a v hk
  rw [hreq] at hk
  exact h k a v (AList.lookup_erase_iff.mp hk).2

theorem Ready.insert (h : Ready env s) {id : Nat} {b : RequestState}
    (hreq : t.requests = s.requests.insert id b)
    (hb : ∀ v, b.held = some v → env.encodesAnswer id b.method v = true) : Ready env t := by
  intro k a v hk
  rw [hreq] at hk
  rcases AList.lookup_insert_iff.mp hk with ⟨rfl, rfl⟩ | ⟨-, hk⟩
  · exact hb v
  · exact h k a v hk

theorem Counted.congr (h : Counted s awaited registered) (hreq : t.requests = s.requests)
    (hhist : t.history = s.history) (hlast : t.lastIn = s.lastIn) :
    Counted t awaited registered := by
  constructor
  · rw [hreq]; exact h.waits
  · rw [hreq]; exact h.exclusive
  · rw [hreq]; exact h.listed
  · rw [hreq, hhist]; exact h.answered
  · rw [hhist, hlast]; exact h.unanswered
  · rw [hlast]; exact h.past

theorem finishOne_frame (env : Env) (s : Session) (id : Nat) (a : RequestState) (result : Answer) :
    (s.finishOne env id a result).requests = s.requests.erase id ∧
      (s.finishOne env id a result).lastIn = s.lastIn :=
  respond_frame env _ id _ result

theorem finishOne_taken {n id : Nat} {a : RequestState} {result : Answer}
    (room : s.wire.room (n + 1) = true) (encodes : env.encodesAnswer id a.method result = true) :
    (s.finishOne env id a result).history = s.history ++ [.responded id] ∧
      (s.finishOne env id a result).wire.room n = true :=
  respond_taken (s := s.setRequests (s.requests.erase id)) room encodes

theorem Counted.finishOne (h : Counted s awaited registered) {id : Nat} {a : RequestState}
    (found : s.requests.lookup id = some a) (same : ∀ k, k ≠ id → awaited' k = awaited k) {n : Nat}
    (room : s.wire.room (n + 1) = true) {b : RequestState} {result : Answer}
    (encodes : env.encodesAnswer id b.method result = true) :
    Counted (s.finishOne env id b result) awaited' registered := by
  obtain ⟨hreq, hlast⟩ := finishOne_frame env s id b result
  have hhist := (finishOne_taken room encodes).1
  have hsub : ∀ {k b}, (s.requests.erase id).lookup k = some b →
      k ≠ id ∧ s.requests.lookup k = some b :=
    fun hk => AList.lookup_erase_iff.mp hk
  constructor
  · intro k b hk
    rw [hreq] at hk
    obtain ⟨hne, hk⟩ := hsub hk
    rw [same k hne]
    exact h.waits k b hk
  · intro k b hk
    rw [hreq] at hk
    exact h.exclusive k b (hsub hk).2
  · intro k b hk
    rw [hreq] at hk
    exact h.listed k b (hsub hk).2
  · intro k hk
    have hc := h.answered k hk
    rw [hreq, hhist, List.count_append]
    by_cases hne : k = id
    · subst hne
      simp only [found, Option.isSome_some, if_true] at hc
      simp [AList.lookup_erase]
      omega
    · have : Act.responded id ≠ Act.responded k := fun he => hne (by cases he; rfl)
      simp [AList.lookup_erase_ne hne, this, hc]
  · intro k hk
    rw [hlast] at hk
    have hne : Act.responded id ≠ Act.responded k := by
      rintro ⟨⟩
      exact absurd (h.past _ (h.listed _ a found)) (by omega)
    rw [hhist, List.count_append, h.unanswered k hk]
    simp [hne]
  · rw [hlast]
    exact h.past

theorem Counted.update (h : Counted s awaited registered) {id : Nat} {a b : RequestState}
    (found : s.requests.lookup id = some a) (same : ∀ k, k ≠ id → awaited' k = awaited k)
    (hwaits : Waits b (awaited' id)) (hex : b.Exclusive) :
    Counted { s with requests := s.requests.insert id b } awaited' registered := by
  refine ⟨fun k c hk => ?_, fun k c hk => ?_, fun k c hk => ?_, fun k hk => ?_,
    h.unanswered, h.past⟩
  · rcases AList.lookup_insert_iff.mp hk with ⟨rfl, rfl⟩ | ⟨hne, hk⟩
    · exact hwaits
    · rw [same k hne]
      exact h.waits k c hk
  · rcases AList.lookup_insert_iff.mp hk with ⟨rfl, rfl⟩ | ⟨-, hk⟩
    · exact hex
    · exact h.exclusive k c hk
  · rcases AList.lookup_insert_iff.mp hk with ⟨rfl, rfl⟩ | ⟨-, hk⟩
    · exact h.listed k a found
    · exact h.listed k c hk
  · have hc := h.answered k hk
    by_cases hne : k = id
    · subst hne
      simpa [found] using hc
    · simpa [AList.lookup_insert_ne hne] using hc

/-! ## Every held close waits for a run -/

theorem Held.congr (h : Held s) (hreq : t.requests = s.requests) : Held t := by
  have hrun : ∀ a : RequestState, t.runPending a.target a.targetID =
      s.runPending a.target a.targetID := fun a => by
    unfold runPending
    rw [hreq]
  constructor
  · intro id a hid hheld
    rw [hrun]
    rw [hreq] at hid
    exact h.run id a hid hheld
  · rw [hreq]
    exact h.solo

theorem Held.erase (h : Held s) {id : Nat} (hreq : t.requests = s.requests.erase id)
    (hrun : ∀ k b, k ≠ id → s.requests.lookup k = some b → b.held.isSome = true →
      ∃ j r, j ≠ id ∧ s.requests.lookup j = some r ∧ r.method = .run ∧ b.Aims r) : Held t := by
  constructor
  · intro k b hk hheld
    rw [hreq] at hk
    obtain ⟨hne, hk⟩ := AList.lookup_erase_iff.mp hk
    obtain ⟨j, r, hj, hr, hm, haim⟩ := hrun k b hne hk hheld
    refine ⟨(h.run k b hk hheld).1, runPending_iff.mpr ⟨j, r, ?_, hm, haim⟩⟩
    rw [hreq]
    exact AList.lookup_erase_iff.mpr ⟨hj, hr⟩
  · intro k k' a b hk hk'
    rw [hreq] at hk hk'
    exact h.solo k k' a b (AList.lookup_erase_iff.mp hk).2 (AList.lookup_erase_iff.mp hk').2

theorem Held.finishOther (h : Held s) {id : Nat} {a : RequestState}
    (found : s.requests.lookup id = some a) (hm : a.method ≠ .run) (b : RequestState)
    (result : Answer) : Held (s.finishOne env id b result) := by
  refine h.erase (finishOne_frame env s id b result).1 fun k b _ hk hheld => ?_
  obtain ⟨j, r, hr, hrm, haim⟩ := runPending_iff.mp (h.run k b hk hheld).2
  refine ⟨j, r, ?_, hr, hrm, haim⟩
  rintro rfl
  rw [found] at hr
  cases hr
  exact hm hrm

theorem Held.insert (h : Held s) {id : Nat} {b : RequestState}
    (hm : ∀ a, s.requests.lookup id = some a → a.method ≠ .run)
    (hb : b.held.isSome = true → b.method = .close ∧
      (∃ j r, s.requests.lookup j = some r ∧ r.method = .run ∧ b.Aims r) ∧
      ∀ k c, s.requests.lookup k = some c → c.held.isSome = true → ¬ b.Aims c) :
    Held { s with requests := s.requests.insert id b } := by
  have hkeep :
      ∀ c : RequestState, (∃ j r, s.requests.lookup j = some r ∧ r.method = .run ∧ c.Aims r) →
      ∃ j r, (s.requests.insert id b).lookup j = some r ∧ r.method = .run ∧ c.Aims r := by
    rintro c ⟨j, r, hr, hrm, haim⟩
    refine ⟨j, r, AList.lookup_insert_iff.mpr (.inr ⟨?_, hr⟩), hrm, haim⟩
    rintro rfl
    exact hm r hr hrm
  constructor
  · intro k c hk hheld
    rcases AList.lookup_insert_iff.mp hk with ⟨rfl, rfl⟩ | ⟨-, hk⟩
    · exact ⟨(hb hheld).1, runPending_iff.mpr (hkeep _ (hb hheld).2.1)⟩
    · exact ⟨(h.run k c hk hheld).1,
        runPending_iff.mpr (hkeep _ (runPending_iff.mp (h.run k c hk hheld).2))⟩
  · intro k k' c d hk hk' hheld hheld' haim
    rcases AList.lookup_insert_iff.mp hk with ⟨rfl, rfl⟩ | ⟨-, hc⟩ <;>
      rcases AList.lookup_insert_iff.mp hk' with ⟨rfl, rfl⟩ | ⟨-, hd⟩
    · rfl
    · exact absurd haim ((hb hheld).2.2 k' d hd hheld')
    · exact absurd haim.symm ((hb hheld').2.2 k c hc hheld)
    · exact h.solo k k' c d hc hd hheld hheld' haim

theorem Held.finishRun (h : Held s) {id : Nat} {a : RequestState}
    (found : s.requests.lookup id = some a) (hex : a.Exclusive) (result : Answer)
    (hmore : (s.finishOne env id a result).runPending a.target a.targetID = true) :
    Held (s.finishOne env id a result) := by
  have hreq := (finishOne_frame env s id a result).1
  refine h.erase hreq fun k b _ hk hheld => ?_
  obtain ⟨j, r, hr, hrm, haim⟩ := runPending_iff.mp (h.run k b hk hheld).2
  by_cases hj : j = id
  · subst hj
    rw [found] at hr
    cases hr
    obtain ⟨j', r', hr', hrm', haim'⟩ := runPending_iff.mp hmore
    rw [hreq] at hr'
    obtain ⟨hne, hr'⟩ := AList.lookup_erase_iff.mp hr'
    exact ⟨j', r', hne, hr', hrm', haim.trans hex haim'⟩
  · exact ⟨j, r, hj, hr, hrm, haim⟩

/-- The closes held on the target of `a` have lost their last run. -/
structure HeldBut (a : RequestState) (s : Session) : Prop where
  close : ∀ id b, s.requests.lookup id = some b → b.held.isSome = true → b.method = .close
  run : ∀ id b, s.requests.lookup id = some b → b.held.isSome = true → ¬ b.Aims a →
    ∃ j r, s.requests.lookup j = some r ∧ r.method = .run ∧ b.Aims r
  solo : ∀ id id' b c, s.requests.lookup id = some b → s.requests.lookup id' = some c →
    b.held.isSome = true → c.held.isSome = true → b.Aims c → id = id'

theorem Held.lastRun (h : Held s) {id : Nat} {a : RequestState}
    (found : s.requests.lookup id = some a) (result : Answer) :
    HeldBut a (s.finishOne env id a result) := by
  have hreq := (finishOne_frame env s id a result).1
  have hsub : ∀ {k b}, (s.finishOne env id a result).requests.lookup k = some b →
      s.requests.lookup k = some b :=
    fun hk => by
      rw [hreq] at hk
      exact (AList.lookup_erase_iff.mp hk).2
  refine ⟨fun k b hk hheld => (h.run k b (hsub hk) hheld).1, fun k b hk hheld hno => ?_,
    fun k k' b c hk hk' => h.solo k k' b c (hsub hk) (hsub hk')⟩
  obtain ⟨j, r, hr, hrm, haim⟩ := runPending_iff.mp (h.run k b (hsub hk) hheld).2
  refine ⟨j, r, ?_, hrm, haim⟩
  rw [hreq]
  refine AList.lookup_erase_iff.mpr ⟨?_, hr⟩
  rintro rfl
  rw [found] at hr
  cases hr
  exact hno haim

theorem HeldBut.none {a : RequestState} (h : HeldBut a s)
    (hno : ∀ id b, s.requests.lookup id = some b → heldFor a b = false) : Held s := by
  refine ⟨fun k b hk hheld =>
    ⟨h.close k b hk hheld, runPending_iff.mpr (h.run k b hk hheld fun haim => ?_)⟩, h.solo⟩
  exact absurd (heldFor_iff.mpr ⟨h.close k b hk hheld, hheld, haim⟩) (by simp [hno k b hk])

theorem HeldBut.release {a : RequestState} (h : HeldBut a s) (hex : a.Exclusive) {cid : Nat}
    {c : RequestState} (found : s.requests.lookup cid = some c) (hfor : heldFor a c = true)
    (result : Answer) : Held (s.finishOne env cid c result) := by
  obtain ⟨hcm, hcheld, hcaim⟩ := heldFor_iff.mp hfor
  have hreq := (finishOne_frame env s cid c result).1
  have hsub : ∀ {k b}, (s.finishOne env cid c result).requests.lookup k = some b →
      k ≠ cid ∧ s.requests.lookup k = some b := fun hk => by
    rw [hreq] at hk
    exact AList.lookup_erase_iff.mp hk
  refine ⟨fun k b hk hheld => ?_, fun k k' b d hk hk' => h.solo k k' b d (hsub hk).2 (hsub hk').2⟩
  obtain ⟨hne, hk⟩ := hsub hk
  have hno : ¬ b.Aims a := fun haim =>
    hne (h.solo k cid b c hk found hheld hcheld (haim.trans hex hcaim.symm))
  obtain ⟨j, r, hr, hrm, haim⟩ := h.run k b hk hheld hno
  refine ⟨h.close k b hk hheld, runPending_iff.mpr ⟨j, r, ?_, hrm, haim⟩⟩
  rw [hreq]
  refine AList.lookup_erase_iff.mpr ⟨?_, hr⟩
  rintro rfl
  rw [found] at hr
  cases hr
  exact absurd (hcm.symm.trans hrm) (by simp)

theorem finishRequest_held (hc : Counted s awaited registered) (h : Held s) {id : Nat}
    {a : RequestState} (found : s.requests.lookup id = some a) (result : Answer) :
    Held (s.finishRequest env id a result) := by
  have hex := hc.exclusive id a found
  unfold finishRequest
  extract_lets s₁
  by_cases hm : a.method = .run
  · by_cases hmore : s₁.runPending a.target a.targetID = true
    · rw [if_pos (by simp [hmore])]
      exact h.finishRun found hex result hmore
    · rw [if_neg (by simp [hm, hmore])]
      have hlast : HeldBut a s₁ := h.lastRun found result
      split
      · rename_i hnone
        refine hlast.none fun k b hk => ?_
        simpa using List.find?_eq_none.mp hnone ⟨k, b⟩ (AList.mem_lookup_iff.mp hk)
      · rename_i cid c hsome
        exact hlast.release hex (AList.mem_lookup_iff.mpr (List.mem_of_find?_eq_some hsome))
          (by simpa using List.find?_some hsome) _
  · rw [if_pos (by simp [hm])]
    exact h.finishOther found hm a result

theorem finishRequest_counted (hc : Counted s awaited registered) (hr : Ready env s)
    (room : s.wire.room 2 = true) {id : Nat} {a : RequestState}
    (found : s.requests.lookup id = some a) (same : ∀ k, k ≠ id → awaited' k = awaited k)
    {result : Answer} (encodes : env.encodesAnswer id a.method result = true) :
    Counted (s.finishRequest env id a result) awaited' registered ∧
      Ready env (s.finishRequest env id a result) := by
  have hone : Counted (s.finishOne env id a result) awaited' registered :=
    hc.finishOne found same room encodes
  have hready : Ready env (s.finishOne env id a result) :=
    hr.erase (finishOne_frame env s id a result).1
  unfold finishRequest
  extract_lets s₁
  split
  · exact ⟨hone, hready⟩
  · split
    · exact ⟨hone, hready⟩
    · rename_i cid c hsome
      have hcmem : s₁.requests.lookup cid = some c :=
        AList.mem_lookup_iff.mpr (List.mem_of_find?_eq_some hsome)
      obtain ⟨v, hv⟩ :=
        Option.isSome_iff_exists.mp (heldFor_iff.mp (by simpa using List.find?_some hsome)).2.1
      refine ⟨hone.finishOne hcmem (fun _ _ => rfl) (finishOne_taken room encodes).2 ?_,
        hready.erase (finishOne_frame env s₁ cid c _).1⟩
      rw [hv, Option.getD_some]
      exact hready cid c v hcmem hv

/-! ## Replies -/

theorem consumeReply_kept (hc : Counted s awaited registered) (h : Held s) (hr : Ready env s)
    {id leg : Nat} {answer : Answer} (same : ∀ k, k ≠ id → awaited' k = awaited k)
    (hone : awaited' id + 1 = awaited id)
    (hsolo : ∀ a v, answer = .value v → s.requests.lookup id = some a → a.method = .close →
      s.requests.values.any (heldFor a) = false) (room : s.wire.room 2 = true)
    (encodes : ∀ a, s.requests.lookup id = some a → a.encodesReply env id leg answer = true) :
    Counted (s.consumeReply env id leg answer) awaited' registered ∧
      Held (s.consumeReply env id leg answer) ∧ Ready env (s.consumeReply env id leg answer) := by
  unfold consumeReply
  extract_lets s₁
  have hc₁ : Counted s₁ awaited registered := hc.congr rfl rfl rfl
  have h₁ : Held s₁ := h.congr rfl
  have hr₁ : Ready env s₁ := hr
  split
  · rename_i hnone
    refine ⟨⟨fun k a hk => ?_, hc₁.exclusive, hc₁.listed, hc₁.answered, hc₁.unanswered, hc₁.past⟩,
      h₁, hr₁⟩
    rw [same k]
    · exact hc₁.waits k a hk
    · rintro rfl
      rw [hnone] at hk
      cases hk
  · rename_i a found
    have hwaits := hc₁.waits id a found
    have hex := hc₁.exclusive id a found
    have henc := encodes a found
    unfold RequestState.encodesReply at henc
    have notRun : a.method ≠ .run → ∀ c, s₁.requests.lookup id = some c →
        c.method ≠ .run := fun hm c hc => by
      rw [found] at hc
      cases hc
      exact hm
    split
    · rename_i hsend
      rw [Waits, if_pos hsend] at hwaits
      rw [if_pos hsend] at henc
      extract_lets b
      have hb : b.Exclusive := hex
      have hp : b.pending = a.pending - 1 := rfl
      split
      · rename_i hmore
        refine ⟨hc₁.update found same ?_ hb, ?_, hr₁.insert rfl fun v hv => ?_⟩
        · rw [Waits, if_pos hsend]
          rw [hp] at hmore ⊢
          exact ⟨by omega, by omega, hwaits.2.2⟩
        · exact h₁.insert (notRun (by simp [hsend.1])) fun hheld =>
            absurd hheld (by simp [b, hwaits.2.2])
        · exact absurd (hwaits.2.2.symm.trans hv) (by simp)
      · rename_i hlast
        have last : a.pending = 1 := by omega
        have hresult :
            env.encodesAnswer id b.method (.value (.sent b.messageID b.deliveries)) = true := by
          simp only [last, ne_eq, not_true_eq_false, decide_false, Bool.false_or] at henc
          simpa only [b, hsend.1] using henc
        exact ⟨hc₁.finishOne found same room hresult, h₁.finishOther found (by simp [hsend.1]) b _,
          hr₁.erase (finishOne_frame env s₁ id b _).1⟩
    · rename_i hcall
      rw [Waits, if_neg hcall] at hwaits
      rw [if_neg hcall] at henc
      have hfinish := finishRequest_counted hc₁ hr₁ room found same henc
      have hheld : a.held = none := by
        cases hh : a.held with
        | none => rfl
        | some x =>
          rw [hh] at hwaits
          simp at hwaits
          omega
      split
      · rename_i v hclose
        split
        · rename_i hrun
          refine ⟨hc₁.update found same ?_ hex, ?_, hr₁.insert rfl ?_⟩
          · rw [Waits, if_neg (by simpa using hcall)]
            simp [hheld] at hwaits ⊢
            omega
          · refine h₁.insert (notRun (by simp [hclose])) fun _ =>
              ⟨hclose, runPending_iff.mp hrun, fun k c hk hheld haim => ?_⟩
            have hnone := hsolo a v rfl found hclose
            rw [List.any_eq_false] at hnone
            refine absurd (heldFor_iff.mpr ⟨(h₁.run k c hk hheld).1, hheld, haim.symm⟩) ?_
            exact hnone c (AList.mem_values.mpr ⟨k, hk⟩)
          · rintro _ ⟨⟩
            exact henc
        · exact ⟨hfinish.1, finishRequest_held hc₁ h₁ found _, hfinish.2⟩
      · exact ⟨hfinish.1, finishRequest_held hc₁ h₁ found _, hfinish.2⟩

theorem detachRequests_counted (hc : Counted s awaited registered) {code : Code}
    (room : s.wire.room s.requests.entries.length = true)
    (encodes : ∀ e ∈ s.requests.entries, env.encodesAnswer e.1 e.2.method (.code code) = true) :
    Counted (s.detachRequests env code) awaited registered ∧
    (s.detachRequests env code).requests = ∅ := by
  have hfold : ∀ (l : List (Sigma fun _ : Nat => RequestState)) (t : Session),
      t.wire.room l.length = true →
      (∀ e ∈ l, env.encodesAnswer e.1 e.2.method (.code code) = true) →
      let u := l.foldl (fun s e => s.respond env e.1 e.2.method (.code code)) t
      u.requests = t.requests ∧ u.lastIn = t.lastIn ∧ u.history = t.history ++ l.map fun e =>
        .responded e.1 := by
    intro l
    induction l with
    | nil => exact fun t _ _ => ⟨rfl, rfl, (List.append_nil _).symm⟩
    | cons e l ih =>
      intro t room encodes
      obtain ⟨hreq, hlast⟩ := respond_frame env t e.1 e.2.method (.code code)
      obtain ⟨hhist, room⟩ := respond_taken (n := l.length) room (encodes e (by simp))
      obtain ⟨hreq', hlast', hhist'⟩ := ih (t.respond env e.1 e.2.method (.code code)) room
        fun e he => encodes e (List.mem_cons_of_mem _ he)
      exact ⟨hreq'.trans hreq, hlast'.trans hlast, by rw [List.foldl_cons, hhist', hhist]; simp⟩
  obtain ⟨hreq, hlast, hhist⟩ := hfold s.requests.entries (s.setRequests ∅) room encodes
  have hcount : ∀ id, (s.requests.entries.map fun e => Act.responded e.1).count (.responded id) =
      if (s.requests.lookup id).isSome then 1 else 0 := by
    intro id
    have hinj : Function.Injective Act.responded := fun a b h => by cases h; rfl
    have hmap : (s.requests.entries.map fun e => Act.responded e.1) =
        s.requests.keys.map Act.responded := by
      simp [AList.keys, List.keys]
    rw [hmap, List.count_map_of_injective _ _ hinj, s.requests.keys_nodup.count]
    simp [AList.lookup_isSome, AList.mem_keys]
  refine ⟨⟨?_, ?_, ?_, fun id hid => ?_, fun id hid => ?_, ?_⟩, hreq⟩
  · rw [detachRequests, hreq]
    simp [setRequests]
  · rw [detachRequests, hreq]
    simp [setRequests]
  · rw [detachRequests, hreq]
    simp [setRequests]
  · rw [detachRequests, hreq, hhist, List.count_append, hcount]
    simpa [setRequests] using hc.answered id hid
  · rw [detachRequests] at hid ⊢
    rw [hlast] at hid
    rw [hhist, List.count_append, hcount]
    have hnone : (s.requests.lookup id).isSome = false := by
      cases hl : s.requests.lookup id with
      | none => rfl
      | some a =>
        have := hc.past id (hc.listed id a hl)
        have : s.lastIn < id := hid
        omega
    simp [hnone, setRequests, hc.unanswered id hid]
  · rw [detachRequests, hlast]
    exact hc.past

theorem Counted.register (hc : Counted s awaited registered) {id : Nat} (hid : s.lastIn < id)
    (a : RequestState) (n : Nat) (same : ∀ k, k ≠ id → awaited' k = awaited k)
    (hwaits : Waits a (awaited' id)) (hex : a.Exclusive) :
    Counted { s with lastIn := id, requests := s.requests.insert id a, owned := n } awaited'
    (id :: registered) := by
  have hnew : id ∉ registered := fun hmem => by
    have := hc.past id hmem
    omega
  refine ⟨fun k c hk => ?_, fun k c hk => ?_, fun k c hk => ?_, fun k hk => ?_, fun k hk => ?_,
    fun k hk => ?_⟩
  · rcases AList.lookup_insert_iff.mp hk with ⟨rfl, rfl⟩ | ⟨hne, hk⟩
    · exact hwaits
    · rw [same k hne]
      exact hc.waits k c hk
  · rcases AList.lookup_insert_iff.mp hk with ⟨rfl, rfl⟩ | ⟨-, hk⟩
    · exact hex
    · exact hc.exclusive k c hk
  · rcases AList.lookup_insert_iff.mp hk with ⟨rfl, rfl⟩ | ⟨-, hk⟩
    · exact List.mem_cons_self
    · exact List.mem_cons_of_mem _ (hc.listed k c hk)
  · rcases List.mem_cons.mp hk with rfl | hk
    · simp [hc.unanswered k hid]
    · have hne : k ≠ id := fun h => hnew (h ▸ hk)
      simpa [AList.lookup_insert_ne hne] using hc.answered k hk
  · exact hc.unanswered k (lt_trans hid hk)
  · rcases List.mem_cons.mp hk with rfl | hk
    · exact le_rfl
    · exact le_trans (hc.past k hk) hid.le

theorem Counted.respondNew (hc : Counted s awaited registered) {id : Nat} (hid : s.lastIn < id)
    {method : Method} {answer : Answer} (room : s.wire.room 1 = true)
    (encodes : env.encodesAnswer id method answer = true) :
    Counted ({ s with lastIn := id }.respond env id method answer) awaited (id :: registered) := by
  obtain ⟨hreq, hlast⟩ := respond_frame env { s with lastIn := id } id method answer
  have hhist := (respond_taken (s := { s with lastIn := id }) room encodes).1
  have hnew : s.requests.lookup id = none := by
    cases hl : s.requests.lookup id with
    | none => rfl
    | some a =>
      have := hc.past id (hc.listed id a hl)
      omega
  have hother : ∀ k, k ≠ id → (Act.responded id == Act.responded k) = false := fun k hne => by
    rw [beq_eq_false_iff_ne]
    rintro ⟨⟩
    exact hne rfl
  refine ⟨?_, ?_, fun k c hk => ?_, fun k hk => ?_, fun k hk => ?_, fun k hk => ?_⟩
  · rw [hreq]; exact hc.waits
  · rw [hreq]; exact hc.exclusive
  · rw [hreq] at hk
    exact List.mem_cons_of_mem _ (hc.listed k c hk)
  · rw [hreq, hhist, List.count_append]
    by_cases hne : k = id
    · subst hne
      simp [hnew, hc.unanswered k hid]
    · have hmem : k ∈ registered := (List.mem_cons.mp hk).resolve_left hne
      simpa [List.count_cons, hother k hne] using hc.answered k hmem
  · rw [hlast] at hk
    have hk : id < k := hk
    rw [hhist, List.count_append]
    simp [List.count_cons, hother k (by omega), hc.unanswered k (lt_trans hid hk)]
  · rw [hlast]
    rcases List.mem_cons.mp hk with rfl | hk
    · exact le_rfl
    · exact le_trans (hc.past k hk) hid.le

end Session

/-! ## Runs -/

theorem Registration.waits (r : Registration) (h : r.legs ≠ []) :
    Session.Waits r.state r.legs.length := by
  unfold Session.Waits
  cases r with
  | call method target =>
    rw [if_neg]
    · cases target <;> simp [state, legs]
    · cases target <;> simp +contextual [state]
  | send messageID deliveries legs =>
    rw [if_pos ⟨rfl, rfl⟩]
    exact ⟨rfl, List.length_pos_iff.mpr h, rfl⟩

namespace Desk

def awaited (t : Desk) (id : Nat) : Nat := t.due.countP (·.1 == id)

structure Tidy (env : Env) (t : Desk) : Prop where
  counted : t.session.Counted t.awaited t.registered
  held : t.session.Held
  ready : t.session.Ready env
  known : ∀ e ∈ t.due, e.1 ∈ t.registered

variable {env : Env} {t : Desk}

theorem Tidy.registered (h : t.Tidy env) {id : Nat} (hid : t.session.lastIn < id) {r : Registration}
    (served : t.served env (.register id r) = true) : (t.step env (.register id r)).Tidy env := by
  simp only [step]
  rw [if_neg (by omega)]
  have hzero : t.awaited id = 0 := by
    refine List.countP_eq_zero.mpr fun e he => ?_
    have := h.counted.past _ (h.known e he)
    simp
    omega
  split
  · rename_i none
    simp only [Desk.served, none, ne_eq, not_true_eq_false, decide_false, Bool.false_or,
      Bool.and_eq_true] at served
    refine ⟨h.counted.respondNew hid served.1 served.2,
      h.held.congr (Session.respond_frame env _ _ _ _).1, ?_,
      fun e he => List.mem_cons_of_mem _ (h.known e he)⟩
    intro k a v hk
    rw [(Session.respond_frame env _ _ _ _).1] at hk
    exact h.ready k a v hk
  · rename_i hlegs
    have hmap : ∀ k, (r.legs.map (id, ·) ++ t.due).countP (·.1 == k) =
        (if k = id then r.legs.length else 0) + t.awaited k := by
      intro k
      rw [List.countP_append, List.countP_map, awaited]
      congr 1
      split
      · rename_i hk
        exact List.countP_eq_length.mpr fun e _ => by simp [hk]
      · rename_i hk
        exact List.countP_eq_zero.mpr fun e _ => by simpa using fun h => hk h.symm
    have hfree : r.state.held = none := by
      rcases r with ⟨method, _ | _ | _⟩ | _ <;> rfl
    refine ⟨?_, ?_, h.ready.insert rfl fun v hv => absurd (hfree.symm.trans hv) (by simp), ?_⟩
    · refine h.counted.register hid r.state _ (fun k hk => ?_) ?_ r.exclusive
      · exact (hmap k).trans (by simp [hk])
      · have : (r.legs.map (id, ·) ++ t.due).countP (·.1 == id) = r.legs.length := by
          rw [hmap, hzero]; simp
        rw [awaited, this]
        exact r.waits hlegs
    · have hnew : t.session.requests.lookup id = none := by
        cases hl : t.session.requests.lookup id with
        | none => rfl
        | some a =>
          have := h.counted.past id (h.counted.listed id a hl)
          omega
      have hins :
          Session.Held { t.session with requests := t.session.requests.insert id r.state } := by
        refine h.held.insert (fun a ha => ?_) fun hheld => ?_
        · rw [hnew] at ha
          cases ha
        · rw [hfree] at hheld
          cases hheld
      exact hins.congr rfl
    · intro e he
      rcases List.mem_append.mp he with he | he
      · obtain ⟨leg, -, rfl⟩ := List.mem_map.mp he
        exact List.mem_cons_self
      · exact List.mem_cons_of_mem _ (h.known e he)

theorem Tidy.replied (h : t.Tidy env) {id leg : Nat} {answer : Answer} (hdue : (id, leg) ∈ t.due)
    (hsolo : t.crowds (.reply id leg answer) = false)
    (served : t.served env (.reply id leg answer) = true) :
    (t.step env (.reply id leg answer)).Tidy env := by
  simp only [step]
  rw [if_pos hdue]
  have hperm := (List.perm_cons_erase hdue).countP_eq
  have hcount : ∀ k, t.awaited k = (t.due.erase (id, leg)).countP (·.1 == k) +
      if id = k then 1 else 0 := fun k => by
    rw [awaited, hperm, List.countP_cons]
    simp
  have hless : ∀ a v, answer = .value v → t.session.requests.lookup id = some a →
      a.method = .close → t.session.requests.values.any (Session.heldFor a) = false := by
    rintro a v rfl found hm
    simp only [crowds] at hsolo
    rw [found] at hsolo
    simpa [hm] using hsolo
  have hsame : ∀ k, k ≠ id → (t.due.erase (id, leg)).countP (·.1 == k) = t.awaited k :=
    fun k hk => by
    rw [hcount k, if_neg (Ne.symm hk), Nat.add_zero]
  have hone : (t.due.erase (id, leg)).countP (·.1 == id) + 1 = t.awaited id := by
    rw [hcount id, if_pos rfl]
  simp only [Desk.served, Bool.and_eq_true] at served
  obtain ⟨hc, hh, hr⟩ :=
    Session.consumeReply_kept h.counted h.held h.ready hsame hone hless served.1 fun a found => by
    have encodes := served.2
    rw [found] at encodes
    exact encodes
  exact ⟨hc, hh, hr, fun e he => h.known e (List.mem_of_mem_erase he)⟩

theorem Tidy.step (h : t.Tidy env) {op : Op} (hsolo : t.crowds op = false)
    (served : t.served env op = true) : (t.step env op).Tidy env := by
  cases op with
  | register id r =>
    by_cases hid : id ≤ t.session.lastIn
    · simp only [Desk.step, if_pos hid]
      exact h
    · exact h.registered (not_le.mp hid) served
  | reply id leg answer =>
    by_cases hdue : (id, leg) ∈ t.due
    · exact h.replied hdue hsolo served
    · simp only [Desk.step, if_neg hdue]
      exact h
  | detach code =>
    simp only [Desk.served, Bool.and_eq_true, List.all_eq_true] at served
    obtain ⟨hc, hempty⟩ := Session.detachRequests_counted h.counted served.1 served.2
    refine ⟨hc, ⟨fun id a hid => ?_, fun id id' a b hid => ?_⟩, fun id a v hid => ?_, h.known⟩
    all_goals
      simp only [Desk.step, hempty] at hid
      cases hid
  | write => exact ⟨h.counted.congr rfl rfl rfl, h.held.congr rfl, h.ready, h.known⟩

theorem Tidy.run (h : t.Tidy env) (ops : List Op) (hcalm : t.calm env ops = true) :
    (t.run env ops).Tidy env := by
  induction ops generalizing t with
  | nil => exact h
  | cons op ops ih =>
    simp only [calm, Bool.and_eq_true, Bool.not_eq_true'] at hcalm
    exact ih (h.step hcalm.1.1 hcalm.1.2) hcalm.2

/-- A held close would wait for a run, and that run for its reply. -/
theorem Tidy.empty (h : t.Tidy env) (hdue : t.due = []) : t.session.requests = ∅ := by
  have hzero : ∀ id, t.awaited id = 0 := fun id => by rw [awaited, hdue]; rfl
  have hheld : ∀ id a, t.session.requests.lookup id = some a → a.held.isSome = true := by
    intro id a hid
    have hw := h.counted.waits id a hid
    rw [hzero, Session.Waits] at hw
    split at hw
    · omega
    · by_contra hno
      simp [hno] at hw
  refine AList.ext_iff.mpr ?_
  cases he : t.session.requests.entries with
  | nil => rfl
  | cons e rest =>
    obtain ⟨id, a⟩ := e
    have hid : t.session.requests.lookup id = some a :=
      AList.mem_lookup_iff.mpr (by rw [he]; exact List.mem_cons_self)
    obtain ⟨-, hrun⟩ := h.held.run id a hid (hheld id a hid)
    obtain ⟨j, r, hr, hrm, -⟩ := Session.runPending_iff.mp hrun
    have := (h.held.run j r hr (hheld j r hr)).1
    rw [hrm] at this
    cases this

/-- When no close succeeds while another one on its target is held, and every answer is put on the
wire: each registered request is answered once or in the table, the table is empty when every reply
has arrived, and a held answer is a close's, whose target has a run. -/
theorem requests_answered (env : Env) (s : Session) (ops : List Op) (hempty : s.requests = ∅)
    (hnew : ∀ id, s.lastIn < id → s.history.count (.responded id) = 0)
    (hcalm : calm env { session := s } ops = true) :
    let t := run env { session := s } ops
    (∀ id ∈ t.registered,
      t.responses id + (if (t.session.requests.lookup id).isSome then 1 else 0) = 1) ∧
    (t.due = [] → t.session.requests = ∅) ∧
    (∀ id a, t.session.requests.lookup id = some a → a.held.isSome = true →
      a.method = .close ∧ t.session.runPending a.target a.targetID = true) := by
  intro t
  have hstart : Tidy env { session := s } := by
    refine ⟨⟨?_, ?_, ?_, by simp, hnew, by simp⟩, ⟨?_, ?_⟩, ?_, by simp⟩ <;>
      simp [hempty, Session.Ready]
  have h : t.Tidy env := hstart.run ops hcalm
  exact ⟨h.counted.answered, h.empty, h.held.run⟩

def plainEnv : Env where
  encodes := fun _ _ => true
  encodesAnswer := fun _ _ _ => true
  opened := fun _ => .failed (.code .internal) false

/-- A run and a close on one lane; the close is answered first. -/
def heldClose : List Op :=
  [.register 1 (.call .run (.entry 7)), .register 2 (.call .close (.entry 7)),
    .reply 2 0 (.value .empty), .reply 1 0 (.value .empty), .write]

theorem requests_answered_heldClose :
    calm plainEnv { session := {} } heldClose = true ∧
      (run plainEnv { session := {} } heldClose).session.requests = ∅ :=
  ⟨by decide +kernel,
    (requests_answered plainEnv {} heldClose rfl (by simp) (by decide +kernel)).2.1
    (by decide +kernel)⟩

/-- A second close succeeds while the first is held: one of them stays in the table with nothing to
wait for. -/
theorem secondClose_left :
    let ops : List Op :=
      [.register 1 (.call .run (.entry 7)), .register 2 (.call .close (.entry 7)),
      .reply 2 0 (.value .empty), .register 3 (.call .close (.entry 7)), .reply 3 0 (.value .empty),
      .reply 1 0 (.value .empty)]
    let t := run plainEnv { session := {} } ops
    t.due = [] ∧ t.session.requests.keys.length = 1 ∧ t.session.runPending (some 7) "" = false ∧
      t.responses 1 + t.responses 2 + t.responses 3 = 2 := by
  decide +kernel

end Desk

end Sessionbus
