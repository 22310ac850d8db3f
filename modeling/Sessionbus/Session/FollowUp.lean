import Mathlib.Data.Nat.Digits.Defs
import Sessionbus.Session.Blocking

/-!
# The read of a blocking run

The answer of a blocking run's execute is followed by `turn.wait`, and a close that was
requested meanwhile is written after it. The frame of the read always fits where the frame of
the execute did: it leaves the input out.
-/

namespace Sessionbus

open Json

/-! ## The frames of an execute and of its read -/

def ExecuteRequest.json (p : ExecuteRequest) : List Char :=
  object [member "session_id" (quote p.sessionID), member "run_id" (quote p.runID),
    member "input" (quote p.input)]

def WaitRequest.json (p : WaitRequest) : List Char :=
  object ([member "session_id" (quote p.sessionID)] ++
    (if p.runID = "" then [] else [member "run_id" (quote p.runID)]) ++
    (p.timeoutMS.map fun n => member "timeout_ms" (Text.formatUint n).toList).toList)

/-- The schema of `ExecuteRequest`. -/
def ExecuteRequest.valid (p : ExecuteRequest) : Bool :=
  p.sessionID ≠ "" && p.runID ≠ "" && p.input ≠ "" && p.input.length ≤ 262144

/-- The schema of `WaitRequest`. A run ID that is written is not empty. -/
def WaitRequest.valid (p : WaitRequest) : Bool :=
  p.sessionID ≠ "" && p.timeoutMS.all (· ≤ 9223372036854)

/-- `encodeFrame` takes the frame of the request. -/
def fits (id : Nat) (method : String) (params : List Char) : Bool :=
  size (requestText id method params) + 1 ≤ maxFrameBytes

/-- A session whose executes and reads are encoded by `RequestBytes`. -/
def Env.coded (env : Env) : Env :=
  { env with
    encodes := fun id c =>
      match c with
      | .execute p => p.valid && fits id "turn.execute" p.json
      | .wait p => p.valid && fits id "turn.wait" p.json
      | c => env.encodes id c }

theorem size_escapeChar_pos (c : Char) : 1 ≤ size (escapeChar c) := by
  have pos : ∀ (a : Char) l, 1 ≤ size (a :: l) := fun a l =>
      le_trans a.utf8Size_pos (Nat.le_add_right _ _)
  unfold escapeChar
  repeat' split
  all_goals exact pos _ _

theorem size_escape_pos {s : String} (h : s ≠ "") : 1 ≤ size (escape s) := by
  obtain ⟨c, l, hl⟩ := List.exists_cons_of_ne_nil fun none => h (String.toList_injective none)
  unfold escape
  rw [hl, List.flatMap_cons, size_append]
  exact le_trans (size_escapeChar_pos c) (Nat.le_add_right _ _)

/-- The read leaves out the input's member, its comma and one character at least. -/
theorem size_wait_json {q : ExecuteRequest} (run : q.runID ≠ "") (input : q.input ≠ "") :
    size { sessionID := q.sessionID, runID := q.runID : WaitRequest }.json + 12 ≤ size q.json := by
  have text := size_escape_pos input
  have name : size (escape "input") = 5 := by decide
  have mark : Char.utf8Size '"' = 1 := by decide
  have colon : Char.utf8Size ':' = 1 := by decide
  have comma : Char.utf8Size ',' = 1 := by decide
  have last : size (member "input" (quote q.input)) = size (escape q.input) + 10 := by
    simp only [member, size_append, size_cons, name, colon, quote, List.cons_append, size_nil, mark]
    omega
  simp only [WaitRequest.json, ExecuteRequest.json, if_neg run, Option.map_none, Option.toList_none,
    List.append_nil, List.singleton_append, object, enclose, List.intercalate,
    List.intersperse_cons_cons, List.intersperse_singleton, List.flatten_cons, List.flatten_nil,
    size_append, size_cons, size_nil, last, comma]
  omega

theorem formatUint_size (n : Nat) :
    size (Text.formatUint n).toList = (Nat.toDigits 10 n).length := by
  rw [size_eq_length fun c hc => (formatUint_plain hc).2, Text.formatUint, Nat.toList_repr]

theorem size_wait_frame (id : Nat) {id' : Nat} {params params' : List Char}
    (bound : id' ≤ 9007199254740991) (shorter : size params' + 12 ≤ size params) :
    size (requestText id' "turn.wait" params') ≤ size (requestText id "turn.execute" params) := by
  have short : (Nat.toDigits 10 id').length ≤ 16 :=
    Nat.toDigits_length 10 id' 16 (by omega) (by omega)
  have some : 1 ≤ (Nat.toDigits 10 id).length := List.length_pos_iff.mpr Nat.toDigits_ne_nil
  have execute : size (quote "turn.execute") = 14 := by decide
  have wait : size (quote "turn.wait") = 11 := by decide
  unfold requestText
  simp only [object, enclose, List.intercalate, List.intersperse_cons_cons,
    List.intersperse_singleton, List.flatten_cons, List.flatten_nil, member, size_append, size_cons,
    size_nil, formatUint_size, execute, wait]
  omega

theorem Env.coded_wait (env : Env) {id id' : Nat} {q : ExecuteRequest}
    (h : env.coded.encodes id (.execute q) = true) (bound : id' ≤ 9007199254740991) :
    env.coded.encodes id' (.wait { sessionID := q.sessionID, runID := q.runID }) = true := by
  have h : (q.valid && fits id "turn.execute" q.json) = true := h
  simp only [ExecuteRequest.valid, fits, Bool.and_eq_true, decide_eq_true_eq] at h
  obtain ⟨⟨⟨⟨session, run⟩, input⟩, -⟩, size⟩ := h
  have smaller := size_wait_frame id bound (size_wait_json run input)
  show (WaitRequest.valid _ && fits id' "turn.wait" _) = true
  simp only [WaitRequest.valid, fits, Bool.and_eq_true, decide_eq_true_eq]
  exact ⟨⟨session, rfl⟩, by omega⟩

/-! ## The answer of a blocking run's execute -/

/-- The call is the execute of a blocking run, which a close waits for. -/
def Pending.blocking (p : Pending) : Prop := p.command.method = .execute ∧ p.request.collect = true

/-- The request as which the run is read. -/
def Pending.followUp (p : Pending) (ref : RunRef) : RoutedRequest :=
  { p.request with call := .wait { sessionID := ref.sessionID, runID := ref.runID }, runID := "" }

namespace Session

namespace Parked

variable {env : Env} {s : Session} {p : Pending}

theorem unasked_of_blocking (h : Parked env s) {id : Nat} (found : s.pending.lookup id = some p)
    (hp : p.blocking) : closesOf s.history = [] := by
  by_contra some
  have direct := h.blocked some id p found hp.1
  simp [hp.2] at direct

theorem open_of_pending (h : Parked env s) {id : Nat} (found : s.pending.lookup id = some p) :
    s.closed = false := by
  cases hc : s.closed with
  | false => rfl
  | true => simp [(h.closedEmpty hc).1] at found

theorem followed (h : Parked env s) {id : ℕ+} {ref : RunRef}
    (found : s.pending.lookup (id : Nat) = some p) (hp : p.blocking) (live : s.stopping = false)
    (confirms : s.Confirms p ref) : s.handleEvent env (.frame (.response id (.result (.ref ref)))) =
      ((s.take id).write env (p.followUp ref)
        (.wait { sessionID := s.item.row.sessionID, runID := ref.runID })).writeDeferredClose
        env := by
  have none := h.unasked_of_blocking found hp
  have hopen := h.open_of_pending found
  have attached := h.attached hopen
  have identified : s.identity.isSome = true := Option.isSome_iff_ne_none.mpr h.identity
  have unclaimed := h.unclaimed none hopen
  obtain ⟨q, hq⟩ : ∃ q, p.command = .execute q := by
    cases hc : p.command <;> simp [Pending.blocking, hc, Command.method] at hp
    exact ⟨_, rfl⟩
  have room : (s.take id).pending.entries.length + (s.take id).deferredDeliveries.length <
      maxPendingCalls := by
    have taken := (h.taken found).room (by simp [hp.1])
    have all : openCalls (s.take id).pending = (s.take id).pending.entries.length :=
      openCalls_eq fun k c hk => h.unasked none k c (AList.lookup_erase_iff.mp hk).2
    omega
  have issued : (s.take id).issue env (p.followUp ref) = (s.take id).write env (p.followUp ref)
      (.wait { sessionID := s.item.row.sessionID, runID := ref.runID }) := by
    unfold Session.issue
    rw [if_neg (by simp [Pending.followUp, hp.2]), if_neg (by omega)]
    simp [admits, Session.attached, attached, unclaimed, Pending.followUp, issuedMethod,
      Call.method]
  have matched : (s.take id).receiveMatched env p (.result (.ref ref)) = (s.take id).issue env
      (p.followUp ref) := by
    unfold Session.receiveMatched
    rw [if_neg, if_neg (by simp [hp.1]), hq]
    · show (s.take id).receiveValue env p (.ref ref) = _
      unfold Session.receiveValue
      rw [hq]
      show (if _ then _ else if _ then _ else _) = _
      rw [if_neg (by simp [confirms.1, confirms.2]), if_pos hp.2]
      rfl
    · simp [(h.taken found).addressed, Session.current, Session.attached, identified,
        h.listed, attached]
  have response : s.receiveResponse env id (.result (.ref ref)) =
      ((s.take id).receiveMatched env p (.result (.ref ref))).writeDeferredClose env := by
    unfold Session.receiveResponse
    rw [found]
    exact if_pos hp
  show (if s.stopping = true then s else s.handleFrame env (.response id (.result (.ref ref)))) = _
  rw [if_neg (by simp [live])]
  unfold Session.handleFrame
  rw [if_neg (by simpa using h.identity)]
  show (if _ then _ else s.receiveResponse env id (.result (.ref ref))) = _
  rw [if_neg (by simp [h.opened]), response, matched, issued]

end Parked

/-! ## What the answer puts in the trace -/

theorem writeDeferredClose_acts (env : Env) (s : Session) :
    ∃ l, (s.writeDeferredClose env).history = s.history ++ l ∧ ∀ r a, .answered r a ∉ l := by
  have hw := writeDeferredClose_closed env s
  generalize s.writeDeferredClose env = t at hw ⊢
  cases hw with
  | waits => exact ⟨[], by simp, by simp⟩
  | sent => exact ⟨[_], rfl, by simp⟩
  | unsent => exact ⟨[_], rfl, by simp⟩

theorem writeDeferredClose_fdClosed (env : Env) {s : Session} (h : s.wire.fdClosed = true) :
    (s.writeDeferredClose env).wire.fdClosed = true := by
  have hw := writeDeferredClose_closed env s
  generalize s.writeDeferredClose env = t at hw ⊢
  cases hw with
  | waits => exact h
  | sent => exact h
  | unsent => rfl

theorem write_acts (env : Env) (s : Session) {r : RoutedRequest} (c : Command) (hr : r.runID = "") :
    ∃ l, (s.write env r c).history = s.history ++ l ∧ ∀ q, .answered q (.code .busy) ∉ l := by
  have hw := write_wrote env s r c
  generalize s.write env r c = t at hw ⊢
  cases hw with
  | sent => exact ⟨[_], rfl, by simp⟩
  | @unsent wire encoded =>
    refine ⟨[.unsent (s.nextOut + 1) c encoded, answerAct r (.code .notConnected)],
      by simp [hr], ?_⟩
    intro q hq
    simp only [List.mem_cons, reduceCtorEq, List.not_mem_nil, or_false, false_or, answerAct] at hq
    split at hq <;> simp at hq

theorem write_unless (env : Env) (s : Session) {r : RoutedRequest} {c : Command} (hr : r.runID = "")
    (encodes : env.encodes (s.nextOut + 1) c = true) :
    s.wire.finishing = true ∨ s.wire.done = true ∨
      outboxSize ≤ s.wire.outbox.length ∧ (s.write env r c).wire.fdClosed = true ∨
      (s.write env r c).history = s.history ++ [.wrote (s.nextOut + 1) c] := by
  by_cases finishing : s.wire.finishing = true
  · exact .inl finishing
  by_cases done : s.wire.done = true
  · exact .inr (.inl done)
  simp only [Bool.not_eq_true] at finishing done
  by_cases room : s.wire.outbox.length < outboxSize
  · rw [write_sent encodes finishing done room]
    exact .inr (.inr (.inr rfl))
  · refine .inr (.inr (.inl ⟨Nat.not_lt.mp room, ?_⟩))
    simp [write, sendCommand, encodes, Wire.send, finishing, done, room, hr, Wire.close]

/-! ## A close requested again -/

/-- The events that ask for a close, and the answers after which a parked one is attempted. -/
def asksAgain (s : Session) : Event → Prop
  | .ownerEnd _ _ => True
  | .autoCloseFired => True
  | .routed _ => True
  | .frame (.response id _) =>
    ∃ p, s.pending.lookup (id : Nat) = some p ∧ p.command.method = .execute
  | _ => False

theorem policyClose_parked (env : Env) {s : Session} (h : s.closeCall ≠ none) :
    s.policyClose env = s := by
  unfold policyClose
  rw [if_pos (by simp [Option.isSome_iff_ne_none, h])]

namespace Parked

variable {env : Env} {s : Session}

/-- While a close is parked, another request for one and another attempt to write it leave its timer
alone. -/
theorem asksAgain_timer (h : Parked env s) (parked : s.closeCall ≠ none) {e : Event}
    (again : s.asksAgain e) : (s.handleEvent env e).closeTimer = s.closeTimer := by
  cases e with
  | ownerEnd owner ended =>
    show (s.ownerEnded env owner ended).closeTimer = s.closeTimer
    unfold Session.ownerEnded
    rw [policyClose_parked env parked]
    split
    · rfl
    · split <;> rfl
  | autoCloseFired =>
    show Session.closeTimer
      (if s.autoClose = true then { s with autoClose := false }.policyClose env else s) = _
    rw [policyClose_parked env (s := { s with autoClose := false }) parked]
    split <;> rfl
  | routed q =>
    show (s.handleRouted env q.request).closeTimer = s.closeTimer
    unfold Session.handleRouted Session.issue
    rw [if_pos (c := (s.closeCall.isSome && !q.request.collect) = true)
      (by simp [Option.isSome_iff_ne_none, parked, Routed.request])]
    split <;> rfl
  | frame value =>
    cases value with
    | response id body =>
      obtain ⟨p, found, execute⟩ := again
      show Session.closeTimer
        (if s.stopping = true then s else s.handleFrame env (.response id body)) = _
      split
      · rfl
      · unfold Session.handleFrame
        rw [if_neg (by simpa using h.identity)]
        show Session.closeTimer (if _ then _ else s.receiveResponse env id body) = _
        rw [if_neg (by simp [h.opened])]
        have later := (h.take found).receiveMatched_later (h.taken found) (by simp [execute]) body
        unfold Session.receiveResponse
        rw [found]
        show Session.closeTimer (if _ then _ else _) = _
        split
        · exact (writeDeferredClose_closeTimer env _).trans later.timer
        · exact later.timer
    | invalid request id => exact absurd again (by simp [asksAgain])
    | request id value => exact absurd again (by simp [asksAgain])
  | _ => exact absurd again (by simp [asksAgain])

end Parked

/-! ## A blocking run and a close, over every run -/

/-- A lane whose launch was committed and that has written nothing since. -/
structure CommittedLane (s : Session) : Prop where
  launch : s.launch ≠ none
  identity : s.identity ≠ none
  committed : s.committed = true
  opened : s.openID = 0
  listed : s.listed = true
  lane : s.item.peer = false
  attached : s.item.attachment = some s.self
  unclaimed : s.item.claimed = false
  live : s.closed = false
  calls : s.pending = ∅
  queue : s.deferredDeliveries = []
  unrequested : s.closeCall = none
  unasked : closesOf s.history = [] ∧ closingsOf s.history = []

theorem CommittedLane.parked {env : Env} {s : Session} (h : CommittedLane s) : Parked env s := by
  have none : ∀ {P : Prop} id p, s.pending.lookup id = some p → P := by simp [h.calls]
  exact {
    launch := h.launch
    identity := h.identity
    committed := h.committed
    opened := h.opened
    listed := h.listed
    lane := h.lane
    attached := fun _ => h.attached
    detached := fun closed => absurd closed (by simp [h.live])
    closedEmpty := fun closed => absurd closed (by simp [h.live])
    halted := fun closed => absurd closed (by simp [h.live])
    room := by simp [h.calls, h.queue, openCalls]
    fresh := fun id p hp => none id p hp
    addressed := fun id p hp => none id p hp
    collects := fun id p hp => none id p hp
    executes := fun id p _ hp => none id p hp
    shaped := fun id p hp => none id p hp
    queue := by simp [h.queue]
    closer := by simp [h.unrequested]
    requested := by simp [h.unasked.2, h.unrequested]
    once := by simp [h.unasked.1]
    asked := fun some => absurd h.unasked.1 some
    unasked := fun _ id p hp => none id p hp
    unclaimed := fun _ _ => h.unclaimed
    blocked := fun _ id p hp => none id p hp }

/-- While the execute of a blocking run is unanswered, no close was written and the entry is not
claimed. Its success is followed by the read of the run, never answered `busy` and written before
any close, unless the connection has ended or the outbox is full. A close is written and accepted
once at most, and its timer is not set again. -/
theorem read_before_close (env : Env) (s : Session) (lane : CommittedLane s) (events : List Event) :
    let t := s.handleEvents env.coded events
    (∀ id p, t.pending.lookup id = some p → p.blocking →
      closesOf t.history = [] ∧ t.item.claimed = false) ∧
    (∀ (id : ℕ+) p ref, t.pending.lookup (id : Nat) = some p → p.blocking → t.stopping = false →
      t.Confirms p ref →
      let u := t.handleEvent env.coded (.frame (.response id (.result (.ref ref))))
      (∃ l, u.history = t.history ++ l ∧ ∀ r, .answered r (.code .busy) ∉ l) ∧
      (t.nextOut + 1 ≤ 9007199254740991 →
        t.wire.finishing = true ∨ t.wire.done = true ∨
          outboxSize ≤ t.wire.outbox.length ∧ u.wire.fdClosed = true ∨
          t.history ++ [.wrote (t.nextOut + 1)
            (.wait { sessionID := t.item.row.sessionID, runID := ref.runID })] <+: u.history)) ∧
    (closesOf t.history).length ≤ 1 ∧ (closingsOf t.history).length ≤ 1 ∧
    (t.closeCall = none → ∀ r p, (t.beginClose env.coded r p).closeTimer = true) ∧
    (t.closeCall ≠ none → ∀ e, t.asksAgain e → ∀ armed,
      ({ t with closeTimer := armed }.handleEvent env.coded e).closeTimer = armed) := by
  intro t
  have h : Parked env.coded t := lane.parked.handleEvents events
  refine ⟨?_, ?_, h.once, ?_, ?_, ?_⟩
  · intro id p found hp
    have none := h.unasked_of_blocking found hp
    exact ⟨none, h.unclaimed none (h.open_of_pending found)⟩
  · intro id p ref found hp live confirms u
    have hu : u = ((t.take id).write env.coded (p.followUp ref)
        (.wait { sessionID := t.item.row.sessionID, runID := ref.runID })).writeDeferredClose
        env.coded :=
      h.followed found hp live confirms
    obtain ⟨l, hl, quiet⟩ := write_acts env.coded (t.take id) (r := p.followUp ref)
      (.wait { sessionID := t.item.row.sessionID, runID := ref.runID }) rfl
    obtain ⟨l', hl', quiet'⟩ :=
      writeDeferredClose_acts env.coded
      ((t.take id).write env.coded (p.followUp ref)
        (.wait { sessionID := t.item.row.sessionID, runID := ref.runID }))
    rw [← hu] at hl'
    refine ⟨⟨l ++ l', by rw [hl', hl, take_history, List.append_assoc], fun r hr => ?_⟩,
      fun bound => ?_⟩
    · rcases List.mem_append.mp hr with hr | hr
      · exact quiet r hr
      · exact quiet' r _ hr
    · obtain ⟨q, hq⟩ : ∃ q, p.command = .execute q := by
        cases hc : p.command <;> simp [Pending.blocking, hc, Command.method] at hp
        exact ⟨_, rfl⟩
      obtain ⟨encodes, session, run⟩ := h.executes id p q found hq
      have encodes := env.coded_wait encodes bound
      rw [session, run, ← confirms.1] at encodes
      rcases write_unless env.coded (t.take id) (r := p.followUp ref) rfl encodes
        with hw | hw | hw | hw
      · exact .inl hw
      · exact .inr (.inl hw)
      · exact .inr (.inr (.inl ⟨hw.1, hu ▸ writeDeferredClose_fdClosed _ hw.2⟩))
      · refine .inr (.inr (.inr ⟨l', ?_⟩))
        rw [hl', hw]
        rfl
  · rw [h.requested]
    split <;> simp
  · exact fun _ r p => writeDeferredClose_closeTimer _ _
  · exact fun parked e again armed =>
      Parked.asksAgain_timer (s := { t with closeTimer := armed }) { h with } parked again

theorem newLane_committed : CommittedLane newLane where
  launch := by simp [newLane]
  identity := by simp [newLane]
  committed := rfl
  opened := rfl
  listed := rfl
  lane := rfl
  attached := rfl
  unclaimed := rfl
  live := rfl
  calls := rfl
  queue := rfl
  unrequested := rfl
  unasked := ⟨rfl, rfl⟩

def closeRequest : Routed :=
  { destination := some 2, call := .close { sessionID := "w" }, reply := 2 }

/-- A close is requested while the execute of a blocking run is unanswered. -/
theorem read_before_close_parked :
    let t := newLane.handleEvents openEnv.coded [.routed runCall, .routed closeRequest]
    t.closeCall ≠ none ∧ closesOf t.history = [] ∧ t.item.claimed = false ∧
    (closesOf t.history).length ≤ 1 := by
  have h := read_before_close openEnv newLane newLane_committed
    [.routed runCall, .routed closeRequest]
  have parked := h.1 1 ⟨{ runCall.request with collect := true, runID := "run-/1" },
    .execute { sessionID := "w", runID := "run-/1", input := "go" }⟩ (by decide +kernel) ⟨rfl, rfl⟩
  exact ⟨by decide +kernel, parked.1, parked.2, h.2.2.1⟩

end Session

end Sessionbus
