import Mathlib.Logic.Relation
import Sessionbus.Session.Quiet

/-!
# The moves of a session

Every event is a sequence of moves, and each move does one thing to one routed request, to
the current run or to the identity of the session. A move that may end the current run is
followed by the start of queued deliveries. What holds of a session at all times is proved
move by move.
-/

namespace Sessionbus.Session

/-- The response is for a request of the current identity. -/
def Live (s : Session) (p : Pending) : Prop := p.request.destination = s.identity ∧ s.current = true

/-- A delivery that the worker refused before submission, while no close is in progress. -/
structure Retains (s : Session) (p : Pending) (e : RPCError) : Prop where
  code : e.code = .notRunning
  method : p.command.method = .deliver
  ordinary : p.request.runID = ""
  lane : s.item.peer = false
  openCall : s.closeCall = none

/-- The worker took the execute that the request was written as. -/
def Confirms (s : Session) (p : Pending) (ref : RunRef) : Prop :=
  ref.runID = p.request.runID ∧ ref.sessionID = s.item.row.sessionID

/-- Where a request that `issue` gets comes from; `got` is the frame that is being handled. -/
inductive Source (got : Option InFrame) (s : Session) : RoutedRequest → Session → Prop
  | inbox {q : Routed} (posted : got = none) (dest : q.destination = s.identity)
      (live : s.stopping = false) (opened : s.launch.isSome = true → s.committed = true) :
      Source got s q.request s
  | refused {id : ℕ+} {p : Pending} {e} (response : got = some (.response id (.error e)))
      (found : s.pending.lookup (id : Nat) = some p) (live : s.Live p) (retains : s.Retains p e)
      (idle : s.runID = "") : Source got s p.request (s.take id)
  | collect {id : ℕ+} {p : Pending} {payload ref}
      (response : got = some (.response id (.result payload)))
      (found : s.pending.lookup (id : Nat) = some p) (live : s.Live p)
      (method : p.command.method = .execute) (blocking : p.request.collect = true)
      (confirms : s.Confirms p ref) :
      Source got s
      { p.request with
        call := .wait { sessionID := ref.sessionID, runID := ref.runID }, runID := "" }
        (s.take id)

/-- The answers that a response leads to and that change nothing else. -/
inductive Answers (s : Session) (p : Pending) : Body → Answer → Prop
  | stale {body} (h : ¬ s.Live p) : Answers s p body (.code .notConnected)
  | undecoded {payload} (live : s.Live p) (h : decodeResult p.command.method payload = none) :
      Answers s p (.result payload) (.code .notConnected)
  | mismatched {payload ref} (live : s.Live p)
      (h : decodeResult p.command.method payload = some (.ref ref))
      (method : p.command.method = .execute) (other : ¬ s.Confirms p ref) :
      Answers s p (.result payload) (.code .notConnected)
  | full {e} (live : s.Live p) (h : s.Retains p e) (running : s.runID ≠ "")
      (full : s.hasRunCapacity = false) : Answers s p (.error e) (.code .busy)
  | value {payload v} (live : s.Live p) (h : decodeResult p.command.method payload = some v)
      (noAck : p.command.method ≠ .ack)
      (started : p.command.method = .execute → p.request.collect = false ∧ ∃ ref, v = .ref ref ∧
        s.Confirms p ref) :
      Answers s p (.result payload) (.value v)

inductive Move (env : Env) (got : Option InFrame) (s : Session) : Session → Prop
  | quiet {t} (h : Quiet s t) : Move env got s t
  | numbered {id : ℕ+} {value} (request : got = some (.request id value)) (h : s.lastIn < id) :
      Move env got s { s with lastIn := id }
  | turnedAway {q : Routed} (posted : got = none)
      (h : s.stopping = true ∨ q.destination ≠ s.identity ∨ s.launch.isSome = true ∧
        s.committed = false) :
      Move env got s (s.answerRouted q.request (.code .notConnected))
  | issue {r s₀} (source : Source got s r s₀) : Move env got s (s₀.issue env r)
  | answer {id : ℕ+} {p : Pending} {body a} (response : got = some (.response id body))
      (found : s.pending.lookup (id : Nat) = some p) (plain : s.Live p → p.command.method ≠ .close)
      (h : Answers s p body a) :
      Move env got s ((s.take id).answerRouted p.request a)
  | acknowledge {id : ℕ+} {p : Pending} {payload ref}
      (response : got = some (.response id (.result payload)))
      (found : s.pending.lookup (id : Nat) = some p) (live : s.Live p) (h : p.command = .ack ref) :
      Move env got s (((s.take id).recordAcknowledgment ref).answerRouted p.request (.value .empty))
  | enqueue {id : ℕ+} {p : Pending} {e} (response : got = some (.response id (.error e)))
      (found : s.pending.lookup (id : Nat) = some p) (live : s.Live p) (h : s.Retains p e)
      (running : s.runID ≠ "") (room : s.hasRunCapacity = true) :
      Move env got s ((s.take id).enqueue p.request)
  | closeAnswered {id : ℕ+} {p : Pending} {body} (response : got = some (.response id body))
      (found : s.pending.lookup (id : Nat) = some p) (live : s.Live p)
      (h : p.command.method = .close) : Move env got s (s.take id)
  | writeClose : Move env got s (s.writeDeferredClose env)
  | policyClose (live : s.stopping = false) (first : s.closeCall = none) (h : s.committed = true) :
      Move env got s (s.policyClose env)
  | disconnect (posted : got = none) (h : s.closed = false) : Move env got s s.connectionClosed
  | settle {id install} (request : got = some (.request id (.peerHello install)))
      (h : s.item.peer = true) : Move env got s (s.settlePending .notConnected)
  | rename {name} (h : s.launch = none ∨ s.identity = none) :
      Move env got s { s with item := { s.item with row := { s.item.row with name } } }
  | install {entry row groups} (h : s.launch = none ∨ s.identity = none) :
      Move env got s (s.installIdentity entry row groups)
  | startLane {start} {id : ℕ+} (request : got = some (.request id (.workerHello (some start))))
      (h : s.identity = none) : Move env got s (s.startLane env start id)
  | opened {row} (h : s.openID ≠ 0) : Move env got s ({ s with openID := 0 }.commit row)
  | openFailed (h : s.openID ≠ 0) : Move env got s { s with openID := 0 }

/-- The moves after which the queue is looked at. -/
inductive Ending (env : Env) (got : Option InFrame) (s : Session) : Session → Prop
  | failed {id : ℕ+} {p : Pending} {e} (response : got = some (.response id (.error e)))
      (found : s.pending.lookup (id : Nat) = some p) (live : s.Live p) (h : ¬ s.Retains p e)
      (method : p.command.method ≠ .close)
      (kept : p.request.runID = "" ∨ p.command.method ≠ .execute ∧ e.code = .internal) :
      Ending env got s ((s.take id).answerRouted p.request (.error e))
  | refused {id : ℕ+} {p : Pending} {e} (response : got = some (.response id (.error e)))
      (found : s.pending.lookup (id : Nat) = some p) (live : s.Live p)
      (method : p.command.method ≠ .close) (run : p.request.runID ≠ "")
      (h : p.command.method = .execute ∨ e.code ≠ .internal) :
      Ending env got s
      (((s.take id).refusedByWorker p.request.runID).answerRouted p.request (.error e))
  | ready {id : ℕ+} {value} (request : got = some (.request id (.ready value)))
      (h : s.readyMatches value = true) (current : s.current = true) :
      Ending env got s (s.settleTurn env id value)

/-- The head of the queue leaves it for `issue`. -/
def pop (s : Session) (r : RoutedRequest) (rest : List RoutedRequest) : Session :=
  (s.setDeferred rest).act (.started r)

inductive Turn (env : Env) (got : Option InFrame) (s : Session) : Session → Prop
  | move {t} (h : Move env got s t) : Turn env got s t
  | drain {t} (h : Ending env got s t) : Turn env got s (t.startDeferredDelivery env)

def Turns (env : Env) (got : Option InFrame) : Session → Session → Prop :=
  Relation.ReflTransGen (Turn env got)

namespace Turns

variable {env : Env} {got : Option InFrame} {s t u : Session}

theorem refl : Turns env got s s := Relation.ReflTransGen.refl

theorem move (h : Move env got s t) : Turns env got s t := Relation.ReflTransGen.single (.move h)

theorem drain (h : Ending env got s t) : Turns env got s (t.startDeferredDelivery env) :=
  Relation.ReflTransGen.single (.drain h)

theorem head (h : Move env got s t) (h' : Turns env got t u) : Turns env got s u :=
  Relation.ReflTransGen.head (.move h) h'

theorem tail (h : Turns env got s t) (h' : Move env got t u) : Turns env got s u :=
  Relation.ReflTransGen.tail h (.move h')

end Turns

@[simp] theorem hasRunCapacity_take (s : Session) (id : Nat) :
    (s.take id).hasRunCapacity = s.hasRunCapacity := rfl

/-! ## Settling -/

theorem acts_nil (s : Session) : s.acts [] = s := by simp [acts]

/-- What settling the queue appends. -/
def settledActs (code : Code) (l : List RoutedRequest) : List Act :=
  l.flatMap fun r => [.settled r code, answerAct r (.code code)]

theorem settleDeferredDeliveries_eq (s : Session) (code : Code) :
    s.settleDeferredDeliveries code =
      (s.acts (settledActs code s.deferredDeliveries)).setDeferred [] := by
  have hfold : ∀ (l : List RoutedRequest) (t : Session),
      l.foldl (fun s r => (s.act (.settled r code)).answerRouted r (.code code)) t =
        t.acts (settledActs code l) := by
    intro l
    induction l with
    | nil => exact fun t => (acts_nil t).symm
    | cons r l ih => intro t; rw [List.foldl_cons, ih]; simp [answerRouted, act, acts, settledActs]
  rw [settleDeferredDeliveries, hfold]

theorem settleOne_eq (code : Code) (s : Session) (p : Pending) :
    settleOne code s p = if s.closeCall.any (fun close => close.reply == p.request.reply) then s
      else s.answerRouted p.request (.code code) := by
  have hnorun : p.command.method ≠ .run := by cases p.command <;> simp [Command.method]
  simp [settleOne, hnorun]

/-- The requests that settling answers: all but the one that is the close in progress. -/
def settledBy (s : Session) : List Pending :=
  s.pending.values.filter fun p => !s.closeCall.any fun close => close.reply == p.request.reply

theorem settlePending_eq (s : Session) (code : Code) :
    s.settlePending code =
      ((s.acts (settledActs code s.deferredDeliveries ++
        s.settledBy.map fun p => answerAct p.request (.code code))).setDeferred []).setPending
          ∅ := by
  have hfold : ∀ (l : List Pending) (t : Session), t.closeCall = s.closeCall →
      l.foldl (settleOne code) t =
        t.acts
        ((l.filter fun p => !s.closeCall.any fun close => close.reply == p.request.reply).map
          fun p =>
          answerAct p.request (.code code)) := by
    intro l
    induction l with
    | nil => exact fun t _ => (acts_nil t).symm
    | cons p l ih =>
      intro t ht
      rw [List.foldl_cons, settleOne_eq, ht]
      by_cases hany : (s.closeCall.any fun close => close.reply == p.request.reply) = true
      · rw [if_pos hany, ih t ht]
        simp [hany]
      · rw [if_neg hany, ih (t.answerRouted p.request (.code code)) ht]
        simp [hany, answerRouted, act, acts]
  rw [settlePending, settleDeferredDeliveries_eq]
  rw [hfold]
  · simp [settledBy, acts, setDeferred, setPending]
  · rfl

/-! ## Events are moves -/

theorem startDeferred_keeps (env : Env) {I : Session → Prop}
    (hpop : ∀ s r rest, I s → s.deferredDeliveries = r :: rest → s.runID = "" →
      I ((s.pop r rest).issue env r))
    (fuel : Nat) (s : Session) (h : I s) : I (startDeferred env fuel s) := by
  induction fuel generalizing s with
  | zero => exact h
  | succ fuel ih =>
    unfold startDeferred
    split
    · exact h
    · rename_i r rest hq
      split
      · rename_i hidle
        exact ih _ (hpop s r rest h hq hidle)
      · exact h

theorem receiveError_turns (env : Env) (s : Session) {id : ℕ+} {p : Pending} (e : RPCError)
    (found : s.pending.lookup (id : Nat) = some p) (live : s.Live p)
    (hclose : p.command.method ≠ .close) :
    Turns env (some (.response id (.error e))) s ((s.take id).receiveError env p e) := by
  unfold receiveError
  split
  · rename_i h
    have hret : s.Retains p e := ⟨h.1, h.2.1, h.2.2.1, h.2.2.2.1, h.2.2.2.2⟩
    unfold retain
    split
    · rename_i hidle
      exact .move (.issue (.refused rfl found live hret hidle))
    · rename_i hrun
      split
      · rename_i hfull
        exact .move
          (.answer rfl found (fun _ => hclose) (.full live hret hrun (by simpa using hfull)))
      · rename_i hroom
        exact .move (.enqueue rfl found live hret hrun (by simpa using hroom))
  · rename_i h
    have hret : ¬ s.Retains p e := fun r => h ⟨r.code, r.method, r.ordinary, r.lane, r.openCall⟩
    extract_lets s₁
    simp only [s₁]
    split
    · rename_i hrun
      exact .drain (.refused rfl found live hclose hrun.1 hrun.2)
    · rename_i hrun
      refine .drain (.failed rfl found live hret hclose ?_)
      by_cases hid : p.request.runID = ""
      · exact .inl hid
      · exact .inr (by simpa [hid] using hrun)

theorem decodeResult_ack {ref : RunRef} {payload : Payload} {v : Value}
    (h : decodeResult (Command.ack ref).method payload = some v) : v = .empty := by
  cases payload <;> simp_all [decodeResult, Command.method]

theorem receiveValue_turns (env : Env) (s : Session) {id : ℕ+} {p : Pending}
    {payload : Payload} {v : Value} (found : s.pending.lookup (id : Nat) = some p) (live : s.Live p)
    (hclose : p.command.method ≠ .close)
    (decoded : decodeResult p.command.method payload = some v) :
    Turns env (some (.response id (.result payload))) s ((s.take id).receiveValue env p v) := by
  unfold receiveValue
  split
  · rename_i q ref hcmd
    have hmethod : p.command.method = .execute := by rw [hcmd]; rfl
    split
    · rename_i hother
      have hother : ¬ s.Confirms p ref := fun h => hother.elim (· h.1) (· h.2)
      refine .head (.quiet (close_quiet s)) (.move ?_)
      exact .answer (s := { s with wire := s.wire.close }) rfl found (fun _ => by simp [hmethod])
        (.mismatched live decoded hmethod hother)
    · rename_i hsame
      have hsame : s.Confirms p ref :=
        ⟨by_contra fun h => hsame (.inl h), by_contra fun h => hsame (.inr h)⟩
      split
      · rename_i hcollect
        exact .move (.issue (.collect rfl found live hmethod hcollect hsame))
      · rename_i hcollect
        refine .move
          (.answer rfl found (fun _ => by simp [hmethod]) (.value live decoded (by simp [hmethod])
            fun _ => ?_))
        exact ⟨by simpa using hcollect, ref, rfl, hsame⟩
  · rename_i ref hcmd
    rw [hcmd] at decoded
    have hv := decodeResult_ack decoded
    subst hv
    exact .move (.acknowledge rfl found live hcmd)
  · rename_i hack hexec
    have hnoexec : p.command.method ≠ .execute := by
      intro hm
      cases hcmd :
        p.command <;> rw [hcmd] at hm decoded <;> simp only [Command.method, reduceCtorEq] at hm
      cases payload <;> simp [decodeResult, Command.method] at decoded
      exact hexec _ _ hcmd decoded.symm
    refine .move
      (.answer rfl found (fun _ => hclose) (.value live decoded ?_ fun h => absurd h hnoexec))
    intro hm
    cases hcmd : p.command <;> rw [hcmd] at hm <;> simp only [Command.method, reduceCtorEq] at hm
    exact hack _ hcmd

theorem receiveMatched_turns (env : Env) (s : Session) {id : ℕ+} {p : Pending} (body : Body)
    (found : s.pending.lookup (id : Nat) = some p) :
    Turns env (some (.response id body)) s ((s.take id).receiveMatched env p body) := by
  unfold receiveMatched
  split
  · rename_i h
    have hstale : ¬ s.Live p := by
      rintro ⟨hdest, hcur⟩
      have hcur : (s.take id).current = true := hcur
      simp [hcur] at h
      exact h hdest
    exact .move (.answer rfl found (fun live => absurd live hstale) (.stale hstale))
  · rename_i h
    have live : s.Live p := by
      simp only [Bool.or_eq_true, decide_eq_true_eq, Bool.not_eq_true', not_or, not_not,
        Bool.not_eq_false] at h
      exact h
    split
    · rename_i hclose
      exact .tail (.move (.closeAnswered rfl found live hclose))
        (.quiet (finishCloseResponse_quiet _ _))
    · rename_i hclose
      split
      · exact receiveError_turns env s _ found live hclose
      · split
        · rename_i payload hnone
          refine .head (.quiet (close_quiet s)) (.move ?_)
          exact .answer (s := { s with wire := s.wire.close }) rfl found (fun _ => hclose)
            (.undecoded live hnone)
        · rename_i payload v hv
          exact receiveValue_turns env s found live hclose hv

theorem receiveResponse_turns (env : Env) (s : Session) (id : ℕ+) (body : Body) :
    Turns env (some (.response id body)) s (s.receiveResponse env id body) := by
  unfold receiveResponse
  split
  · exact .move (.quiet (.of_wire rfl (fun _ => rfl) rfl (Wire.grows_close _ _) rfl))
  · rename_i p found
    have h := receiveMatched_turns env s body found
    extract_lets s'
    split
    · exact h.tail .writeClose
    · exact h

theorem policyClose_turns (env : Env) (got : Option InFrame) (s : Session) :
    Turns env got s (s.policyClose env) := by
  by_cases h : s.stopping = false ∧ s.closeCall = none ∧ s.committed = true
  · exact .move (.policyClose h.1 h.2.1 h.2.2)
  · have : s.policyClose env = s := by
      unfold policyClose
      rw [if_pos]
      cases hs : s.stopping <;> cases hc : s.closeCall <;> cases hm : s.committed <;> simp_all
    rw [this]
    exact .refl

/-- The timer that fires is no longer armed, whether or not a close begins. -/
theorem autoCloseFired_turns (env : Env) (got : Option InFrame) (s : Session) :
    Turns env got s ({ s with autoClose := false }.policyClose env) := by
  by_cases h : s.stopping = false ∧ s.closeCall = none ∧ s.committed = true
  · have heq : { s with autoClose := false }.policyClose env = s.policyClose env := by
      simp [policyClose, h, stopAutoClose]
    rw [heq]
    exact .move (.policyClose h.1 h.2.1 h.2.2)
  · have hwinding : s.stopping = true ∨ s.closeCall ≠ none ∨ s.committed = false := by
      cases hs : s.stopping <;> cases hc : s.closeCall <;> cases hm : s.committed <;> simp_all
    have heq : { s with autoClose := false }.policyClose env = { s with autoClose := false } := by
      unfold policyClose
      rw [if_pos]
      simpa [Option.isSome_iff_ne_none, or_assoc] using hwinding
    rw [heq]
    exact .move (.quiet ⟨rfl, fun h => h, .inr ⟨rfl, hwinding⟩, .refl _ _, [], by simp⟩)

theorem ownerEnded_turns (env : Env) (got : Option InFrame) (s : Session) (owner : Ptr)
    (ended : Bool) : Turns env got s (s.ownerEnded env owner ended) := by
  unfold ownerEnded
  split
  · exact .refl
  · split
    · exact policyClose_turns env got s
    · exact .refl

theorem turnReady_turns (env : Env) (s : Session) (id : ℕ+) (value : TurnReady)
    (current : s.current = true) :
    Turns env (some (.request id (.ready value))) s (s.turnReady env id value) := by
  unfold turnReady
  split
  · rename_i h
    exact .tail (.drain (.ready rfl h current)) (.quiet (notifyCompletion_quiet _ _ _ _))
  · exact .move (.quiet (reject_quiet _ _ _ _))

theorem handleClosed_turns (env : Env) (s : Session) : Turns env none s s.handleClosed := by
  have hclosed : Turns env none s s.connectionClosed := by
    by_cases h : s.closed = false
    · exact .move (.disconnect rfl h)
    · have : s.connectionClosed = s := by
        unfold connectionClosed
        rw [if_pos (by simpa using h)]
      rw [this]
      exact .refl
  unfold handleClosed
  extract_lets s₁ s₂
  split
  · refine hclosed.tail (.quiet (Quiet.trans ?_ (orderlyStop_quiet s₂)))
    simp only [s₂]
    split
    · exact abortLaunch_quiet _ _
    · exact .refl _
  · exact hclosed

theorem peerHello_turns (env : Env) (s : Session) (id : ℕ+) (install : Install)
    (h : s.launch = none ∨ s.identity = none) :
    Turns env (some (.request id (.peerHello install))) s (s.peerHello env id install) := by
  unfold peerHello
  split
  · exact .move (.quiet (reject_quiet _ _ _ _))
  · rename_i hpeer
    split
    · exact .move (.quiet (reject_quiet _ _ _ _))
    · exact .head (.rename h) (.move (.quiet (respond_quiet _ _ _ _ _)))
    · rename_i entry row groups
      extract_lets s₁
      refine .tail ?_ (.quiet (respond_quiet _ _ _ _ _))
      simp only [s₁]
      split
      · rename_i hid
        have hp : s.item.peer = true := by simpa [hid] using hpeer
        have hq := detachRequests_quiet env (s.settlePending .notConnected) .superseded
        refine .head (.settle rfl hp) (.head (.quiet hq) (.move (.install ?_)))
        rw [hq.core]
        rw [settlePending_eq]
        exact h
      · exact .move (.install h)

theorem finishOpen_turns (env : Env) (got : Option InFrame) (s : Session) (body : Body)
    (h : s.openID ≠ 0) : Turns env got s (s.finishOpen env body) := by
  unfold finishOpen
  extract_lets s₁
  split
  · refine .head (.openFailed h) ?_
    split
    · exact .move (.quiet ((abortLaunch_quiet _ _).trans (recordStop_quiet _ _)))
    · exact .move (.quiet ((abortLaunch_quiet _ _).trans (orderlyStop_quiet _)))
  · exact .move (.opened h)

theorem firstHello_turns (env : Env) (s : Session) (frame : InFrame) (h : s.identity = none) :
    Turns env (some frame) s (s.firstHello env frame) := by
  unfold firstHello
  split
  · split
    · exact .move (.quiet (reject_quiet _ _ _ _))
    · rename_i hnew
      have hnew : s.lastIn < _ := not_le.mp hnew
      split
      · exact .head (.numbered rfl hnew) (peerHello_turns env _ _ _ (.inr h))
      · exact .head (.numbered rfl hnew) (.move (.startLane rfl h))
      · exact .head (.numbered rfl hnew) (.move (.quiet (reject_quiet _ _ _ _)))
      · exact .head (.numbered rfl hnew) (.move (.quiet (reject_quiet _ _ _ _)))
      · exact .move (.quiet (reject_quiet _ _ _ _))
  · exact .move (.quiet (reject_quiet _ _ _ _))
  · exact .move (.quiet (reject_quiet _ _ _ _))

theorem handleRequest_turns (env : Env) (s : Session) (id : ℕ+) (value : InRequest) :
    Turns env (some (.request id value)) s (s.handleRequest env id value) := by
  unfold handleRequest
  split
  · exact .move (.quiet (reject_quiet _ _ _ _))
  · rename_i hnew
    extract_lets s₁
    refine .head (.numbered rfl (not_le.mp hnew)) ?_
    split
    · split
      · exact .move (.quiet (reject_quiet _ _ _ _))
      · rename_i hlaunch
        exact peerHello_turns env _ _ _ (.inl (by simpa using hlaunch))
    · exact .move (.quiet (reject_quiet _ _ _ _))
    · split
      · exact .move (.quiet (reject_quiet _ _ _ _))
      · split
        · exact .move (.quiet (respond_quiet _ _ _ _ _))
        · exact .move (.quiet (reject_quiet _ _ _ _))
    · split
      · exact .move (.quiet (respond_quiet _ _ _ _ _))
      · split
        · exact .move (.quiet (supersede_quiet _ _))
        · rename_i hcur
          exact turnReady_turns env _ _ _ (by simpa using hcur)
    · split
      · exact .move (.quiet (respond_quiet _ _ _ _ _))
      · exact .move (.quiet (clientRequest_quiet _ _ _ _ _))

theorem handleFrame_turns (env : Env) (s : Session) (frame : InFrame) :
    Turns env (some frame) s (s.handleFrame env frame) := by
  unfold handleFrame
  split
  · rename_i h
    exact firstHello_turns env s frame (by simpa using h)
  · split
    · exact .move (.quiet (reject_quiet _ _ _ _))
    · rename_i id body
      split
      · rename_i hopen
        refine finishOpen_turns env _ s body ?_
        simp only [Bool.and_eq_true, beq_iff_eq] at hopen
        rw [← hopen.2]
        exact Nat.pos_iff_ne_zero.mp id.2
      · exact receiveResponse_turns env s _ _
    · exact handleRequest_turns env s _ _

theorem handleRouted_turns (env : Env) (s : Session) (q : Routed) :
    Turns env none s (s.handleRouted env q.request) := by
  unfold handleRouted
  split
  · rename_i h
    refine .move (.turnedAway rfl ?_)
    simp only [Bool.or_eq_true, decide_eq_true_eq, Bool.and_eq_true, Bool.not_eq_true'] at h
    exact or_assoc.mp h
  · rename_i h
    refine .move (.issue (.inbox rfl ?_ ?_ ?_))
    all_goals simp only [Bool.or_eq_true, decide_eq_true_eq, Bool.and_eq_true, not_or,
      not_and, not_not, Bool.not_eq_true, Bool.not_eq_true', Bool.not_eq_false] at h
    · exact h.1.2
    · exact h.1.1
    · exact h.2

theorem handleEvent_turns (env : Env) (s : Session) (e : Event) (he : e ≠ .written) :
    Turns env e.received s (s.handleEvent env e) := by
  cases e with
  | ownerEnd owner ended => exact ownerEnded_turns env _ s owner ended
  | frame value =>
    simp only [handleEvent]
    split
    · exact .refl
    · exact handleFrame_turns env s value
  | closed => exact handleClosed_turns env s
  | routed q => exact handleRouted_turns env s q
  | reply requestID leg answer => exact .move (.quiet (consumeReply_quiet _ _ _ _ _))
  | supersede => exact .move (.quiet (supersede_quiet _ _))
  | processStarted launch child => exact .move (.quiet (processStarted_quiet _ _ _))
  | processExited launch error => exact .move (.quiet (handleExit_quiet _ _ _))
  | spawnTimeout launch =>
    simp only [handleEvent]
    split
    · exact .move (.quiet ((abortLaunch_quiet _ _).trans (recordStop_quiet _ _)))
    · exact .refl
  | autoCloseFired =>
    simp only [handleEvent]
    split
    · exact autoCloseFired_turns env _ s
    · exact .refl
  | closeTimerFired =>
    simp only [handleEvent]
    split
    · refine .move (.quiet (Quiet.trans ?_ (recordStop_quiet _ _)))
      exact .same rfl rfl rfl rfl rfl rfl
    · exact .refl
  | shutdown =>
    refine .move (.quiet (Quiet.trans ?_ (orderlyStop_quiet _)))
    split
    · exact abortLaunch_quiet _ _
    · exact .refl _
  | written => exact absurd rfl he
  | readEnded =>
    refine .move (.quiet (.of_wire rfl (fun h => h) rfl ?_ rfl))
    exact ⟨⟨[], (List.append_nil _).symm, by simp, .nil le_rfl⟩, fun h => h, fun _ => rfl,
      fun _ => rfl⟩
  | clock now => exact .move (.quiet (.same rfl rfl rfl rfl rfl rfl))

end Sessionbus.Session
