import Sessionbus.Session.Moves

/-!
# What `issue` can do

A request that is issued is refused, becomes the close in progress, or is written: as it is,
as the execute of a new run, or as a delivery that seeds one.
-/

namespace Sessionbus.Session

/-! ## Writing -/

/-- The session after the wire took the command. -/
@[simps! toSessionCore nextOut wire stopping autoClose history]
def sent (s : Session) (r : RoutedRequest) (c : Command) (item : Entry) : Session :=
  { s with
    nextOut := s.nextOut + 1
    wire := s.wire.queue (.request (s.nextOut + 1) c)
    pending := s.pending.insert (s.nextOut + 1) ⟨r, c⟩
    item }.act (.wrote (s.nextOut + 1) c)

/-- A request with a run ID marks the entry as running. -/
def runningItem (s : Session) (r : RoutedRequest) : Entry :=
  { s.item with running := if r.runID ≠ "" then true else s.item.running }

/-- The session after the command did not encode or the wire did not take it. -/
@[simps! toSessionCore nextOut wire stopping autoClose history]
def notSent (s : Session) (c : Command) (wire : Wire) (encoded : Bool) : Session :=
  { s with nextOut := s.nextOut + 1, wire }.act (.unsent (s.nextOut + 1) c encoded)

/-- Why a command was not sent. -/
structure Unsent (env : Env) (s : Session) (c : Command) (wire : Wire) (encoded : Bool) : Prop where
  encoded : env.encodes (s.nextOut + 1) c = encoded
  wire : wire = s.wire ∨ wire = s.wire.close

inductive Wrote (env : Env) (s : Session) (r : RoutedRequest) (c : Command) : Session → Prop
  | sent (encodes : env.encodes (s.nextOut + 1) c = true) (unfinished : s.wire.finishing = false)
      (reading : s.wire.done = false) : Wrote env s r c (s.sent r c (s.runningItem r))
  | unsent {wire encoded} (why : Unsent env s c wire encoded) :
      Wrote env s r c ((if r.runID ≠ "" then (s.notSent c wire encoded).refuseRun r.runID
        else s.notSent c wire encoded).answerRouted r (.code .notConnected))

theorem sendCommand_cases (env : Env) (s : Session) (c : Command) :
    (env.encodes (s.nextOut + 1) c = true ∧ s.wire.finishing = false ∧ s.wire.done = false ∧
      s.sendCommand env c = ({ s with
        nextOut := s.nextOut + 1
        wire := s.wire.queue (.request (s.nextOut + 1) c) }.act (.wrote (s.nextOut + 1) c), true)) ∨
    (∃ wire encoded, Unsent env s c wire encoded ∧
      s.sendCommand env c = (s.notSent c wire encoded, false)) := by
  unfold sendCommand
  extract_lets id s₁
  by_cases henc : env.encodes (s.nextOut + 1) c = true
  · rw [if_pos henc]
    rcases s.wire.send_cases (.request (s.nextOut + 1) c)
      with ⟨hok, hwire, hfin, hdone⟩ | ⟨hok, hwire⟩
    · have heq : s₁.wire.send (.request id c) = (s.wire.queue (.request (s.nextOut + 1) c), true) :=
        Prod.ext hwire hok
      rw [heq]
      exact .inl ⟨henc, hfin, hdone, rfl⟩
    · have heq :
          s₁.wire.send (.request id c) = ((s.wire.send (.request (s.nextOut + 1) c)).1, false) :=
        Prod.ext rfl hok
      rw [heq]
      exact .inr ⟨_, true, ⟨henc, hwire⟩, rfl⟩
  · rw [if_neg henc]
    exact .inr ⟨s.wire, false, ⟨by simpa using henc, .inl rfl⟩, rfl⟩

theorem write_wrote (env : Env) (s : Session) (r : RoutedRequest) (c : Command) :
    Wrote env s r c (s.write env r c) := by
  unfold write
  rcases sendCommand_cases env s c with ⟨henc, hfin, hdone, heq⟩ | ⟨wire, encoded, why, heq⟩
  · rw [heq]
    have h := Wrote.sent (r := r) henc hfin hdone
    by_cases hrun : r.runID ≠ ""
    · simp only [sent, runningItem, if_pos hrun] at h ⊢
      exact h
    · simp only [sent, runningItem, if_neg hrun] at h ⊢
      exact h
  · rw [heq]
    exact .unsent why

theorem write_sent {env : Env} {s : Session} {r : RoutedRequest} {c : Command}
    (henc : env.encodes (s.nextOut + 1) c = true) (hfin : s.wire.finishing = false)
    (hdone : s.wire.done = false) (hroom : s.wire.outbox.length < outboxSize) :
    s.write env r c = s.sent r c (s.runningItem r) := by
  have hsent : (s.sendCommand env c).2 = true := by
    simp [sendCommand, henc, Wire.send, hfin, hdone, hroom]
  unfold write
  rcases sendCommand_cases env s c with ⟨-, -, -, heq⟩ | ⟨wire, encoded, -, heq⟩
  · rw [heq]
    by_cases hrun : r.runID ≠ ""
    · simp only [sent, runningItem, if_pos hrun]
      rfl
    · simp only [sent, runningItem, if_neg hrun]
      rfl
  · rw [heq] at hsent
    cases hsent

/-! ## Issuing -/

/-- The command a request is written as when it starts no run. -/
def plainCommand (s : Session) : Call → Option Command
  | .deliver p => if !s.item.peer && s.runID == "" then none else some (.deliver p)
  | .status p => some (.status { p with sessionID := s.item.row.sessionID })
  | .wait p => some (.wait { p with sessionID := s.item.row.sessionID })
  | .ack p => some (.ack { p with sessionID := s.item.row.sessionID })
  | .interrupt p => some (.interrupt p)
  | _ => none

@[simps! toSessionCore nextOut wire stopping autoClose history]
def seedState (s : Session) (r : RoutedRequest) : Session :=
  { s.reserveRun with runFromTrace := r.traceCopy, runFromCompletion := r.completion }

/-- How `issue` writes a request: the state and the request it is written with, and the
command. -/
inductive Prepared (s : Session) (r : RoutedRequest) : Session → RoutedRequest → Command → Prop
  | plain {c} (h : s.plainCommand r.call = some c) : Prepared s r s r c
  | execute {p collect} (call : r.call = .run p ∧ collect = true ∨ r.call = .start p ∧
      collect = false) (room : s.hasRunCapacity = true) :
      Prepared s r s.reserveRun { r with collect, runID := s.reserveRun.runID }
        (.execute
          { sessionID := s.item.row.sessionID, runID := s.reserveRun.runID, input := p.input })
  | seed {p} (call : r.call = .deliver p) (lane : s.item.peer = false) (idle : s.runID = "")
      (room : s.hasRunCapacity = true) (openCall : s.closeCall = none) :
      Prepared s r (s.seedState r) { r with runID := s.reserveRun.runID }
        (.deliver { p with runID := s.reserveRun.runID })

/-- Why `issue` answers a request with a code. -/
inductive Refusal (s : Session) (r : RoutedRequest) : Code → Prop
  | closing (h : s.closeCall ≠ none) (plain : r.collect = false) : Refusal s r .busy
  | crowded (h : maxPendingCalls ≤ s.pending.entries.length + s.deferredDeliveries.length) :
      Refusal s r .busy
  | notAdmitted {code} (h : s.admits (issuedMethod r.call) = some code) : Refusal s r code
  | noCapacity (h : s.hasRunCapacity = false) (run : s.plainCommand r.call = none) :
      Refusal s r .busy
  | seedClosing (h : s.closeCall ≠ none) (idle : s.runID = "") : Refusal s r .busy

structure Admitted (s : Session) (r : RoutedRequest) : Prop where
  open_ : s.closeCall ≠ none → r.collect = true
  room : s.pending.entries.length + s.deferredDeliveries.length < maxPendingCalls
  entry : s.admits (issuedMethod r.call) = none

inductive Issued (env : Env) (s : Session) (r : RoutedRequest) : Session → Prop
  | refused {code} (why : Refusal s r code) : Issued env s r (s.answerRouted r (.code code))
  | closing {p} (call : r.call = .close p) (admitted : Admitted s r) :
      Issued env s r (s.beginClose env r p)
  | written {s₁ r₁ c t} (admitted : Admitted s r) (prepared : Prepared s r s₁ r₁ c)
      (wrote : Wrote env s₁ r₁ c t) : Issued env s r t

theorem execute_issued (env : Env) (s : Session) (r : RoutedRequest) (collect : Bool)
    (p : TurnRunRequest) (admitted : Admitted s r)
    (call : r.call = .run p ∧ collect = true ∨ r.call = .start p ∧ collect = false) :
    Issued env s r (s.execute env r collect p.input) := by
  unfold execute
  split
  · rename_i hfull
    refine .refused (.noCapacity (by simpa using hfull) ?_)
    rcases call with ⟨h, -⟩ | ⟨h, -⟩ <;> rw [h] <;> rfl
  · rename_i hroom
    exact .written admitted (.execute call (by simpa using hroom)) (write_wrote env _ _ _)

theorem seed_issued (env : Env) (s : Session) (r : RoutedRequest) (p : DeliveryRequest)
    (admitted : Admitted s r) (call : r.call = .deliver p) (lane : s.item.peer = false)
    (idle : s.runID = "") : Issued env s r (s.seed env r p) := by
  unfold seed
  split
  · rename_i hfull
    refine .refused (.noCapacity (by simpa using hfull) ?_)
    simp [call, plainCommand, lane, idle]
  · rename_i hroom
    split
    · rename_i hclose
      exact .refused (.seedClosing (by simpa [Option.isSome_iff_ne_none] using hclose) idle)
    · rename_i hopen
      exact .written admitted (.seed call lane idle (by simpa using hroom) (by simpa using hopen))
        (write_wrote env _ _ _)

theorem issue_issued (env : Env) (s : Session) (r : RoutedRequest) :
    Issued env s r (s.issue env r) := by
  unfold issue
  split
  · rename_i h
    simp only [Bool.and_eq_true, Bool.not_eq_true'] at h
    exact .refused (.closing (Option.isSome_iff_ne_none.mp h.1) h.2)
  · rename_i hopen
    split
    · rename_i hfull
      exact .refused (.crowded hfull)
    · rename_i hroom
      split
      · rename_i code hcode
        exact .refused (.notAdmitted hcode)
      · rename_i hentry
        have adm : Admitted s r := by
          refine ⟨fun hc => ?_, by omega, hentry⟩
          simpa [Option.isSome_iff_ne_none, hc] using hopen
        split
        · rename_i p hcall
          exact .closing hcall adm
        · rename_i p hcall
          exact execute_issued env s r true p adm (.inl ⟨hcall, rfl⟩)
        · rename_i p hcall
          exact execute_issued env s r false p adm (.inr ⟨hcall, rfl⟩)
        · rename_i p hcall
          split
          · rename_i hseed
            simp only [Bool.and_eq_true, Bool.not_eq_true', beq_iff_eq] at hseed
            exact seed_issued env s r p adm hcall hseed.1 hseed.2
          · rename_i hplain
            refine .written adm (.plain ?_) (write_wrote env _ _ _)
            rw [hcall, plainCommand, if_neg hplain]
        all_goals
          rename_i p hcall
          refine .written adm (.plain ?_) (write_wrote env _ _ _)
          rw [hcall, plainCommand]

/-! ## Writing a close -/

/-- What `writeDeferredClose` does with the close in progress. -/
inductive ClosedWith (env : Env) (s : Session) : Session → Prop
  | waits : ClosedWith env s s
  | sent {r p} (call : s.closeCall = some r) (params : r.call = .close p)
      (live : s.stopping = false) (free : s.closeBlocked = false)
      (encodes : env.encodes (s.nextOut + 1) (.close p) = true) :
      ClosedWith env s (s.sent r (.close p) { s.item with claimed := true })
  | unsent {r p wire encoded} (call : s.closeCall = some r) (params : r.call = .close p)
      (why : Unsent env s (.close p) wire encoded) :
      ClosedWith env s (s.notSent (.close p) wire encoded).hardStop

theorem writeDeferredClose_closed (env : Env) (s : Session) :
    ClosedWith env s (s.writeDeferredClose env) := by
  unfold writeDeferredClose
  split
  · exact .waits
  · rename_i r hcall
    split
    · exact .waits
    · rename_i hlive
      split
      · exact .waits
      · rename_i hfree
        split
        · rename_i p hp
          rcases sendCommand_cases env s (.close p) with ⟨henc, -, -, heq⟩ |
            ⟨wire, encoded, why, heq⟩
          · rw [heq]
            refine ClosedWith.sent hcall hp ?_ (by simpa using hfree) henc
            simp only [Bool.or_eq_true, not_or, Bool.not_eq_true] at hlive
            exact hlive.2
          · rw [heq]
            exact .unsent hcall hp why
        · exact .waits

end Sessionbus.Session
