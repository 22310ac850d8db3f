import Sessionbus.Js.Worker

/-!
# The two worker kits answer alike

A state of the JavaScript worker is read as a state of the Go worker, and the two kits make
the same of every event: the reading of the state after it is the state of the Go worker
after it.
-/

namespace Sessionbus.Js

/-! ## Run IDs -/

/-- The number of the run, if the ID names one, is below `2 ^ 53`. -/
def Safe (id : String) : Prop :=
  ∀ generation n, runNumber id = some (generation, n) → n < 9007199254740992

theorem runSequence_eq {id : String} (h : Safe id) : runSequence id = runNumber id := by
  unfold Safe at h
  unfold runSequence runNumber Text.cut at *
  simp only
  cases hdrop : id.toList.dropWhile (· != '/') with
  | nil => simp
  | cons slash tail =>
    simp only [hdrop] at h ⊢
    cases tail with
    | nil => simp [Text.parseUint]
    | cons c l =>
      by_cases hdigits : (c :: l).all Char.isDigit = true
      · have hparse :
            Text.parseUint (String.ofList (c :: l)) = some (Nat.ofDigitChars 10 (c :: l) 0) := by
          unfold Text.parseUint
          rw [String.toList_ofList, if_pos ⟨by simp, hdigits⟩]
        have hcanonical := Text.formatUint_eq_iff hdigits
        simp only [hparse] at h ⊢
        by_cases hgen : id.toList.takeWhile (· != '/') = []
        · simp [hgen]
        · have hgen' : String.ofList (id.toList.takeWhile (· != '/')) ≠ "" := by
            intro hempty
            exact hgen (by simpa using congrArg String.toList hempty)
          by_cases hzero : c = '0'
          · have hnot := hcanonical.not.mpr (not_not.mpr hzero)
            rw [if_neg fun hc => hc.2.1 hzero, if_neg fun hc => hnot hc.2]
          · have hok := hcanonical.mpr hzero
            have hsmall := Nat.le_of_lt_succ (h _ _ (if_pos ⟨hgen', hok⟩))
            rw [if_pos ⟨hgen, hzero, hdigits⟩, if_pos hsmall, if_pos ⟨hgen', hok⟩]
      · have hparse : Text.parseUint (String.ofList (c :: l)) = none := by
          unfold Text.parseUint
          rw [String.toList_ofList, if_neg fun hd => hdigits hd.2]
        simp only [hparse]
        rw [if_neg fun hc => hdigits hc.2.2]

theorem runSequence_lt {id generation : String} {n : Nat}
    (h : runSequence id = some (generation, n)) : n < 2 ^ 64 := by
  unfold runSequence at h
  simp only at h
  split at h
  · split at h
    · split at h
      · rename_i safe
        cases h
        omega
      · cases h
    · cases h
  · cases h

/-! ## The reading -/

def Run.turn (r : Run) : Turn :=
  { request := r.request, ref := r.ref, sequence := r.sequence, seed := r.delivery,
    reported := r.receiptReported,
    stage := .running }

def Slot.slot : Slot → Sessionbus.Slot
  | .run sequence => .turn sequence
  | .empty => .closing

def Job.task : Job → Task
  | .read request p wait => .read request p wait
  | .close request run => .close request run

def Worker.view (w : Worker) : Sessionbus.Worker where
  sessionID := w.sessionID
  opened := w.opened
  generation := w.generation
  lastSequence := w.lastSequence
  acknowledged := w.acknowledged
  records := w.records
  waiters := w.waiters
  run := w.run.map Slot.slot
  turn := w.current.map Run.turn
  tasks := w.jobs.map Job.task
  closed := w.closed
  next := w.next
  last := w.last
  up := w.sent

namespace Worker

variable {go js : Encoder} {w : Worker}

theorem view_send (w : Worker) (frame : UpFrame) : (w.send frame).view = w.view.write frame := by
  unfold send Sessionbus.Worker.write
  show view _ = if w.closed = true then w.view else _
  split <;> rfl

theorem view_shutdown (w : Worker) : w.shutdown.view = w.view.hangUp := rfl

theorem withTasks_write (w : Sessionbus.Worker) (frame : UpFrame) (tasks : List Task) :
    (w.write frame).withTasks tasks = (w.withTasks tasks).write frame := by
  unfold Sessionbus.Worker.write
  show _ = if w.closed = true then _ else _
  split <;> rfl

theorem tasks_write (w : Sessionbus.Worker) (frame : UpFrame) :
    (w.write frame).tasks = w.tasks := by
  unfold Sessionbus.Worker.write
  split <;> rfl

theorem runTask_nil {w : Sessionbus.Worker} (htasks : w.tasks = []) (reply : Report)
    (timedOut : Bool) : w.runTask 0 reply timedOut = w := by
  unfold Sessionbus.Worker.runTask
  rw [htasks]
  rfl

/-- A task that is over after its second turn at the latest. -/
theorem goOn_turns {w v : Sessionbus.Worker} {reply : Report} {expired : Option Nat} {task : Task}
    {frame : UpFrame} (hsent : w.replyFails go task reply = false)
    (hrun : ((w.withTasks [task]).runTask 0 reply (expired == some task.request.id)).runTask 0 reply
      (expired == some task.request.id) = (v.withTasks []).write frame)
    (htasks : v.tasks = w.tasks) : w.goOn go reply expired task = v.write frame := by
  unfold Sessionbus.Worker.goOn
  rw [if_neg (by simp [hsent])]
  simp only [hrun, tasks_write, withTasks_write]
  congr 1
  show ({ v with tasks := w.tasks ++ [] } : Sessionbus.Worker) = v
  rw [List.append_nil, ← htasks]

theorem goOn_over {w v : Sessionbus.Worker} {reply : Report} {expired : Option Nat} {task : Task}
    {frame : UpFrame} (hsent : w.replyFails go task reply = false)
    (hrun : (w.withTasks [task]).runTask 0 reply (expired == some task.request.id) =
      (v.withTasks []).write frame)
    (htasks : v.tasks = w.tasks) : w.goOn go reply expired task = v.write frame := by
  refine goOn_turns hsent ?_ htasks
  rw [hrun]
  exact runTask_nil (tasks_write _ _) _ _

theorem goOn_waits {w : Sessionbus.Worker} {reply : Report} {expired : Option Nat} {task : Task}
    (hsent : w.replyFails go task reply = false)
    (hrun : (w.withTasks [task]).runTask 0 reply (expired == some task.request.id) =
      w.withTasks [task]) :
    w.goOn go reply expired task = w.withTasks (w.tasks ++ [task]) := by
  unfold Sessionbus.Worker.goOn
  rw [if_neg (by simp [hsent])]
  simp only [hrun]
  rfl

theorem goOn_answer (w : Sessionbus.Worker) (reply : Report) (expired : Option Nat)
    (request : Request) (body : Body) :
    w.goOn go reply expired (.answer request body) = w.write (.response request.id body) :=
  goOn_over rfl rfl rfl

theorem find_eq (w : Worker) (p : WaitRequest) : w.view.findRun p = w.find p := by
  unfold find Sessionbus.Worker.findRun
  congr 1
  funext r
  exact Bool.and_comm _ _

theorem goOn_read (w : Worker) (reply : Report) (expired : Option Nat) (request : Request)
    (p : WaitRequest) (wait : Bool) :
    w.view.goOn go reply expired (.read request p wait) =
      (w.look request p wait (expired == some request.id)).view := by
  have hfind : (w.view.withTasks [.read request p wait]).findRun p = w.find p := find_eq w p
  have hrun : (w.view.withTasks [.read request p wait]).runTask 0 reply
      (expired == some request.id) = (w.view.withTasks [.read request p wait]).runRead 0 request p
      wait (expired == some request.id) := rfl
  unfold Sessionbus.Worker.runRead at hrun
  rw [hfind] at hrun
  unfold look
  cases hrecord : w.find p with
  | none =>
    rw [hrecord] at hrun
    show _ = (Worker.send _ _).view
    rw [view_send]
    exact goOn_over rfl hrun rfl
  | some record =>
    rw [hrecord] at hrun
    simp only at hrun ⊢
    split at hrun
    · rename_i hdone
      rw [if_pos hdone]
      show _ = (Worker.send _ _).view
      rw [view_send]
      exact goOn_over rfl hrun rfl
    · rename_i hwaits
      rw [if_neg hwaits, goOn_waits rfl hrun]
      simp [view, Sessionbus.Worker.withTasks, Job.task]

theorem goOn_last {w : Sessionbus.Worker} {reply : Report} {expired : Option Nat} {task : Task}
    {frame : UpFrame} (hsent : w.replyFails go task reply = false)
    (hrun : (w.withTasks [task]).runTask 0 reply (expired == some task.request.id) =
      ((w.withTasks []).write frame).hangUp) :
    w.goOn go reply expired task = (w.write frame).hangUp := by
  have hback : (((w.withTasks []).write frame).hangUp).withTasks w.tasks =
      (((w.withTasks []).write frame).withTasks w.tasks).hangUp := rfl
  have htasks : (((w.withTasks []).write frame).hangUp).tasks = [] := tasks_write _ _
  unfold Sessionbus.Worker.goOn
  rw [if_neg (by simp [hsent])]
  simp only [hrun, runTask_nil htasks, htasks, List.append_nil]
  rw [hback, withTasks_write]
  rfl

theorem goOn_close (w : Worker) (reply : Report) (expired : Option Nat) (request : Request)
    (run : Option Nat) :
    w.view.goOn go reply expired (.close request run) = (w.finishClose request run).view := by
  have hturn : ∀ sequence, (w.view.turn.any fun t => t.sequence == sequence) =
      w.current.any fun r => r.sequence == sequence := by
    intro sequence
    show (w.current.map Run.turn).any _ = _
    rw [Option.any_map]
    rfl
  have hrun : (w.view.withTasks [.close request run]).runTask 0 reply (expired == some request.id) =
      if (run.any fun sequence => w.current.any fun r => r.sequence == sequence) ||
          w.waiters ≠ 0 then
        w.view.withTasks [.close request run]
      else ((w.view.withTasks []).write (.response request.id (.result .empty))).hangUp := by
    simp only [← hturn]
    rfl
  unfold finishClose
  split at hrun
  · rename_i hwaits
    rw [if_pos hwaits, goOn_waits rfl hrun]
    simp [view, Sessionbus.Worker.withTasks, Job.task]
  · rename_i hover
    rw [if_neg hover, goOn_last rfl hrun, view_shutdown]
    show _ = (Worker.send _ _).view.hangUp
    rw [view_send]

theorem view_changed (go : Encoder) (w : Worker) (expired : Option Nat) :
    (w.changed expired).view = w.view.wake go expired := by
  have hone : ∀ (v : Worker) (job : Job), v.view.goOn go .notRunning expired job.task =
      (v.resume expired job).view := by
    intro v job
    cases job with
    | read request p wait => exact goOn_read v _ _ _ _ _
    | close request run => exact goOn_close v _ _ _ _
  have hall : ∀ (jobs : List Job) (v : Worker), (jobs.foldl (resume expired) v).view =
      (jobs.map Job.task).foldl (Sessionbus.Worker.goOn go .notRunning expired) v.view := by
    intro jobs
    induction jobs with
    | nil => exact fun _ => rfl
    | cons job jobs ih =>
      intro v
      rw [List.foldl_cons, ih, List.map_cons, List.foldl_cons, hone]
  exact hall w.jobs { w with jobs := [] }

/-! ## Requests -/

theorem runNew_one {reply : Report} {expired : Option Nat} {w v : Sessionbus.Worker} {task : Task}
    (h : v.tasks = w.tasks ++ [task]) :
    Sessionbus.Worker.runNew go reply expired w v =
      (v.withTasks w.tasks).goOn go reply expired task := by
  unfold Sessionbus.Worker.runNew
  rw [h, List.drop_left, List.take_left]
  rfl

theorem runNew_none {reply : Report} {expired : Option Nat} {w v : Sessionbus.Worker}
    (h : v.tasks = w.tasks) : Sessionbus.Worker.runNew go reply expired w v = v := by
  unfold Sessionbus.Worker.runNew
  rw [h, List.drop_length, List.take_length, ← h]
  rfl

theorem start_eq {w : Sessionbus.Worker} (h : ∀ t, w.turn = some t → t.stage = .running) :
    w.start = w := by
  unfold Sessionbus.Worker.start
  cases ht : w.turn with
  | none => rfl
  | some t => simp [h t ht]

theorem running_view (w : Worker) {t : Turn} (h : w.view.turn = some t) : t.stage = .running := by
  obtain ⟨run, -, rfl⟩ := Option.map_eq_some_iff.mp (h : w.current.map Run.turn = some t)
  rfl

section
variable {w₀ : Sessionbus.Worker} {reply : Report} {expired : Option Nat}

theorem runNew_spawn (w : Worker) (h : w₀.tasks = w.view.tasks) (task : Task) :
    Sessionbus.Worker.runNew go reply expired w₀ (w.view.spawn task).start =
      w.view.goOn go reply expired task := by
  have hstart : (w.view.spawn task).start = w.view.spawn task := start_eq fun t ht =>
      running_view w ht
  have htasks : (w.view.spawn task).tasks = w₀.tasks ++ [task] := by rw [h]; rfl
  rw [hstart, runNew_one htasks, h]
  rfl

theorem runNew_answer (h : w₀.tasks = w.view.tasks) (request : Request) (body : Body) :
    Sessionbus.Worker.runNew go reply expired w₀ (w.view.answer request body).start =
      (w.send (.response request.id body)).view := by
  unfold Sessionbus.Worker.answer
  rw [runNew_spawn w h, goOn_answer, view_send]

/-- The run that `_execute` starts is the one that `execute` admits and whose result it writes. -/
theorem view_admitted (h : w₀.tasks = w.view.tasks) (request : Request) (ref : RunRef)
    (seed : Option DeliveryRequest) (generation : String) (sequence : Nat) :
    Sessionbus.Worker.runNew go reply expired w₀
        (w.view.admitRun request ref seed generation sequence).start =
      (let w' := w.admitRun request ref seed generation sequence
        if seed.isNone then w'.result request (.ref ref) else w').view := by
  have htasks : (w.admitRun request ref seed generation sequence).view.tasks = w₀.tasks := h.symm
  cases seed with
  | none =>
    have hstart : (w.view.admitRun request ref none generation sequence).start =
        (w.admitRun request ref none generation sequence).view.write
        (.response request.id (.result (.ref ref))) := rfl
    rw [hstart, runNew_none ((tasks_write _ _).trans htasks), ← view_send]
    rfl
  | some p =>
    have hstart : (w.view.admitRun request ref (some p) generation sequence).start =
        (w.admitRun request ref (some p) generation sequence).view := rfl
    rw [hstart, runNew_none htasks]
    rfl

theorem view_execute (h : w₀.tasks = w.view.tasks) (request : Request) (ref : RunRef)
    (seed : Option DeliveryRequest) (safe : runSequence ref.runID = runNumber ref.runID) :
    Sessionbus.Worker.runNew go reply expired w₀ (w.view.execute request ref seed).start =
      (w.execute request ref seed).view := by
  unfold Sessionbus.Worker.execute Sessionbus.Worker.executeCode execute
  rw [safe]
  by_cases hbusy : (!w.opened || w.run.isSome || decide (w.records.length ≥ 256)) = true
  · have hbusy' :
        (!w.view.opened || w.view.run.isSome || decide (w.view.records.length ≥ maxOperations)) =
        true := by
      simpa [view, maxOperations] using hbusy
    rw [if_pos hbusy, if_pos hbusy']
    exact runNew_answer h request _
  · have hbusy' :
        ¬ (!w.view.opened || w.view.run.isSome || decide (w.view.records.length ≥ maxOperations)) =
        true := by
      simpa [view, maxOperations] using hbusy
    rw [if_neg hbusy, if_neg hbusy']
    cases hnumber : runNumber ref.runID with
    | none => exact runNew_answer h request _
    | some number =>
      obtain ⟨generation, sequence⟩ := number
      simp only
      by_cases hother : ref.sessionID ≠ w.sessionID ∨
        (w.generation ≠ "" ∧ w.generation ≠ generation) ∨
          sequence ≠ w.lastSequence + 1
      · have hother' : ref.sessionID ≠ w.view.sessionID ∨
            (w.view.generation ≠ "" ∧ w.view.generation ≠ generation) ∨
            sequence ≠ w.view.lastSequence + 1 := hother
        rw [if_pos hother, if_pos hother']
        exact runNew_answer h request _
      · have hother' : ¬ (ref.sessionID ≠ w.view.sessionID ∨
            (w.view.generation ≠ "" ∧ w.view.generation ≠ generation) ∨
            sequence ≠ w.view.lastSequence + 1) := hother
        rw [if_neg hother, if_neg hother']
        simp only
        exact view_admitted h request ref seed generation sequence

theorem view_read (h : w₀.tasks = w.view.tasks) (request : Request) (p : WaitRequest)
    (wait timedOut : Bool) :
    Sessionbus.Worker.runNew go reply (if timedOut then some request.id else none) w₀
        (w.view.readRun request p wait).start = (w.read request p wait timedOut).view := by
  have hexpired : ((if timedOut then some request.id else none) == some request.id) = timedOut := by
    cases timedOut <;> simp
  have hclosing : (w.view.run == some .closing) = (w.run == some .empty) := by
    show (w.run.map Slot.slot == some .closing) = _
    rcases w.run with _ | _ | _ <;> rfl
  unfold Sessionbus.Worker.readRun read
  rw [hclosing]
  by_cases hbusy : (decide (w.waiters ≥ 256) || w.run == some .empty) = true
  · have hbusy' : (decide (w.view.waiters ≥ maxOperations) || w.run == some .empty) = true := hbusy
    rw [if_pos hbusy, if_pos hbusy']
    exact runNew_answer h request _
  · have hbusy' : ¬ (decide (w.view.waiters ≥ maxOperations) || w.run == some .empty) =
        true := hbusy
    rw [if_neg hbusy, if_neg hbusy']
    refine (runNew_spawn { w with waiters := w.waiters + 1 } h _).trans
      ((goOn_read _ _ _ _ _ _).trans ?_)
    rw [hexpired]

theorem view_ack (h : w₀.tasks = w.view.tasks) (request : Request) (ref : RunRef)
    (safe : runSequence ref.runID = runNumber ref.runID) :
    Sessionbus.Worker.runNew go reply expired w₀ (w.view.ackRun request ref).start =
      (w.ack request ref).view := by
  unfold Sessionbus.Worker.ackRun ack
  rw [safe]
  cases hnumber : runNumber ref.runID with
  | none => exact runNew_answer h request _
  | some number =>
    obtain ⟨generation, sequence⟩ := number
    have hview : w.view.generation = w.generation ∧ w.view.sessionID = w.sessionID ∧
        w.view.acknowledged = w.acknowledged ∧ w.view.records = w.records := ⟨rfl, rfl, rfl, rfl⟩
    have hbits : sequence < 2 ^ 64 := runSequence_lt (safe.trans hnumber)
    simp only [hview, hbits, and_true]
    by_cases hsame : generation = w.generation ∧ ref.sessionID = w.sessionID
    · rw [if_pos hsame, if_pos hsame]
      by_cases hold : sequence ≤ w.acknowledged
      · rw [if_pos hold, if_pos hold]
        exact runNew_answer h request _
      · rw [if_neg hold, if_neg hold]
        cases w.records with
        | nil => exact runNew_answer h request _
        | cons first rest =>
          simp only
          by_cases hfirst : first.ref.runID = ref.runID ∧ first.state ≠ .running
          · rw [if_pos hfirst, if_pos hfirst]
            exact runNew_answer
              (w := { w with acknowledged := sequence, records := rest }) h request _
          · rw [if_neg hfirst, if_neg hfirst]
            exact runNew_answer h request _
    · rw [if_neg hsame, if_neg hsame]
      exact runNew_answer h request _

/-- While the connection is open, a run is aborted in the one kit when it is cancelled in the
other. -/
theorem cancelled_view (hopen : w.closed = false) (sequence : Nat) :
    w.view.cancelled sequence = w.aborted sequence := by
  unfold Sessionbus.Worker.cancelled aborted
  have hclosed : w.view.closed = false := hopen
  have hturn : w.view.turn = w.current.map Run.turn := rfl
  rw [hclosed, hturn, Bool.false_or]
  cases w.current with
  | none => rfl
  | some run => simp [Run.turn]

theorem view_interrupt (h : w₀.tasks = w.view.tasks) (hopen : w.closed = false)
    (request : Request) :
    Sessionbus.Worker.runNew go reply expired w₀ (w.view.interrupt request).start =
      (w.interrupt request).view := by
  have hcancelled := cancelled_view hopen
  unfold Sessionbus.Worker.interrupt interrupt
  have hrun : w.view.run = w.run.map Slot.slot := rfl
  rw [hrun]
  rcases w.run with _ | sequence | _
  · exact runNew_answer h request _
  · simp only [Option.map_some, Slot.slot, hcancelled]
    split
    · exact runNew_answer h request _
    · exact runNew_answer h request _
  · exact runNew_answer h request _

theorem view_close (h : w₀.tasks = w.view.tasks) (request : Request) :
    Sessionbus.Worker.runNew go reply expired w₀ (w.view.close request).start =
      (w.close request).view := by
  unfold Sessionbus.Worker.close close
  have hrun : w.view.run = w.run.map Slot.slot := rfl
  rw [hrun]
  rcases w.run with _ | sequence | _
  · exact (runNew_spawn { w with run := some .empty } h _).trans (goOn_close _ _ _ _ _)
  · exact (runNew_spawn { w with run := some .empty } h _).trans (goOn_close _ _ _ _ _)
  · have hstart : w.view.hangUp.start = w.view.hangUp := start_eq fun t ht => running_view w ht
    have htasks : w.view.hangUp.tasks = w₀.tasks := h.symm
    simp only [Option.map_some, Slot.slot]
    rw [hstart, runNew_none htasks]
    rfl

/-- It is no failure without a text, and both kits can send the reply or neither. -/
def SameReply (go js : Encoder) (value : Report) : Prop :=
  value ≠ .failed "" ∧ go.reply (deliveryBody value) = js.reply (deliveryBody value)

theorem SameReply.body (same : SameReply go js reply) :
    Sessionbus.Worker.deliveryReply reply = deliveryBody reply := by
  cases reply with
  | failed text =>
    have texted : text ≠ "" := by
      rintro rfl
      exact same.1 rfl
    rw [deliveryBody, clean, if_neg texted]
    rfl
  | _ => rfl

/-- A delivery is refused when no run takes it, and otherwise answered as the product says, or the
connection ends. -/
theorem goOn_deliver (hopen : w.closed = false) (request : Request) (p : DeliveryRequest)
    (sequence : Nat) (same : SameReply go js reply) :
    w.view.goOn go reply expired (.deliver request p (some sequence)) =
      (if w.aborted sequence then w.error request .notRunning
      else w.deliveryReply js request reply).view := by
  have hcancelled := cancelled_view hopen sequence
  have hrun : (w.view.withTasks [.deliver request p (some sequence)]).runTask 0 reply
      (expired == some request.id) =
      if w.view.cancelled sequence then
        (w.view.withTasks []).write (.response request.id (.error { code := .notRunning }))
      else w.view.withTasks [.submitted request] := rfl
  have hsubmitted : (w.view.withTasks [.submitted request]).runTask 0 reply
      (expired == some request.id) = (w.view.withTasks []).write
      (.response request.id (Sessionbus.Worker.deliveryReply reply)) := rfl
  have hfails : w.view.replyFails go (.deliver request p (some sequence)) reply =
      (!w.view.cancelled sequence && !go.reply (Sessionbus.Worker.deliveryReply reply)) := rfl
  rw [hcancelled] at hrun hfails
  rw [same.body] at hsubmitted hfails
  cases haborted : w.aborted sequence with
  | true =>
    rw [haborted] at hrun hfails
    rw [if_pos rfl] at hrun ⊢
    rw [goOn_over hfails hrun rfl, error, view_send]
  | false =>
    rw [haborted] at hrun hfails
    rw [if_neg (by simp)] at hrun ⊢
    unfold deliveryReply
    rw [← same.2]
    cases hreply : go.reply (deliveryBody reply) with
    | true =>
      rw [hreply] at hfails
      rw [← hrun] at hsubmitted
      rw [if_pos rfl, goOn_turns hfails hsubmitted rfl, view_send]
    | false =>
      rw [hreply] at hfails
      rw [if_neg (by simp), Sessionbus.Worker.goOn, if_pos (by rw [hfails]; rfl)]
      rfl

theorem view_deliver (h : w₀.tasks = w.view.tasks) (hopen : w.closed = false) (request : Request)
    (p : DeliveryRequest) (safe : runSequence p.runID = runNumber p.runID)
    (same : SameReply go js reply) :
    Sessionbus.Worker.runNew go reply expired w₀ (w.view.deliver request p).start =
      (w.deliver js request p reply).view := by
  unfold Sessionbus.Worker.deliver deliver
  split
  · exact view_execute h request _ _ safe
  · have hrun : w.view.run = w.run.map Slot.slot := rfl
    rw [hrun]
    rcases w.run with _ | sequence | _
    · refine (runNew_spawn w h _).trans ?_
      exact (goOn_over rfl rfl rfl).trans (view_send w _).symm
    · exact (runNew_spawn w h _).trans (goOn_deliver hopen request p sequence same)
    · exact runNew_answer h request _

end

/-- The numbers in run IDs are safe integers. -/
def SafeRuns : Command → Prop
  | .execute p => Safe p.runID
  | .deliver p => Safe p.runID
  | .ack p => Safe p.runID
  | _ => True

theorem view_handle {w₀ : Sessionbus.Worker} (h : w₀.tasks = w.view.tasks)
    (hopen : w.closed = false) (request : Request) (reply : Report) (expired : Bool)
    (safe : SafeRuns request.command) (same : SameReply go js reply) :
    Sessionbus.Worker.runNew go reply (if expired then some request.id else none) w₀
        (w.view.handle request).start =
      (w.handle js request reply expired).view := by
  unfold Sessionbus.Worker.handle handle
  cases hcommand : request.command with
  | execute p =>
    rw [hcommand] at safe
    exact view_execute h request _ _ (runSequence_eq safe)
  | status p => exact view_read h request _ _ _
  | wait p => exact view_read h request _ _ _
  | ack p =>
    rw [hcommand] at safe
    exact view_ack h request _ (runSequence_eq safe)
  | interrupt p => exact view_interrupt h hopen request
  | close p => exact view_close h request
  | deliver p =>
    rw [hcommand] at safe
    exact view_deliver h hopen request p (runSequence_eq safe) same
  | openSession p => exact runNew_answer h request _
  | superseded =>
    have hlast : ∀ late, w.view.goOn go reply late (.superseded request) =
        (w.view.write (.response request.id (.result .empty))).hangUp := fun late =>
          goOn_last rfl rfl
    refine (runNew_spawn w h _).trans ((hlast _).trans ?_)
    simp only [result]
    rw [view_shutdown, view_send]

theorem view_serveRequest (hopen : w.closed = false) (request : Request) (reply : Report)
    (expired : Bool) (safe : SafeRuns request.command) (same : SameReply go js reply) :
    w.view.serveRequest go request reply expired =
      ((w.receive js request reply expired).changed none).view := by
  unfold Sessionbus.Worker.serveRequest
  rw [view_changed go]
  congr 1
  unfold Sessionbus.Worker.receiveRequest receive
  by_cases hnew : w.last < request.id
  · have hnew' : w.view.last < request.id := hnew
    rw [if_pos hnew, if_pos hnew']
    exact view_handle (w := { w with last := request.id }) rfl hopen request reply expired safe same
  · have hnew' : ¬ w.view.last < request.id := hnew
    have hlast : (w.view.write (.response request.id (.error { code := .invalidFrame }))).hangUp =
        (w.error request .invalidFrame).shutdown.view := by rw [view_shutdown, error, view_send]
    have htasks :
        (w.view.write (.response request.id (.error { code := .invalidFrame }))).hangUp.tasks =
        w.view.tasks :=
      tasks_write _ _
    rw [if_neg hnew, if_neg hnew']
    rw [hlast] at htasks ⊢
    rw [start_eq fun t ht => running_view _ ht, runNew_none htasks]

/-! ## The end of a run -/

theorem view_report (value : Report) (same : SameReply go js value) :
    w.view.serveReport go value = (w.report js value).view := by
  unfold Sessionbus.Worker.serveReport report
  cases hcurrent : w.current with
  | none =>
    have hturn : w.view.turn = none := by simp [view, hcurrent]
    rw [hturn]
  | some run =>
    have hturn : w.view.turn = some run.turn := by simp [view, hcurrent]
    rw [hturn]
    simp only
    by_cases hfirst : run.delivery.isSome ∧ run.receiptReported = false
    · have hfirst' : run.turn.seed.isSome ∧ run.turn.reported = false := hfirst
      rw [if_pos hfirst, if_pos hfirst', same.body, same.2]
      unfold deliveryReply
      cases js.reply (deliveryBody value) with
      | true =>
        rw [if_pos rfl, if_pos rfl, view_send]
        unfold Sessionbus.Worker.report
        rw [hturn]
        simp only
        rw [if_pos hfirst', same.body]
        rfl
      | false => rfl
    · have hfirst' : ¬ (run.turn.seed.isSome ∧ run.turn.reported = false) := hfirst
      rw [if_neg hfirst, if_neg hfirst']

section
variable {u : Sessionbus.Worker} {t : Turn} {state : RunState}

theorem write_setTurn (u : Sessionbus.Worker) (t : Turn) (frame : UpFrame) :
    (u.setTurn t).write frame = (u.write frame).setTurn t := by
  unfold Sessionbus.Worker.write
  show (if u.closed = true then _ else _) = _
  split <;> rfl

theorem announce_setTurn (hclosed : u.closed = false) (hcalls : u.calls = ∅)
    (hstage : t.stage = .returned state) (hreported : ¬ (t.seed.isSome ∧ t.reported = false)) :
    (u.setTurn t).announce = ({ u with
      next := u.next + 1
      calls := (∅ : Map Nat Waiting).insert (u.next + 1) (.ready t.sequence state) }.setTurn
        { t with stage := .ready (u.next + 1) }).write (.ready (u.next + 1)
          { sessionID := t.ref.sessionID, runID := t.ref.runID
            state := Sessionbus.Worker.readyState state }) := by
  have hroom :
      ¬ ((u.setTurn t).closed = true ∨ (u.setTurn t).calls.entries.length ≥ maxOperations) := by
    simp [Sessionbus.Worker.setTurn, hclosed, hcalls, maxOperations]
  have hturn : (u.setTurn t).turn = some t := rfl
  unfold Sessionbus.Worker.announce
  simp only [hturn, hstage]
  rw [if_neg hreported, if_neg hroom]
  rw [← hcalls]
  rfl

theorem erase_insert_empty (id : Nat) (value : Waiting) :
    ((∅ : Map Nat Waiting).insert id value).erase id = ∅ := by
  apply AList.ext
  have hentries : (((∅ : Map Nat Waiting).insert id value).erase id).entries =
      ((∅ : Map Nat Waiting).insert id value).entries.kerase id := rfl
  rw [hentries, AList.insert_empty]
  exact List.kerase_cons_eq rfl

theorem closed_write (u : Sessionbus.Worker) (frame : UpFrame) :
    (u.write frame).closed = u.closed := by
  unfold Sessionbus.Worker.write
  split <;> rfl

theorem next_write (u : Sessionbus.Worker) (frame : UpFrame) : (u.write frame).next = u.next := by
  unfold Sessionbus.Worker.write
  split <;> rfl

/-- The run is over, and nothing else has changed. -/
def endRun (u : Sessionbus.Worker) (sequence : Nat) (state : RunState) : Sessionbus.Worker :=
  { u with
    records := u.records.map fun r => if r.sequence = sequence then { r with state } else r
    run := if u.run = some (.turn sequence) then none else u.run
    turn := none }

theorem receiveResponse_ready (t : Turn) (state : RunState) {id : Nat} (ht : u.turn = some t)
    (hcalls : u.calls = (∅ : Map Nat Waiting).insert id (.ready t.sequence state)) :
    u.receiveResponse id (.result .empty) = { endRun u t.sequence state with calls := ∅ } := by
  have hlookup : u.calls.lookup id = some (.ready t.sequence state) := by
    rw [hcalls]
    exact AList.lookup_insert _
  unfold Sessionbus.Worker.receiveResponse
  rw [hlookup]
  simp only [if_true]
  rw [hcalls, erase_insert_empty]
  unfold Sessionbus.Worker.publish endRun
  simp only [ht, Option.any_some, beq_self_eq_true, if_true]

end

theorem view_observed (w : Worker) (sequence : Nat) (state : RunState) :
    (w.observed sequence state).view = endRun w.view sequence state := by
  have hrun : (w.observed sequence state).view.run = (endRun w.view sequence state).run := by
    show (if w.run = some (.run sequence) then none else w.run).map Slot.slot =
      if w.run.map Slot.slot = some (.turn sequence) then none else w.run.map Slot.slot
    rcases w.run with _ | n | _
    · rfl
    · by_cases hn : n = sequence <;> simp [Slot.slot, hn]
    · rfl
  unfold endRun at hrun ⊢
  simp only at hrun ⊢
  rw [← hrun]
  rfl

theorem closed_missing (w : Worker) (run : Run) : (w.missing run).closed = w.closed := by
  unfold missing send
  split
  · split <;> rfl
  · rfl

theorem reportMissing_view {run : Run} (state : RunState) (hcurrent : w.current = some run) :
    ∃ reported, ¬ (run.delivery.isSome ∧ reported = false) ∧
      (w.view.finish state).reportMissing =
        (w.missing run).view.setTurn { run.turn with stage := .returned state, reported } := by
  have hturn : w.view.turn = some run.turn := by simp [view, hcurrent]
  have hfinish :
      w.view.finish state = w.view.setTurn { run.turn with stage := .returned state } := by
    simp [Sessionbus.Worker.finish, hturn, Run.turn]
  have hmissing : (w.view.setTurn { run.turn with stage := .returned state }).reportMissing =
      (w.view.setTurn { run.turn with stage := .returned state }).report
      (.internal "native delivery receipt unavailable") :=
    rfl
  rw [hfinish, hmissing]
  unfold Sessionbus.Worker.report missing
  show ∃ reported, _ ∧ (if run.delivery.isSome ∧ run.receiptReported = false then _ else _) = _
  by_cases hfirst : run.delivery.isSome ∧ run.receiptReported = false
  · refine ⟨true, by simp, ?_⟩
    rw [if_pos hfirst, if_pos hfirst, view_send, ← write_setTurn]
    rfl
  · refine ⟨run.receiptReported, hfirst, ?_⟩
    rw [if_neg hfirst, if_neg hfirst]
    rfl

theorem announced {u : Sessionbus.Worker} {t : Turn} {state : RunState} (hclosed : u.closed = false)
    (hcalls : u.calls = ∅) (hstage : t.stage = .returned state)
    (hreported : ¬ (t.seed.isSome ∧ t.reported = false)) :
    let v := (u.setTurn t).announce
    v.closed = false ∧ v.receiveResponse v.next (.result .empty) =
      endRun ({ u with next := u.next + 1 }.write (.ready (u.next + 1)
        { sessionID := t.ref.sessionID, runID := t.ref.runID
          state := Sessionbus.Worker.readyState state })) t.sequence state := by
  intro v
  have hv := announce_setTurn hclosed hcalls hstage hreported
  have hopen : v.closed = false := by
    show ((u.setTurn t).announce).closed = false
    rw [hv, closed_write]
    exact hclosed
  have hnext : v.next = u.next + 1 := by
    show ((u.setTurn t).announce).next = _
    rw [hv, next_write]
    rfl
  refine ⟨hopen, ?_⟩
  rw [hnext]
  show ((u.setTurn t).announce).receiveResponse _ _ = _
  rw [hv]
  unfold Sessionbus.Worker.write
  rw [if_neg (by simp [Sessionbus.Worker.setTurn, hclosed]), if_neg (by simp [hclosed])]
  rw [receiveResponse_ready { t with stage := .ready (u.next + 1) } state rfl rfl]
  unfold endRun
  rw [hcalls]
  rfl

/-- The outcome passes in both kits. -/
def ValidOutcome (go js : Encoder) (ref : RunRef) (value : Except String TurnResult) : Prop :=
  go.status ⟨ref.sessionID, ref.runID, Sessionbus.Worker.finalState value true⟩ = true ∧
    js.status ⟨ref.sessionID, ref.runID, stateOf value⟩ = true

theorem stateOf_eq {value : Except String TurnResult}
    (h : Sessionbus.Worker.finalState value true ≠ .unavailable "") :
    stateOf value = Sessionbus.Worker.finalState value true := by
  cases value with
  | ok r => rfl
  | error text =>
    have htext : text ≠ "" := by
      rintro rfl
      exact h rfl
    simp [stateOf, clean, htext, Sessionbus.Worker.finalState]

theorem view_outcome (hopen : w.closed = false) {value : Except String TurnResult}
    (valid : ∀ run, w.current = some run → ValidOutcome go js run.ref value) :
    w.view.serveOutcome go value = (w.outcome js value).view := by
  unfold Sessionbus.Worker.serveOutcome outcome
  cases hcurrent : w.current with
  | none =>
    have hturn : w.view.turn = none := by simp [view, hcurrent]
    rw [hturn]
  | some run =>
    have hturn : w.view.turn = some run.turn := by simp [view, hcurrent]
    obtain ⟨hgo, hjs⟩ := valid run hcurrent
    have hstate := stateOf_eq (go.unavailable _ hgo)
    obtain ⟨reported, hreported, hmissing⟩ :=
      reportMissing_view (Sessionbus.Worker.finalState value true) hcurrent
    have hmissed : (w.missing run).closed = false := (closed_missing w run).trans hopen
    obtain ⟨hlive, hacked⟩ := announced (u := (w.missing run).view)
      (t := { run.turn with
        stage := .returned (Sessionbus.Worker.finalState value true), reported })
      hmissed rfl rfl hreported
    rw [← hmissing] at hlive hacked
    have hgo' : go.status ⟨run.turn.ref.sessionID, run.turn.ref.runID,
        Sessionbus.Worker.finalState value true⟩ = true := hgo
    rw [hstate] at hjs
    rw [hturn]
    simp only [hgo', hstate, hjs, if_true]
    rw [if_neg (by rw [hlive]; simp), hacked, view_changed go, view_observed, view_send]
    rfl

/-! ## Every event -/

/-- Run numbers are safe integers, and the outcome of the current run passes in both kits. -/
def Fits (go js : Encoder) (w : Worker) : KitEvent → Prop
  | .request _ command _ _ => SafeRuns command
  | .outcome value => ∀ run, w.current = some run → ValidOutcome go js run.ref value
  | _ => True

/-- What the product gives with the event is replied to alike. -/
def RepliesAlike (go js : Encoder) : KitEvent → Prop
  | .request _ _ reply _ => SameReply go js reply
  | .report value => SameReply go js value
  | _ => True

theorem view_serve {e : KitEvent} (fits : w.Fits go js e) (same : RepliesAlike go js e) :
    (w.serve js e).view = w.view.serve go e := by
  unfold serve Sessionbus.Worker.serve
  by_cases hclosed : w.closed = true
  · have hclosed' : w.view.closed = true := hclosed
    rw [if_pos hclosed, if_pos hclosed']
  · have hclosed' : ¬ w.view.closed = true := hclosed
    have hopen : w.closed = false := by simpa using hclosed
    rw [if_neg hclosed, if_neg hclosed']
    cases e with
    | request id command reply expired =>
      exact (view_serveRequest hopen { id, command } reply expired fits same).symm
    | report value => exact (view_report value same).symm
    | outcome value => exact (view_outcome hopen fits).symm
    | expire id => exact view_changed go w (some id)

/-- Every event fits the state it is handled in. -/
def AllFit (go js : Encoder) : Worker → List KitEvent → Prop
  | _, [] => True
  | w, e :: events => w.Fits go js e ∧ AllFit go js (w.serve js e) events

theorem view_serves {events : List KitEvent} (fits : AllFit go js w events)
    (same : ∀ e ∈ events, RepliesAlike go js e) :
    (w.serves js events).view = w.view.serves go events := by
  induction events generalizing w with
  | nil => rfl
  | cons e events ih =>
    have hserve := view_serve fits.1 (same e (by simp))
    show ((w.serve js e).serves js events).view = (w.view.serve go e).serves go events
    rw [← hserve]
    exact ih fits.2 fun e he => same e (by simp [he])

/-- Two kits that have opened the same session answer every sequence of events with the same frames
and records, if what the product gives is replied to alike. -/
theorem kits_answer_alike (go js : Encoder) (sessionID : String) (events : List KitEvent)
    (fits : AllFit go js { sessionID } events) (same : ∀ e ∈ events, RepliesAlike go js e) :
    let g := ({ sessionID } : Sessionbus.Worker).serves go events
    let j := ({ sessionID } : Worker).serves js events
    g.up = j.sent ∧ g.closed = j.closed ∧ g.generation = j.generation ∧
      g.lastSequence = j.lastSequence ∧ g.acknowledged = j.acknowledged ∧
      g.records.map Record.status = j.records.map Record.status := by
  intro g j
  have hview : j.view = g := view_serves fits same
  rw [← hview]
  exact ⟨rfl, rfl, rfl, rfl, rfl, rfl⟩

/-! A delivery that the product fails without a text: the Go kit has no reason to give and ends
the connection, the JavaScript kit answers with the name of the error. -/

def schemaEncoder : Encoder where
  reply b := decide (b ≠ .result (.receipt (.rejected "")))
  status s := decide (s.state ≠ .unavailable "")
  rejected := by simp
  unavailable s h := by simpa using h

def runAndDeliver (reply : Report) : List KitEvent :=
  [.request 1 (.execute { sessionID := "w", runID := "g/1", input := "go" }) .notRunning false,
    .request 2
    (.deliver
      { messageID := "m", source := { sessionID := "s", product := "p", groups := ["g"] },
        body := "hi" })
      reply false]

theorem runAndDeliver_fits (reply : Report) :
    AllFit schemaEncoder schemaEncoder { sessionID := "w" } (runAndDeliver reply) := by
  have hrun : runNumber "g/1" = some ("g", 1) := by decide +kernel
  have hnone : runNumber "" = none := by decide +kernel
  refine ⟨?_, ?_, trivial⟩
  · intro generation n hn
    rw [hrun] at hn
    cases hn
    decide
  · intro generation n hn
    rw [hnone] at hn
    cases hn

theorem kits_answer_alike_failed :
    let g :=
      ({ sessionID := "w" } : Sessionbus.Worker).serves schemaEncoder
      (runAndDeliver (.failed "lost"))
    let j := ({ sessionID := "w" } : Worker).serves schemaEncoder (runAndDeliver (.failed "lost"))
    g.up = j.sent ∧ j.sent.length = 2 := by
  have same : ∀ e ∈ runAndDeliver (.failed "lost"), RepliesAlike schemaEncoder schemaEncoder e := by
    intro e he
    simp only [runAndDeliver, List.mem_cons, List.not_mem_nil, or_false] at he
    rcases he with rfl | rfl <;> exact ⟨nofun, rfl⟩
  exact ⟨(kits_answer_alike schemaEncoder schemaEncoder "w" _ (runAndDeliver_fits _) same).1,
    by decide +kernel⟩

theorem kits_differ_without_text :
    let g :=
      ({ sessionID := "w" } : Sessionbus.Worker).serves schemaEncoder (runAndDeliver (.failed ""))
    let j := ({ sessionID := "w" } : Worker).serves schemaEncoder (runAndDeliver (.failed ""))
    AllFit schemaEncoder schemaEncoder { sessionID := "w" } (runAndDeliver (.failed "")) ∧
      g.closed = true ∧ g.up.length = 1 ∧
      j.sent = g.up ++ [.response 2 (.result (.receipt (.rejected "Error")))] := by
  intro g j
  exact ⟨runAndDeliver_fits _, by decide +kernel, by decide +kernel, by decide +kernel⟩

end Worker

end Sessionbus.Js
