import Sessionbus.Session.State

/-!
# What a session does with one event

`session.go`, `policy.go`, `delivery_queue.go`, `lane.go` and the request handlers of
`handlers.go`, as functions on the session's state. A function that answers, logs or writes
appends what it did to `history`.
-/

namespace Sessionbus

/-- The JSON value of an answer's value. -/
def Value.payload : Value → Payload
  | .empty => .empty
  | .receipt r => .receipt r
  | .ref r => .ref r
  | .status s => .status s
  | .description _ => .other
  | .spawned _ _ => .other
  | .sent _ _ => .other

def Answer.body : Answer → Body
  | .value v => .result v.payload
  | .error e => .error e

/-- `reason` of `handlers.go`. -/
def reason (code : Code) (fallback : String) : String :=
  match code with
  | .unknownHost => "unknown_host"
  | .busy => "busy"
  | .notConnected => "no_receipt"
  | .unknownSession => "unknown_session"
  | _ => fallback

/-- One recipient's answer in the result of a `message.send`. -/
def MessageSendDelivery.settle (delivery : MessageSendDelivery) (answer : Answer) :
    MessageSendDelivery :=
  match answer with
  | .error e =>
    { delivery with disposition := "rejected", reason := Sessionbus.reason e.code "no_receipt" }
  | .value (.receipt .written) => { delivery with disposition := "written", reason := "" }
  | .value (.receipt .injected) => { delivery with disposition := "injected", reason := "" }
  | .value (.receipt .queuedForNextTurn) =>
    { delivery with disposition := "queued_for_next_turn", reason := "" }
  | .value (.receipt (.rejected why)) => { delivery with disposition := "rejected", reason := why }
  | .value _ => { delivery with disposition := "rejected", reason := "no_receipt" }

def ReadyState.text : ReadyState → String
  | .done _ => "done"
  | .unavailable _ => "unavailable"

/-- `failure` of `launch.go`. -/
def failure (child : Option Child) (message : String) : ErrorData :=
  match child with
  | none => .process none [message]
  | some c => .process (if c.exit ≥ 0 then some c.exit else none) (c.stderr ++ [message])

/-- `unsupported` of `helpers.go`: the first option set that the worker does not support. -/
def unsupported (options : OpenOptions) (supported : List String) : String :=
  let fields := [("cwd", options.cwd != ""), ("permission_mode", options.permissionMode != ""),
    ("model", options.model != ""), ("reasoning_effort", options.reasoningEffort != ""),
    ("arguments", !options.arguments.isEmpty)]
  match fields.find? (fun f => f.2 && !supported.contains f.1) with
  | some f => f.1
  | none => ""

/-- `unqualify` of `helpers.go`: the part before the last `@`. -/
def unqualify (value : String) : String :=
  match value.toList.reverse.dropWhile (· != '@') with
  | [] => value
  | _ :: before => String.ofList before.reverse

namespace Session

@[simps toSessionCore nextOut wire stopping autoClose history]
def acts (s : Session) (l : List Act) : Session := { s with history := s.history ++ l }

@[simps toSessionCore nextOut wire stopping autoClose history]
def act (s : Session) (a : Act) : Session := { s with history := s.history ++ [a] }

@[simps toSessionCore nextOut wire stopping autoClose history]
def setPending (s : Session) (pending : Map Nat Pending) : Session := { s with pending }

@[simps toSessionCore nextOut wire stopping autoClose history]
def setDeferred (s : Session) (deferredDeliveries : List RoutedRequest) : Session :=
  { s with deferredDeliveries }

@[simps toSessionCore nextOut wire stopping autoClose history]
def setRequests (s : Session) (requests : Map Nat RequestState) : Session := { s with requests }

/-! ## The entry of the session

`admits`, `admitted`, `finishRun`, `current` and `detach` of `directory.go`, at the
session's own entry. -/

def attached (s : Session) : Bool := s.item.attachment == some s.self

/-- `current(s.identity, s)`. -/
def current (s : Session) : Bool := s.identity.isSome && s.listed && s.attached

@[simps toSessionCore nextOut wire stopping autoClose history]
def finishRun (s : Session) : Session :=
  { s with item := { s.item with running := if s.attached then false else s.item.running } }

def admits (s : Session) (method : Method) : Option Code :=
  if !s.attached then some .notConnected
  else if s.item.claimed && method != .deliver then some .busy
  else if method == .execute && s.item.running then some .busy
  else if method == .interrupt && !s.item.running then some .notRunning
  else none

def admitted (s : Session) (method : Method) : Session :=
  match method with
  | .execute => { s with item := { s.item with running := true } }
  | .close => { s with item := { s.item with claimed := true } }
  | _ => s

/-- A detached peer leaves the directory; a detached lane stays, claimed. -/
def detach (s : Session) : Session :=
  if s.attached then
    if s.item.peer then
      { s with item := { s.item with attachment := none, running := false, done := true },
               listed := false }
    else
      { s with item := { s.item with attachment := none, running := false, done := true,
                                     claimed := true } }
  else s

/-! ## Answers and responses -/

/-- A scheduled delivery has answered its caller; its later fate is only logged. -/
def answerAct (request : RoutedRequest) (answer : Answer) : Act :=
  if request.scheduled then .logged request answer else .answered request answer

@[simps! toSessionCore nextOut wire stopping autoClose history]
def answerRouted (s : Session) (request : RoutedRequest) (answer : Answer) : Session :=
  s.act (answerAct request answer)

/-- `s.result` and `s.error`. -/
def respond (env : Env) (s : Session) (id : Nat) (method : Method) (answer : Answer) : Session :=
  if env.encodesAnswer id method answer then
    match s.wire.send (.response id answer.body) with
    | (wire, true) => { s with wire }.act (.responded id)
    | (wire, false) => { s with wire := wire.close }
  else { s with wire := s.wire.close }

/-- A rejected frame ends the connection, after an error response if it was a request. -/
def reject (s : Session) (request : Bool) (id : Nat) (code : Code) : Session :=
  let s := { s with stopping := true }
  if request && id > 0 then
    match s.wire.finish (.response id (.error { code })) with
    | (wire, true) => { s with wire }.act (.responded id)
    | (wire, false) => { s with wire := wire.close }
  else { s with wire := s.wire.close }

/-- `RequestBytes` and `wire.Send`, as `issue` and the close and open paths call them. -/
def sendCommand (env : Env) (s : Session) (command : Command) : Session × Bool :=
  let id := s.nextOut + 1
  let s := { s with nextOut := id }
  if env.encodes id command then
    match s.wire.send (.request id command) with
    | (wire, true) => ({ s with wire }.act (.wrote id command), true)
    | (wire, false) => ({ s with wire }.act (.unsent id command true), false)
  else (s.act (.unsent id command false), false)

/-! ## Stopping -/

@[simps toSessionCore nextOut wire stopping autoClose history]
def recordStop (s : Session) (signal : Signal) : Session :=
  { s with
    stopping := true
    stopSignal := if s.stopSignal.isNone || signal == .kill then some signal else s.stopSignal
    wire := s.wire.close }

def orderlyStop (s : Session) : Session :=
  let s := s.recordStop .term
  if !s.processExited && !s.closeTimer then { s with closeTimer := true } else s

@[simps! toSessionCore nextOut wire stopping autoClose history]
def hardStop (s : Session) : Session := s.recordStop .kill

def abortLaunch (s : Session) (answer : Answer) : Session :=
  if s.launchResult.isSome || s.committed then s else { s with launchResult := some answer }

/-! ## Runs -/

@[simps toSessionCore nextOut wire stopping autoClose history]
def stopAutoClose (s : Session) : Session := { s with autoClose := false }

@[simps toSessionCore nextOut wire stopping autoClose history]
def setDeadline (s : Session) (at_ : Option Nat) : Session :=
  { s with deadline := at_, autoClose := at_.isSome }

def runText (generation : String) (sequence : Nat) : String :=
  generation ++ String.singleton '/' ++ Text.formatUint sequence

/-- Go counts in `uint64`, so the subtraction wraps. -/
def hasRunCapacity (s : Session) : Bool :=
  ((s.runSequence : Int) - s.acknowledgedSequence + s.deferredDeliveries.length) %
    18446744073709551616 < maxOperations

/-- The generation is drawn with the first run of the session. -/
def nextGeneration (s : Session) : String :=
  if s.runGeneration = "" then s.randomGeneration else s.runGeneration

@[simps toSessionCore nextOut wire stopping autoClose history]
def reserveRun (s : Session) : Session :=
  { s with
    runFromTrace := false
    runFromCompletion := false
    previousDeadline := s.deadline
    deadline := none
    autoClose := false
    runGeneration := s.nextGeneration
    runSequence := s.runSequence + 1
    runID := runText s.nextGeneration (s.runSequence + 1)
    history := s.history ++ [.reserved (s.runSequence + 1)] }

@[simps toSessionCore nextOut wire stopping autoClose history]
def clearRun (s : Session) (sequence : Nat) : Session :=
  { s with runID := "", runFromTrace := false, runFromCompletion := false, runSequence := sequence }

/-- Only a refused reservation gives its number back. -/
def refuseRun (s : Session) (id : String) : Session :=
  if s.runID ≠ id then s
  else (s.clearRun (s.runSequence - 1)).finishRun.setDeadline s.previousDeadline

/-- `refuseRun` on a worker's error, which `history` keeps apart from an unsent request. -/
def refusedByWorker (s : Session) (id : String) : Session :=
  if s.runID ≠ id then s else (s.act (.refused s.runSequence)).refuseRun id

def recordAcknowledgment (s : Session) (ref : RunRef) : Session :=
  match Text.cut ref.runID '/' with
  | none => s
  | some (generation, suffix) =>
    match Text.parseUint suffix with
    | none => s
    | some sequence =>
      if generation = s.runGeneration ∧ ref.sessionID = s.item.row.sessionID ∧
          sequence ≤ s.runSequence ∧ s.acknowledgedSequence < sequence then
        { s with acknowledgedSequence := sequence }.act (.acknowledged sequence)
      else s

/-! ## Close -/

/-- Every queued delivery leaves the queue unissued. -/
def settleDeferredDeliveries (s : Session) (code : Code) : Session :=
  (s.deferredDeliveries.foldl
    (fun s request => (s.act (.settled request code)).answerRouted request (.code code))
    s).setDeferred []

/-- `session.close` waits while the execute of a blocking run is unanswered. -/
def closeBlocked (s : Session) : Bool :=
  s.pending.values.any fun p => p.command.method == .close || p.command.method == .execute &&
    p.request.collect

def writeDeferredClose (env : Env) (s : Session) : Session :=
  match s.closeCall with
  | none => s
  | some request =>
    if s.closed || s.stopping then s
    else if s.closeBlocked then s
    else
      match request.call with
      | .close p =>
        let (s, ok) := s.sendCommand env (.close p)
        if ok then (s.admitted .close).setPending (s.pending.insert s.nextOut ⟨request, .close p⟩)
        else s.hardStop
      | _ => s

@[simps toSessionCore nextOut wire stopping autoClose history]
def holdClose (s : Session) (request : RoutedRequest) (forget : Bool) : Session :=
  { s with closeCall := some request, closeTimer := true, forget }

def beginClose (env : Env) (s : Session) (request : RoutedRequest)
    (p : SessionCloseRequest) : Session :=
  (((s.stopAutoClose.act .closing).settleDeferredDeliveries .busy).holdClose request
    p.forget).writeDeferredClose env

def policyClose (env : Env) (s : Session) : Session :=
  if s.stopping || s.closeCall.isSome || !s.committed then s
  else
    let p : SessionCloseRequest := { sessionID := s.item.row.sessionID }
    s.stopAutoClose.beginClose env { destination := s.identity, call := .close p, reply := .own } p

def ownerEnded (env : Env) (s : Session) (owner : Ptr) (ended : Bool) : Session :=
  if s.item.parent ≠ some owner || (s.item.row.policy.getD {}).persistent then s
  else if ended then s.policyClose env
  else s

/-! ## Issue -/

/-- The end of `issue`: write the request and wait for its response. -/
def write (env : Env) (s : Session) (request : RoutedRequest) (command : Command) : Session :=
  let (s, ok) := s.sendCommand env command
  if ok then
    let s := if request.runID ≠ "" then s.admitted .execute else s
    s.setPending (s.pending.insert s.nextOut ⟨request, command⟩)
  else
    let s := if request.runID ≠ "" then s.refuseRun request.runID else s
    s.answerRouted request (.code .notConnected)

/-- An execute that passed admission. -/
def execute (env : Env) (s : Session) (request : RoutedRequest) (collect : Bool)
    (input : String) : Session :=
  if !s.hasRunCapacity then s.answerRouted request (.code .busy)
  else
    let s := s.reserveRun
    s.write env { request with collect, runID := s.runID }
      (.execute { sessionID := s.item.row.sessionID, runID := s.runID, input })

/-- A delivery to an idle lane that passed admission: it becomes the seed of a run. -/
def seed (env : Env) (s : Session) (request : RoutedRequest) (p : DeliveryRequest) : Session :=
  if !s.hasRunCapacity then s.answerRouted request (.code .busy)
  else if s.closeCall.isSome then s.answerRouted request (.code .busy)
  else
    let s := s.reserveRun
    let s := { s with runFromTrace := request.traceCopy, runFromCompletion := request.completion }
    s.write env { request with runID := s.runID } (.deliver { p with runID := s.runID })

/-- The method `issue` asks admission for. -/
def issuedMethod (call : Call) : Method :=
  match call with
  | .run _ => .execute
  | .start _ => .execute
  | call => call.method

/-- The worker sees its canonical identity even when the caller selected the lane by an unqualified
ID. -/
def issue (env : Env) (s : Session) (request : RoutedRequest) : Session :=
  if s.closeCall.isSome && !request.collect then s.answerRouted request (.code .busy)
  else if s.pending.entries.length + s.deferredDeliveries.length ≥ maxPendingCalls then
    s.answerRouted request (.code .busy)
  else
    match s.admits (issuedMethod request.call) with
    | some code => s.answerRouted request (.code code)
    | none =>
      match request.call with
      | .close p => s.beginClose env request p
      | .run p => s.execute env request true p.input
      | .start p => s.execute env request false p.input
      | .deliver p =>
        if !s.item.peer && s.runID == "" then s.seed env request p
        else s.write env request (.deliver p)
      | .status p => s.write env request (.status { p with sessionID := s.item.row.sessionID })
      | .wait p => s.write env request (.wait { p with sessionID := s.item.row.sessionID })
      | .ack p => s.write env request (.ack { p with sessionID := s.item.row.sessionID })
      | .interrupt p => s.write env request (.interrupt p)

/-- One queued delivery at a time, while no run is current. The queue shortens with every pass. -/
def startDeferred (env : Env) : Nat → Session → Session
  | 0, s => s
  | fuel + 1, s =>
    match s.deferredDeliveries with
    | [] => s
    | request :: rest =>
      if s.runID = "" then
        startDeferred env fuel (((s.setDeferred rest).act (.started request)).issue env request)
      else s

def startDeferredDelivery (env : Env) (s : Session) : Session :=
  startDeferred env s.deferredDeliveries.length s

/-! ## Responses of the worker or peer -/

def finishCloseResponse (s : Session) (body : Body) : Session :=
  match body with
  | .error _ => { s with wire := s.wire.close }
  | .result payload =>
    match decodeResult .close payload with
    | none => { s with wire := s.wire.close }
    | some _ => s.orderlyStop

/-- The caller is answered now; the delivery waits for its run. -/
def enqueue (s : Session) (request : RoutedRequest) : Session :=
  let s := s.answerRouted request (.value (.receipt .queuedForNextTurn))
  let queued := { request with scheduled := true, reply := .none }
  (s.setDeferred (s.deferredDeliveries ++ [queued])).act (.queued queued)

/-- A delivery that the worker refused before submission is issued again as a seed, or queued. -/
def retain (env : Env) (s : Session) (request : RoutedRequest) : Session :=
  if s.runID = "" then s.issue env request
  else if !s.hasRunCapacity then s.answerRouted request (.code .busy)
  else s.enqueue request

def receiveError (env : Env) (s : Session) (p : Pending) (e : RPCError) : Session :=
  if e.code = .notRunning ∧ p.command.method = .deliver ∧ p.request.runID = "" ∧
      s.item.peer = false ∧ s.closeCall = none then
    s.retain env p.request
  else
    let s :=
      if p.request.runID ≠ "" ∧ (p.command.method = .execute ∨ e.code ≠ .internal) then
        s.refusedByWorker p.request.runID
      else s
    (s.answerRouted p.request (.error e)).startDeferredDelivery env

def receiveValue (env : Env) (s : Session) (p : Pending) (value : Value) : Session :=
  match p.command, value with
  | .execute _, .ref ref =>
    if ref.runID ≠ p.request.runID ∨ ref.sessionID ≠ s.item.row.sessionID then
      { s with wire := s.wire.close }.answerRouted p.request (.code .notConnected)
    else if p.request.collect then
      s.issue env { p.request with
        call := .wait { sessionID := ref.sessionID, runID := ref.runID }, runID := "" }
    else s.answerRouted p.request (.value value)
  | .ack ref, _ => (s.recordAcknowledgment ref).answerRouted p.request (.value value)
  | _, _ => s.answerRouted p.request (.value value)

def receiveMatched (env : Env) (s : Session) (p : Pending) (body : Body) : Session :=
  if p.request.destination ≠ s.identity || !s.current then
    s.answerRouted p.request (.code .notConnected)
  else if p.command.method = .close then s.finishCloseResponse body
  else
    match body with
    | .error e => s.receiveError env p e
    | .result payload =>
      match decodeResult p.command.method payload with
      | none => { s with wire := s.wire.close }.answerRouted p.request (.code .notConnected)
      | some value => s.receiveValue env p value

@[simps! toSessionCore nextOut wire stopping autoClose history]
def take (s : Session) (id : Nat) : Session := s.setPending (s.pending.erase id)

def receiveResponse (env : Env) (s : Session) (id : Nat) (body : Body) : Session :=
  match s.pending.lookup id with
  | none => { s with stopping := true, wire := s.wire.close }
  | some p =>
    let s' := (s.take id).receiveMatched env p body
    if p.command.method = .execute ∧ p.request.collect then s'.writeDeferredClose env else s'

/-! ## Client requests -/

/-- Some `turn.run` on the target is still registered. -/
def runPending (s : Session) (target : Option Ptr) (targetID : String) : Bool :=
  s.requests.values.any fun state =>
    state.method == .run && (target.isSome && state.target == target || targetID != "" &&
      state.targetID == targetID)

/-- A close with a held answer on the target of `state`. -/
def heldFor (state : RequestState) (close : RequestState) : Bool :=
  close.method == .close && close.held.isSome &&
    (close.target.isSome && close.target == state.target ||
      close.targetID != "" && close.targetID == state.targetID)

/-- The first part of `finishRequest`: the request leaves the table and is answered. -/
def finishOne (env : Env) (s : Session) (id : Nat) (state : RequestState)
    (result : Answer) : Session :=
  (s.setRequests (s.requests.erase id)).respond env id state.method result

/-- The last run of a target releases a held close. The loop over the table returns after the call
for it. -/
def finishRequest (env : Env) (s : Session) (id : Nat) (state : RequestState)
    (result : Answer) : Session :=
  let s := s.finishOne env id state result
  if state.method ≠ .run || s.runPending state.target state.targetID then s
  else
    match s.requests.entries.find? (fun e => heldFor state e.2) with
    | none => s
    | some ⟨closeID, close⟩ => s.finishOne env closeID close (close.held.getD (.value .empty))

def consumeReply (env : Env) (s : Session) (requestID leg : Nat) (answer : Answer) : Session :=
  let s := { s with owned := s.owned - 1 }
  match s.requests.lookup requestID with
  | none => s
  | some state =>
    if state.method = .send ∧ state.aggregate = false then
      let state := { state with
        deliveries := state.deliveries.modify leg (MessageSendDelivery.settle · answer),
          pending := state.pending - 1 }
      if state.pending ≠ 0 then { s with requests := s.requests.insert requestID state }
      else s.finishOne env requestID state (.value (.sent state.messageID state.deliveries))
    else
      match state.method, answer with
      | .close, .value v =>
        if s.runPending state.target state.targetID then
          { s with requests := s.requests.insert requestID { state with held := some (.value v) } }
        else s.finishRequest env requestID state answer
      | _, _ => s.finishRequest env requestID state answer

def detachRequests (env : Env) (s : Session) (code : Code) : Session :=
  s.requests.entries.foldl (fun s e => s.respond env e.1 e.2.method (.code code)) (s.setRequests ∅)

def supersede (env : Env) (s : Session) : Session :=
  if s.stopping then s
  else
    let s := { s with stopping := true }.detachRequests env .superseded
    let id := s.nextOut + 1
    let s := { s with nextOut := id }
    if env.encodes id .superseded then
      match s.wire.finish (.request id .superseded) with
      | (wire, true) => { s with wire }.act (.wrote id .superseded)
      | (wire, false) => { s with wire := wire.close }.act (.unsent id .superseded true)
    else { s with wire := s.wire.close }.act (.unsent id .superseded false)

/-! ## The end of a connection -/

/-- The close in progress is answered when the lane has finished. -/
def settleOne (code : Code) (s : Session) (p : Pending) : Session :=
  let s := if p.command.method = .run then s.finishRun else s
  if s.closeCall.any (fun close => close.reply == p.request.reply) then s
  else s.answerRouted p.request (.code code)

def settlePending (s : Session) (code : Code) : Session :=
  let s := s.settleDeferredDeliveries code
  (s.pending.values.foldl (settleOne code) s).setPending ∅

@[simps toSessionCore nextOut wire stopping autoClose history]
def markClosed (s : Session) : Session :=
  { s with stopping := true, closed := true, autoClose := false, wire := s.wire.ownerClosed }

def connectionClosed (s : Session) : Session :=
  if s.closed then s
  else (((s.markClosed.act .disconnected).detach).settlePending .notConnected).setRequests ∅

/-! ## turn.ready -/

def completionBody (value : TurnReady) : String :=
  "Lane " ++ value.sessionID ++ " run " ++ value.runID ++ " is " ++ ReadyState.text value.state ++
    ". Collect with the public wait action (session_id=" ++ value.sessionID ++ ", run_id=" ++
    value.runID ++ "), then use the public ack action after collecting."

def notifyCompletion (s : Session) (value : TurnReady)
    (fromTrace fromCompletion : Bool) : Session :=
  let policy := s.item.row.policy.getD {}
  if policy.notify && !fromCompletion && s.closeCall.isNone then
    let target := if policy.persistent then policy.notifyTarget else policy.ownerSessionID
    if target ≠ "" then
      { s with owned := s.owned + 1 }.act (.notified target (completionBody value) (!fromTrace))
    else s
  else s

/-- The current run ends: its ID, its origin and the entry's running mark are cleared. -/
def endRun (s : Session) : Session := (s.clearRun s.runSequence).finishRun

/-- A finished run arms the auto-close deadline of a lane that is not closing. -/
def armDeadline (s : Session) (state : ReadyState) : Session :=
  let policy := s.item.row.policy.getD {}
  match state with
  | .done _ =>
    if policy.autoCloseMS > 0 && s.closeCall.isNone then
      s.setDeadline (some (s.clock + policy.autoCloseMS))
    else s
  | .unavailable _ => s

/-- The ready frame is acknowledged before any later command. -/
def settleTurn (env : Env) (s : Session) (id : Nat) (value : TurnReady) : Session :=
  (s.endRun.armDeadline value.state).respond env id .ready (.value .empty)

/-- `turn.ready` names the current run of a lane. -/
def readyMatches (s : Session) (value : TurnReady) : Bool :=
  s.launch.isSome && value.sessionID == s.item.row.sessionID && s.runID != "" &&
    value.runID == s.runID

def turnReady (env : Env) (s : Session) (id : Nat) (value : TurnReady) : Session :=
  if s.readyMatches value then
    ((s.settleTurn env id value).startDeferredDelivery env).notifyCompletion value s.runFromTrace
      s.runFromCompletion
  else s.reject true id .invalidFrame

/-! ## Hellos and opening -/

/-- `installPeer` gives the session a new entry that it is attached to. -/
def installIdentity (s : Session) (entry : Ptr) (row : Row)
    (declaredGroups : List String) : Session :=
  { s with
    identity := some entry
    item := { row, declaredGroups, peer := true, attachment := some s.self }
    listed := true }

def peerHello (env : Env) (s : Session) (id : Nat) (install : Install) : Session :=
  if s.identity.isSome && !s.item.peer then s.reject true id .invalidHello
  else
    match install with
    | .refused => s.reject true id .invalidHello
    | .renamed name =>
      { s with item := { s.item with row := { s.item.row with name } } }.respond env id .hello
        (.value .empty)
    | .installed entry row declaredGroups =>
      let s :=
        if s.identity.isSome then (s.settlePending .notConnected).detachRequests env .superseded
        else s
      (s.installIdentity entry row declaredGroups).respond env id .hello (.value .empty)

def beginOpen (env : Env) (s : Session) (fresh : Bool) : Session :=
  let row := s.item.row
  let resume := if fresh then "" else unqualify row.sessionID
  let (s, ok) := s.sendCommand env (.openSession
    { policy := row.policy, name := row.name, groups := row.groups, resumeSessionID := resume,
      options := row.openOptions })
  if ok then { s with openID := s.nextOut }
  else
    (s.abortLaunch (.error
      { code := .spawnFailed, data := failure s.child "worker closed before open" })).hardStop

def claimLane (s : Session) (start : LaneStart) : Session :=
  { s with
    launch := some start.launch, identity := some start.entry, owned := 1
    item := { row := start.row, parent := start.parent, claimed := true } }

/-- A description, or an option the worker does not support, ends the connection after the hello's
answer. -/
def startLane (env : Env) (s : Session) (start : LaneStart) (id : Nat) : Session :=
  let s := s.claimLane start
  let field :=
    if !start.describe && !start.hello.supportsMessageRun then "idle_message"
    else unsupported start.row.openOptions start.hello.supportedOpenFields
  if start.describe || field ≠ "" then
    let result : Answer := if field ≠ "" then .code .unsupportedOpen else .value
      (.description start.hello)
    let (wire, ok) := s.wire.finish (.response id (.result .empty))
    { s with wire, launchResult := some result, stopping := true }.acts
      (if ok then [.responded id] else [])
  else (s.respond env id .hello (.value .empty)).beginOpen env start.fresh

/-- `publish`: the reserved entry is the directory's and is attached to the session. -/
def commit (s : Session) (row : Row) : Session :=
  { s with
    item := { s.item with row, claimed := false, attachment := some s.self }
    listed := true
    committed := true }

def finishOpen (env : Env) (s : Session) (body : Body) : Session :=
  let s := { s with openID := 0 }
  match env.opened body with
  | .failed answer hard =>
    if hard then (s.abortLaunch answer).hardStop else (s.abortLaunch answer).orderlyStop
  | .committed row => s.commit row

/-! ## Frames and events -/

def firstHello (env : Env) (s : Session) : InFrame → Session
  | .request id value =>
    if id ≤ s.lastIn then s.reject true id .invalidHello
    else
      match value with
      | .peerHello install => { s with lastIn := id }.peerHello env id install
      | .workerHello (some start) => { s with lastIn := id }.startLane env start id
      | .workerHello none => { s with lastIn := id }.reject true id .invalidHello
      | .undecodable .hello => { s with lastIn := id }.reject true id .invalidHello
      | _ => s.reject true id .invalidHello
  | .response id _ => s.reject false id .invalidHello
  | .invalid request id => s.reject request id .invalidHello

/-- `handleRequest` and `dispatchRequest` for the requests other than `turn.ready`. -/
def clientRequest (env : Env) (s : Session) (id : Nat) (method : Method)
    (verdict : Verdict) : Session :=
  if !s.current then s.supersede env
  else if s.requests.entries.length ≥ maxOperations then s.respond env id method (.code .busy)
  else
    match verdict with
    | .respond answer => s.respond env id method answer
    | .reject code => s.reject true id code
    | .register state legs =>
      { s with requests := s.requests.insert id { state with method, held := none },
               owned := s.owned + legs }

def handleRequest (env : Env) (s : Session) (id : Nat) (value : InRequest) : Session :=
  if id ≤ s.lastIn then s.reject true id .invalidFrame
  else
    let s := { s with lastIn := id }
    match value with
    | .peerHello install =>
      if s.launch.isSome then s.reject true id .invalidHello else s.peerHello env id install
    | .workerHello _ => s.reject true id .invalidHello
    | .undecodable method =>
      if method = .hello then s.reject true id .invalidHello
      else if s.launch.isSome && !s.committed then s.respond env id method (.code .notCommitted)
      else s.reject true id .invalidFrame
    | .ready p =>
      if s.launch.isSome && !s.committed then s.respond env id .ready (.code .notCommitted)
      else if !s.current then s.supersede env
      else s.turnReady env id p
    | .client method verdict =>
      if s.launch.isSome && !s.committed then s.respond env id method (.code .notCommitted)
      else s.clientRequest env id method verdict

def handleFrame (env : Env) (s : Session) (frame : InFrame) : Session :=
  if s.identity.isNone then s.firstHello env frame
  else
    match frame with
    | .invalid request id => s.reject request id .invalidFrame
    | .response id body =>
      if s.launch.isSome && id == s.openID then s.finishOpen env body
      else s.receiveResponse env id body
    | .request id value => s.handleRequest env id value

def handleClosed (s : Session) : Session :=
  let s := s.connectionClosed
  if s.launch.isSome then
    let s :=
      if !s.committed && s.launchResult.isNone then
        s.abortLaunch
        (.error { code := .spawnFailed, data := failure s.child "worker exited before open" })
      else s
    s.orderlyStop
  else s

def handleRouted (env : Env) (s : Session) (request : RoutedRequest) : Session :=
  if s.stopping || request.destination ≠ s.identity || s.launch.isSome && !s.committed then
    s.answerRouted request (.code .notConnected)
  else s.issue env request

def processStarted (s : Session) (launch : Ptr) (child : Child) : Session :=
  if s.launch ≠ some launch then s else { s with child := some child }

def handleExit (s : Session) (launch : Ptr) (error : Option String) : Session :=
  if s.launch ≠ some launch then s
  else if s.processExited then s
  else
    let s := { s with processExited := true, owned := s.owned - 1 }
    let s := if s.committed && !s.closed && !s.closeTimer then { s with closeTimer := true } else s
    match error with
    | some text =>
      if s.launchResult.isNone && !s.committed then
        s.abortLaunch (.error { code := .spawnFailed, data := failure none text })
      else s
    | none => s

def spawnTimedOut (s : Session) : Session := (s.abortLaunch (.code .timeout)).hardStop

/-- One pass of the run loop. A timer that is not armed does not fire. -/
def handleEvent (env : Env) (s : Session) : Event → Session
  | .ownerEnd owner ended => s.ownerEnded env owner ended
  | .frame value => if s.stopping then s else s.handleFrame env value
  | .closed => s.handleClosed
  | .routed q => s.handleRouted env q.request
  | .reply requestID leg answer => s.consumeReply env requestID leg answer
  | .supersede => s.supersede env
  | .processStarted launch child => s.processStarted launch child
  | .processExited launch error => s.handleExit launch error
  | .spawnTimeout launch => if s.launch = some launch && !s.committed then s.spawnTimedOut else s
  | .autoCloseFired => if s.autoClose then { s with autoClose := false }.policyClose env else s
  | .closeTimerFired => if s.closeTimer then { s with closeTimer := false }.hardStop else s
  | .shutdown =>
    let s :=
      if s.launch.isSome && !s.committed then
        s.abortLaunch (.error { code := .internal, data := .text "daemon shutting down" })
      else s
    s.orderlyStop
  | .written => { s with wire := s.wire.taken }
  | .readEnded => { s with wire := s.wire.readEnded }
  | .clock now => { s with clock := now }

def handleEvents (env : Env) (s : Session) (events : List Event) : Session :=
  events.foldl (handleEvent env) s

end Session

end Sessionbus
