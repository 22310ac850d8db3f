import Sessionbus.Protocol

/-!
# The communication log

`commslog.go`: `Emit` numbers an event and queues its line, or counts the number as lost; a gap line
stands for a run of lost numbers. One goroutine takes lines from the queue and hands them to the
sink. `json.Marshal` is a parameter, and so is the time that the clock gives.
-/

namespace Sessionbus.CommsLog

/-! ## Events -/

inductive Mode
  | off | metadata | content | other
deriving DecidableEq, Repr

inductive EventType
  | lifecycle | request | receipt | other
deriving DecidableEq, Repr

structure Endpoint where
  sessionID : String := ""
  host : String := ""
  target : String := ""
  targets : List String := []
  product : String := ""
  name : String := ""
  groups : List String := []
deriving DecidableEq, Repr

structure DeliveryReceipt where
  deliveryID : String := ""
  disposition : String
  reason : String := ""
deriving DecidableEq, Repr

structure Event where
  type : EventType
  method : String
  messageID : String := ""
  deliveryID : String := ""
  runID : String := ""
  errorCode : Int := 0
  state : String := ""
  outcome : String := ""
  sender : Option Endpoint := none
  receiver : Option Endpoint := none
  receipt : Option DeliveryReceipt := none
  body : String := ""
deriving DecidableEq, Repr

def maximumLabelBytes : Nat := 1024

def maximumGroups : Nat := 4096

def validEndpoint : Option Endpoint → Bool
  | none => true
  | some e => e.targets.length ≤ 256 && e.groups.length ≤ maximumGroups && e.targets.all (· ≠ "")

def validMethod (method : String) : Bool := method ≠ "" && method.utf8ByteSize ≤ maximumLabelBytes

def states : List String :=
  ["", "starting", "ready", "connected", "running", "idle", "settled", "closing", "closed",
    "disconnected", "superseded"]

def outcomes : List String :=
  ["", "accepted", "rejected", "completed", "failed", "canceled", "unavailable", "no_agent",
    "interrupted", "no_receipt", "not_submitted"]

def validReceipt : Option DeliveryReceipt → Bool
  | none => false
  | some r =>
    if ["written", "injected", "queued_for_next_turn"].contains r.disposition then r.reason == ""
    else r.disposition == "rejected" && r.reason != ""

def validEvent (event : Event) : Bool :=
  validMethod event.method && states.contains event.state && outcomes.contains event.outcome &&
    validEndpoint event.sender && validEndpoint event.receiver &&
    (event.body == "" || event.type == .request && event.method == "message.send") &&
    match event.type with
    | .lifecycle | .request => event.receipt.isNone
    | .receipt => validReceipt event.receipt
    | .other => false

/-! ## Records -/

structure GapRecord where
  first : Nat
  last : Nat
  count : Nat
deriving DecidableEq, Repr

/-- `diskRecord`: the line of an event, or of a gap. -/
structure DiskRecord where
  host : String
  incarnation : String
  sequence : Nat
  utc : Nat
  event : Option Event := none
  gap : Option GapRecord := none
deriving DecidableEq, Repr

structure PendingGap where
  first : Nat
  last : Nat
  count : Nat
  time : Nat
deriving DecidableEq, Repr

/-- `raw` is `none` where the source has a nil slice, and `record` is what was marshalled. -/
structure QueuedRecord where
  record : DiskRecord
  raw : Option (List UInt8)
  events : Nat := 0
  isGap : Bool := false
deriving DecidableEq, Repr

def QueuedRecord.size (r : QueuedRecord) : Nat := (r.raw.getD []).length

/-- `Stats`, without the count of gap records. -/
structure Stats where
  lastSequence : Nat := 0
  written : Nat := 0
  lostInvalid : Nat := 0
  lostOverflow : Nat := 0
  lostWrite : Nat := 0
  writeErrors : Nat := 0
deriving DecidableEq, Repr

structure Options where
  mode : Mode
  host : String
  incarnation : String
  maxFileBytes : Nat
  maxQueueBytes : Nat
  sessions : List String := []
  groups : List String := []
  marshal : DiskRecord → Option (List UInt8)

/-- Where `writeLoop` is: it takes a line, waits on `notify`, has handed a line to the sink, has its
result but not the lock, closes the sink, or has returned. -/
inductive Loop
  | taking | waiting
  | writing (record : QueuedRecord) | wrote (record : QueuedRecord)
  | broken (record : QueuedRecord) (error : String)
  | closing | unclosed (error : String) | returned
deriving DecidableEq, Repr

/-- `handed` are the records that the sink was given, `stored` those that it took. -/
structure Logger where
  options : Options
  queue : List QueuedRecord := []
  queueBytes : Int := 0
  gap : Option PendingGap := none
  closing : Bool := false
  notify : Bool := false
  err : Option String := none
  stats : Stats := {}
  loop : Loop := .taking
  handed : List DiskRecord := []
  stored : List DiskRecord := []

def newLogger (options : Options) : Logger := { options }

namespace Logger

def logs (l : Logger) : Bool := l.options.mode == .metadata || l.options.mode == .content

def matchesEndpoint (l : Logger) : Option Endpoint → Bool
  | none => false
  | some e => l.options.sessions.contains e.sessionID || e.groups.any l.options.groups.contains

def matchesEvent (l : Logger) (event : Event) : Bool :=
  l.options.sessions.isEmpty && l.options.groups.isEmpty || l.matchesEndpoint event.sender ||
    l.matchesEndpoint event.receiver

/-! ## Emit -/

def recordInvalid (l : Logger) : Logger :=
  if l.closing || l.err.isSome then l
  else { l with stats := { l.stats with lostInvalid := l.stats.lostInvalid + 1 } }

/-- `addGap`. -/
def nextGap (gap : Option PendingGap) (sequence time : Nat) : PendingGap :=
  match gap with
  | none => { first := sequence, last := sequence, count := 1, time }
  | some g => { g with last := sequence, count := g.count + 1 }

def gapLine (l : Logger) (g : PendingGap) : QueuedRecord :=
  let record : DiskRecord :=
    { host := l.options.host, incarnation := l.options.incarnation, sequence := g.last,
      utc := g.time
      gap := some { first := g.first, last := g.last, count := g.count } }
  { record, raw := l.options.marshal record, isGap := true }

/-- The number is taken and no line stands for it. -/
def lose (l : Logger) (sequence time : Nat) : Logger :=
  { l with
    gap := some (nextGap l.gap sequence time)
    stats := { l.stats with lastSequence := sequence, lostOverflow := l.stats.lostOverflow + 1 } }

/-- The lines go to the end of the queue, up to this number. -/
@[simps]
def enqueue (l : Logger) (lines : List QueuedRecord) (gap : Option PendingGap)
    (sequence : Nat) : Logger :=
  { l with
    queue := l.queue ++ lines
    queueBytes := l.queueBytes + (lines.foldl (fun n r => n + r.size) 0 : Nat)
    gap
    notify := true
    stats := { l.stats with lastSequence := sequence } }

/-- The lines that `Emit` queues: that of the pending gap, if there is one, and the event's. -/
def queued (l : Logger) (gap : Option QueuedRecord) (line : QueuedRecord) : Logger :=
  match gap.filter (·.raw.isSome) with
  | some g => l.enqueue [g, line] none line.record.sequence
  | none => l.enqueue [line] l.gap line.record.sequence

/-- `Emit` from the lock on. -/
def admitEvent (l : Logger) (event : Event) (now : Nat) : Logger × Bool :=
  if l.closing || l.err.isSome then (l, false)
  else
    let sequence := l.stats.lastSequence + 1
    let record : DiskRecord :=
      { host := l.options.host, incarnation := l.options.incarnation, sequence, utc := now,
        event := some event }
    match l.options.marshal record with
    | none => (l.lose sequence now, false)
    | some raw =>
      if raw.length > l.options.maxQueueBytes || raw.length > l.options.maxFileBytes then
        (l.lose sequence now, false)
      else
        let gap := l.gap.map l.gapLine
        let gapSize := (gap.map (·.size)).getD 0
        if l.queueBytes + (raw.length + gapSize : Nat) > l.options.maxQueueBytes ||
            gapSize > l.options.maxFileBytes then
          (l.lose sequence now, false)
        else (l.queued gap { record, raw := some raw, events := 1 }, true)

def emit (l : Logger) (event : Event) (now : Nat) : Logger × Bool :=
  if !l.logs || !l.matchesEvent event then (l, false)
  else if !validEndpoint event.sender || !validEndpoint event.receiver then (l.recordInvalid, false)
  else
    let event := if l.options.mode = .content then event else { event with body := "" }
    if validEvent event then l.admitEvent event now else (l.recordInvalid, false)

/-! ## The write loop -/

/-- The loop has this record: it hands it to the sink, or waits when there is none. -/
def handle (l : Logger) (r : QueuedRecord) : Logger :=
  if r.raw.isNone then { l with loop := .waiting }
  else { l with loop := .writing r, handed := l.handed ++ [r.record] }

/-- `take`, and what the loop does with its result. -/
def take (l : Logger) : Logger :=
  match l.queue with
  | r :: rest => { l with queue := rest }.handle r
  | [] =>
    if !l.closing then { l with loop := .waiting }
    else
      match l.gap with
      | some g => { l with gap := none }.handle (l.gapLine g)
      | none => { l with loop := .closing }

/-- The statistics of a line that the sink took. -/
def account (l : Logger) (r : QueuedRecord) : Logger :=
  { l with
    stats := if r.isGap then l.stats else { l.stats with written := l.stats.written + r.events }
    queueBytes := l.queueBytes - r.size
    loop := .taking }

def fail (l : Logger) (error : String) (current : Nat) : Logger :=
  if l.err.isSome then { l with loop := .returned }
  else
    { l with
      err := some error
      closing := true
      stats := { l.stats with
        writeErrors := l.stats.writeErrors + 1
        lostWrite := l.stats.lostWrite + current + l.queue.foldl (fun n r => n + r.events) 0 }
      queue := []
      queueBytes := 0
      gap := none
      loop := .returned }

/-- `Close` up to the wait for the loop. -/
def close (l : Logger) : Logger :=
  if !l.logs || l.closing then l else { l with closing := true, notify := true }

/-- What `Close` returns, once it returns. -/
def closeResult (l : Logger) : Option (Option String) :=
  if !l.logs then some none else if l.loop = .returned then some l.err else none

inductive Step
  | emit (event : Event) (now : Nat)
  | close
  | take
  | notified
  | sinkTook
  | sinkFailed (error : String)
  | locked
  | sinkClosed
  | sinkUnclosed (error : String)
deriving Repr

def step (l : Logger) : Step → Logger
  | .emit event now => (l.emit event now).1
  | .close => l.close
  | .take => if l.loop = .taking then l.take else l
  | .notified =>
    if l.loop = .waiting ∧ l.notify = true then { l with loop := .taking, notify := false } else l
  | .sinkTook =>
    match l.loop with
    | .writing r => { l with loop := .wrote r, stored := l.stored ++ [r.record] }
    | _ => l
  | .sinkFailed error =>
    match l.loop with
    | .writing r => { l with loop := .broken r error }
    | _ => l
  | .locked =>
    match l.loop with
    | .wrote r => l.account r
    | .broken r error => l.fail error r.events
    | .unclosed error => l.fail error 0
    | _ => l
  | .sinkClosed => if l.loop = .closing then { l with loop := .returned } else l
  | .sinkUnclosed error => if l.loop = .closing then { l with loop := .unclosed error } else l

def run (l : Logger) (steps : List Step) : Logger := steps.foldl step l

end Logger

end Sessionbus.CommsLog
