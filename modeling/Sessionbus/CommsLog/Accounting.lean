import Sessionbus.CommsLog.Spec
import Sessionbus.Tiling

/-!
# What the log accounts for

The lines that were handed to the sink and those still in the queue tile the numbers of the events,
and the pending gap stands for the rest.
-/

namespace Sessionbus.CommsLog

open Tiling

/-! ## Lines -/

/-- The numbers that a line stands for. -/
def DiskRecord.range (r : DiskRecord) : Nat × Nat :=
  match r.gap with
  | some g => (g.first, g.last)
  | none => (r.sequence, r.sequence)

/-- The line's own number is its last one, and a gap counts its numbers. -/
def DiskRecord.Whole (r : DiskRecord) : Prop :=
  r.sequence = r.range.2 ∧ ∀ g, r.gap = some g → g.count + g.first = g.last + 1

/-- A line that has text, and counts as an event unless it is a gap. -/
structure QueuedRecord.Line (r : QueuedRecord) : Prop where
  whole : r.record.Whole
  raw : r.raw.isSome = true
  events : r.events = if r.isGap then 0 else 1

/-- The record that the loop has taken and not yet accounted for. -/
def Loop.inHand : Loop → Option QueuedRecord
  | .writing r | .wrote r | .broken r _ => some r
  | _ => none

/-- The record that the sink was given and has not taken. -/
def Loop.refused : Loop → List DiskRecord
  | .writing r | .broken r _ => [r.record]
  | _ => []

def Loop.ending : Loop → Bool
  | .closing | .unclosed _ | .returned => true
  | _ => false

def queuedEvents (queue : List QueuedRecord) : Nat := queue.foldl (fun n r => n + r.events) 0

theorem foldl_events (queue : List QueuedRecord) (n : Nat) :
    queue.foldl (fun n r => n + r.events) n = n + queuedEvents queue := by
  unfold queuedEvents
  induction queue generalizing n with
  | nil => rfl
  | cons r rest ih =>
    rw [List.foldl_cons, List.foldl_cons, ih, ih (0 + r.events)]
    omega

@[simp]
theorem queuedEvents_cons (r : QueuedRecord) (rest : List QueuedRecord) :
    queuedEvents (r :: rest) = r.events + queuedEvents rest := by
  rw [← foldl_events rest r.events, queuedEvents, List.foldl_cons, Nat.zero_add]

@[simp]
theorem queuedEvents_append (left right : List QueuedRecord) :
    queuedEvents (left ++ right) = queuedEvents left + queuedEvents right := by
  rw [← foldl_events right, queuedEvents, List.foldl_append, ← queuedEvents]

/-- The events queued or being written. -/
def Logger.outstanding (l : Logger) : Nat :=
  queuedEvents l.queue + (l.loop.inHand.map (·.events)).getD 0

/-- The pending gap goes on where the lines end, up to the last number. -/
def Reaches (n : Nat) (gap : Option PendingGap) (last : Nat) : Prop :=
  match gap with
  | none => n = last
  | some g => g.first = n + 1 ∧ g.last = last ∧ g.first ≤ g.last ∧ g.count + g.first = g.last + 1

theorem Reaches.lose {n last : Nat} {gap : Option PendingGap} (h : Reaches n gap last)
    (time : Nat) : Reaches n (some (Logger.nextGap gap (last + 1) time)) (last + 1) := by
  cases gap with
  | none =>
    obtain rfl : n = last := h
    exact ⟨rfl, rfl, Nat.le_refl _, Nat.add_comm _ _⟩
  | some g =>
    obtain ⟨first, last, ordered, count⟩ := h
    refine ⟨first, rfl, ?_, ?_⟩
    · show g.first ≤ _ + 1
      omega
    · show g.count + 1 + g.first = _ + 1 + 1
      omega

namespace Logger

/-- The lines that the sink was given, and then those in the queue. -/
def lines (l : Logger) : List (Nat × Nat) :=
  (l.handed ++ l.queue.map (·.record)).map DiskRecord.range

/-! ## The invariant -/

structure Balanced (o : Options) (l : Logger) : Prop where
  options : l.options = o
  silent : l.logs = false → l.stats.lastSequence = 0
  whole : ∀ r ∈ l.handed, r.Whole
  queued : ∀ r ∈ l.queue, r.Line
  inHand : ∀ r, l.loop.inHand = some r → r.Line
  tiled : ∃ n, Tiles 0 n l.lines ∧ (l.err = none → Reaches n l.gap l.stats.lastSequence)
  balance : l.stats.lastSequence = l.stats.written + l.stats.lostOverflow + l.stats.lostWrite +
    l.outstanding
  stored : l.err = none → l.handed = l.stored ++ l.loop.refused
  ended : l.loop.ending = true → l.closing = true ∧ l.queue = [] ∧ l.gap = none
  failed : l.err ≠ none → l.closing = true ∧ l.loop = .returned

variable {o : Options} {l : Logger}

theorem balanced_newLogger (o : Options) : (newLogger o).Balanced o where
  options := rfl
  silent _ := rfl
  whole := by simp [newLogger]
  queued := by simp [newLogger]
  inHand := by simp [newLogger, Loop.inHand]
  tiled := ⟨0, rfl, fun _ => rfl⟩
  balance := rfl
  stored _ := rfl
  ended := by simp [newLogger, Loop.ending]
  failed h := absurd rfl h

/-! ## Emit -/

theorem Balanced.recordInvalid (h : l.Balanced o) : l.recordInvalid.Balanced o := by
  unfold Logger.recordInvalid
  split
  · exact h
  · exact { h with silent := h.silent, tiled := h.tiled, balance := h.balance }

theorem Balanced.lose (h : l.Balanced o) (logs : l.logs = true) (open_ : l.closing = false)
    (fine : l.err = none) (time : Nat) : (l.lose (l.stats.lastSequence + 1) time).Balanced o where
  options := h.options
  silent off := absurd off (by rw [show (l.lose _ _).logs = l.logs from rfl, logs]; decide)
  whole := h.whole
  queued := h.queued
  inHand := h.inHand
  tiled := by
    obtain ⟨n, tiles, reaches⟩ := h.tiled
    exact ⟨n, tiles, fun _ => (reaches fine).lose time⟩
  balance := by
    have := h.balance
    show l.stats.lastSequence + 1 = l.stats.written + (l.stats.lostOverflow + 1) +
      l.stats.lostWrite + l.outstanding
    omega
  stored := h.stored
  ended ending := by
    have := (h.ended ending).1
    rw [open_] at this
    cases this
  failed := h.failed

theorem Balanced.enqueue (h : l.Balanced o) (logs : l.logs = true) (open_ : l.closing = false)
    {new : List QueuedRecord} (lines : ∀ r ∈ new, r.Line) (one : queuedEvents new = 1) {n : Nat}
    (tiles : Tiles 0 n l.lines)
    (next : Tiles n (l.stats.lastSequence + 1) (new.map fun r => r.record.range)) :
    (l.enqueue new none (l.stats.lastSequence + 1)).Balanced o where
  options := h.options
  silent off := by
    have : l.logs = false := off
    rw [logs] at this
    cases this
  whole := h.whole
  queued r hr := by
    rw [enqueue_queue, List.mem_append] at hr
    rcases hr with old | fresh
    · exact h.queued r old
    · exact lines r fresh
  inHand := h.inHand
  tiled := by
    refine ⟨l.stats.lastSequence + 1, ?_, fun _ => rfl⟩
    have added : (l.enqueue new none (l.stats.lastSequence + 1)).lines = l.lines ++ new.map fun r =>
        r.record.range := by
      simp [Logger.lines, Function.comp_def]
    rw [added]
    exact tiles_append.mpr ⟨n, tiles, next⟩
  balance := by
    have := h.balance
    unfold Logger.outstanding at this ⊢
    simp only [enqueue_queue, enqueue_stats_lastSequence, enqueue_stats_written,
      enqueue_stats_lostOverflow, enqueue_stats_lostWrite, enqueue_loop, queuedEvents_append, one]
    omega
  stored := h.stored
  ended ending := by
    have := (h.ended ending).1
    rw [open_] at this
    cases this
  failed := h.failed

/-- Every gap line is encoded: `json.Marshal` fails only on a time outside the years 0 to 9999. -/
def Encodes (o : Options) : Prop :=
  ∀ record : DiskRecord, record.gap.isSome = true → (o.marshal record).isSome = true

theorem gapLine_line (h : l.Balanced o) (encodes : Encodes o) {g : PendingGap}
    (count : g.count + g.first = g.last + 1) : (l.gapLine g).Line where
  whole := by
    refine ⟨rfl, fun g' hg => ?_⟩
    cases hg
    exact count
  raw := by
    show (l.options.marshal _).isSome = true
    rw [h.options]
    exact encodes _ rfl
  events := rfl

theorem Balanced.queued_line (h : l.Balanced o) (encodes : Encodes o) (logs : l.logs = true)
    (open_ : l.closing = false) (fine : l.err = none) {line : QueuedRecord} (whole : line.Line)
    (event : line.isGap = false)
    (range : line.record.range = (l.stats.lastSequence + 1, l.stats.lastSequence + 1)) :
    (l.queued (l.gap.map l.gapLine) line).Balanced o := by
  obtain ⟨n, tiles, reaches⟩ := h.tiled
  have reaches := reaches fine
  have sequence : line.record.sequence = l.stats.lastSequence + 1 := by rw [whole.whole.1, range]
  have one : line.events = 1 := by rw [whole.events, event]; rfl
  unfold Logger.queued
  rw [sequence]
  cases hgap : l.gap with
  | none =>
    rw [hgap] at reaches
    obtain rfl : n = l.stats.lastSequence := reaches
    refine h.enqueue logs open_ (by simpa using whole) (by simp [one, queuedEvents]) tiles ?_
    rw [List.map_singleton, range]
    exact ⟨rfl, Nat.le_refl _, rfl⟩
  | some g =>
    rw [hgap] at reaches
    obtain ⟨first, last, ordered, count⟩ := reaches
    have gapLine := gapLine_line h encodes count
    rw [Option.map_some, Option.filter_some, if_pos gapLine.raw]
    have zero : (l.gapLine g).events = 0 := rfl
    refine h.enqueue logs open_ ?_ (by simp [one, zero, queuedEvents]) tiles ?_
    · rintro r hr
      rcases List.mem_pair.mp hr with rfl | rfl
      · exact gapLine
      · exact whole
    · rw [List.map_cons, List.map_singleton, range]
      refine ⟨first, ordered, ?_, Nat.le_refl _, rfl⟩
      show _ = g.last + 1
      rw [last]

theorem Balanced.admitEvent (h : l.Balanced o) (encodes : Encodes o) (logs : l.logs = true)
    (event : Event) (now : Nat) : (l.admitEvent event now).1.Balanced o := by
  unfold Logger.admitEvent
  split
  · exact h
  next running =>
    rw [Bool.or_eq_true, not_or, Bool.not_eq_true, Bool.not_eq_true, Option.isSome_eq_false_iff,
      Option.isNone_iff_eq_none] at running
    obtain ⟨open_, fine⟩ := running
    simp only
    split
    · exact h.lose logs open_ fine now
    next raw _ =>
      split
      · exact h.lose logs open_ fine now
      · split
        · exact h.lose logs open_ fine now
        · refine h.queued_line encodes logs open_ fine ⟨⟨rfl, ?_⟩, rfl, rfl⟩ rfl rfl
          intro g hg
          cases hg

theorem Balanced.emit (h : l.Balanced o) (encodes : Encodes o) (event : Event) (now : Nat) :
    (l.emit event now).1.Balanced o := by
  unfold Logger.emit
  split
  · exact h
  next logged =>
    have logs : l.logs = true := by
      rw [Bool.or_eq_true, not_or] at logged
      simpa using logged.1
    split
    · exact h.recordInvalid
    · simp only
      generalize (if l.options.mode = .content then event else { event with body := "" }) = kept
      split
      · exact h.admitEvent encodes logs kept now
      · exact h.recordInvalid

/-! ## The write loop -/

theorem Balanced.moved (h : l.Balanced o) {loop : Loop} (inHand : loop.inHand = l.loop.inHand)
    (fine : l.err = none) (refused : loop.refused = l.loop.refused)
    (ended : loop.ending = true → l.closing = true ∧ l.queue = [] ∧ l.gap = none) (notify : Bool) :
    { l with loop, notify }.Balanced o where
  options := h.options
  silent := h.silent
  whole := h.whole
  queued := h.queued
  inHand r hr := h.inHand r (inHand ▸ hr)
  tiled := h.tiled
  balance := by
    have := h.balance
    unfold Logger.outstanding at this ⊢
    rw [inHand]
    exact this
  stored _ := by
    rw [refused]
    exact h.stored fine
  ended := ended
  failed broken := absurd fine broken

theorem Balanced.running (h : l.Balanced o) (going : l.loop ≠ .returned) : l.err = none := by
  by_contra broken
  exact going (h.failed broken).2

theorem Balanced.handled (h : l.Balanced o) (taking : l.loop = .taking) {r : QueuedRecord}
    (line : r.Line) {l' : Logger} (same : l' = { l with queue := l'.queue, gap := l'.gap })
    (events : queuedEvents l.queue = r.events + queuedEvents l'.queue)
    (queued : ∀ q ∈ l'.queue, q ∈ l.queue) {n : Nat}
    (tiles : Tiles 0 n (({ l' with handed := l'.handed ++ [r.record] } : Logger).lines))
    (reaches : Reaches n l'.gap l.stats.lastSequence) : (l'.handle r).Balanced o := by
  have fine := h.running (by rw [taking]; decide)
  have handed : l'.handed = l.handed := by rw [same]
  unfold Logger.handle
  rw [if_neg (by rw [Option.isNone_iff_eq_none, ← Option.not_isSome_iff_eq_none, line.raw]; simp)]
  constructor
  case options => rw [same]; exact h.options
  case silent => rw [same]; exact h.silent
  case whole =>
    intro q hq
    rw [handed, List.mem_append, List.mem_singleton] at hq
    rcases hq with old | rfl
    · exact h.whole q old
    · exact line.whole
  case queued => exact fun q hq => h.queued q (queued q hq)
  case inHand =>
    intro q hq
    cases hq
    exact line
  case tiled => exact ⟨n, tiles, fun _ => by rw [same] at reaches ⊢; exact reaches⟩
  case balance =>
    have balance := h.balance
    have stats : l'.stats = l.stats := by rw [same]
    unfold Logger.outstanding at balance ⊢
    rw [taking] at balance
    simp only [Loop.inHand, Option.map_none, Option.getD_none, Option.map_some, Option.getD_some,
      stats] at balance ⊢
    omega
  case stored =>
    intro _
    have stored := h.stored fine
    rw [taking] at stored
    rw [same]
    simpa [Loop.refused] using stored
  case ended => simp [Loop.ending]
  case failed =>
    intro broken
    rw [same] at broken
    exact absurd fine broken

theorem Balanced.take (h : l.Balanced o) (encodes : Encodes o) (taking : l.loop = .taking) :
    l.take.Balanced o := by
  have fine := h.running (by rw [taking]; decide)
  obtain ⟨n, tiles, reaches⟩ := h.tiled
  have reaches := reaches fine
  unfold Logger.take
  split
  next r rest queue =>
    refine h.handled taking (h.queued r (by simp [queue])) rfl (by rw [queue, queuedEvents_cons])
      (by simp_all) ?_ reaches
    simpa [Logger.lines, queue] using tiles
  next queue =>
    split
    · exact h.moved (by rw [taking]; rfl) fine (by rw [taking]; rfl)
        (by simp [Loop.ending]) l.notify
    next closing =>
      have closing : l.closing = true := by simpa using closing
      split
      next g hgap =>
        rw [hgap] at reaches
        obtain ⟨first, last, ordered, count⟩ := reaches
        have zero : (l.gapLine g).events = 0 := rfl
        refine h.handled taking (gapLine_line h encodes count) rfl (by simp [zero])
          (fun q hq => hq) ?_ last
        have lines :
            ({ l with gap := none, handed := l.handed ++ [(l.gapLine g).record] } : Logger).lines =
            l.lines ++ [(g.first, g.last)] := by
          simp [Logger.lines, queue, DiskRecord.range, Logger.gapLine]
        rw [lines, first]
        exact tiles.snoc (by omega)
      next hgap =>
        exact h.moved (by rw [taking]; rfl) fine (by rw [taking]; rfl)
          (fun _ => ⟨closing, queue, hgap⟩) l.notify

theorem Balanced.account (h : l.Balanced o) {r : QueuedRecord} (wrote : l.loop = .wrote r) :
    (l.account r).Balanced o := by
  have fine := h.running (by rw [wrote]; exact fun heq => nomatch heq)
  have line := h.inHand r (by rw [wrote]; rfl)
  have balance := h.balance
  unfold Logger.outstanding at balance
  rw [wrote] at balance
  simp only [Loop.inHand, Option.map_some, Option.getD_some, line.events] at balance
  have last : (l.account r).stats.lastSequence = l.stats.lastSequence := by
    unfold Logger.account
    cases r.isGap <;> rfl
  constructor
  case options => exact h.options
  case silent => rw [last]; exact h.silent
  case whole => exact h.whole
  case queued => exact h.queued
  case inHand => exact fun _ hr => nomatch hr
  case tiled => rw [last]; exact h.tiled
  case balance =>
    unfold Logger.account Logger.outstanding
    cases hgap : r.isGap with
    | true =>
      rw [hgap] at balance
      simp only [if_true, Loop.inHand, Option.map_none, Option.getD_none] at balance ⊢
      exact balance
    | false =>
      rw [hgap] at balance
      simp only [Bool.false_eq_true, if_false, Loop.inHand, Option.map_none, Option.getD_none,
        line.events, hgap] at balance ⊢
      omega
  case stored =>
    intro _
    have stored := h.stored fine
    rw [wrote] at stored
    exact stored
  case ended => exact fun ending => nomatch ending
  case failed => exact fun broken => absurd fine broken

theorem Balanced.fail (h : l.Balanced o) (fine : l.err = none) (error : String) {current : Nat}
    (events : (l.loop.inHand.map (·.events)).getD 0 = current) :
    (l.fail error current).Balanced o := by
  unfold Logger.fail
  rw [if_neg (by simp [fine])]
  constructor
  case options => exact h.options
  case silent => exact h.silent
  case whole => exact h.whole
  case queued => simp
  case inHand => exact fun _ hr => nomatch hr
  case tiled =>
    obtain ⟨n, tiles, -⟩ := h.tiled
    unfold Logger.lines at tiles
    rw [List.map_append] at tiles
    obtain ⟨m, handed, -⟩ := tiles_append.mp tiles
    refine ⟨m, ?_, fun absurd => nomatch absurd⟩
    simpa [Logger.lines] using handed
  case balance =>
    have balance := h.balance
    unfold Logger.outstanding at balance ⊢
    rw [events] at balance
    have lost : l.queue.foldl (fun n r => n + r.events) 0 = queuedEvents l.queue := rfl
    have none_left : queuedEvents [] = 0 := rfl
    simp only [Loop.inHand, Option.map_none, Option.getD_none, lost, none_left]
    omega
  case stored => exact fun absurd => nomatch absurd
  case ended => exact fun _ => ⟨rfl, rfl, rfl⟩
  case failed => exact fun _ => ⟨rfl, rfl⟩

theorem Balanced.close (h : l.Balanced o) : l.close.Balanced o := by
  unfold Logger.close
  split
  · exact h
  · exact { h with
      silent := h.silent
      tiled := h.tiled
      balance := h.balance
      ended := fun ending => ⟨rfl, (h.ended ending).2⟩
      failed := fun broken => ⟨rfl, (h.failed broken).2⟩ }

theorem Balanced.step (h : l.Balanced o) (encodes : Encodes o) (a : Step) :
    (l.step a).Balanced o := by
  cases a with
  | emit event now => exact h.emit encodes event now
  | close => exact h.close
  | take =>
    simp only [Logger.step]
    split
    next taking => exact h.take encodes taking
    · exact h
  | notified =>
    simp only [Logger.step]
    split
    next waiting =>
      have fine := h.running (by rw [waiting.1]; decide)
      exact h.moved (by rw [waiting.1]; rfl) fine (by rw [waiting.1]; rfl)
        (by simp [Loop.ending]) false
    · exact h
  | sinkTook =>
    simp only [Logger.step]
    split
    next r writing =>
      have fine := h.running (by rw [writing]; exact fun heq => nomatch heq)
      have stored := h.stored fine
      rw [writing] at stored
      have balance := h.balance
      unfold Logger.outstanding at balance
      rw [writing] at balance
      exact { h with
        silent := h.silent
        inHand := fun q hq => h.inHand q (by rw [writing]; exact hq)
        tiled := h.tiled
        balance := balance
        stored := fun _ => by rw [stored]; exact (List.append_nil _).symm
        ended := fun ending => nomatch ending
        failed := fun broken => absurd fine broken }
    · exact h
  | sinkFailed error =>
    simp only [Logger.step]
    split
    next r writing =>
      have fine := h.running (by rw [writing]; exact fun heq => nomatch heq)
      exact h.moved (by rw [writing]; rfl) fine (by rw [writing]; rfl)
        (by simp [Loop.ending]) l.notify
    · exact h
  | locked =>
    simp only [Logger.step]
    split
    next r wrote => exact h.account wrote
    next r error broken =>
      exact h.fail (h.running (by rw [broken]; exact fun heq => nomatch heq)) error
        (by rw [broken]; rfl)
    next error unclosed =>
      exact h.fail (h.running (by rw [unclosed]; exact fun heq => nomatch heq)) error
        (by rw [unclosed]; rfl)
    · exact h
  | sinkClosed =>
    simp only [Logger.step]
    split
    next closing =>
      have fine := h.running (by rw [closing]; decide)
      have ended := h.ended (by rw [closing]; rfl)
      exact h.moved (by rw [closing]; rfl) fine (by rw [closing]; rfl) (fun _ => ended) l.notify
    · exact h
  | sinkUnclosed error =>
    simp only [Logger.step]
    split
    next closing =>
      have fine := h.running (by rw [closing]; decide)
      have ended := h.ended (by rw [closing]; rfl)
      exact h.moved (by rw [closing]; rfl) fine (by rw [closing]; rfl) (fun _ => ended) l.notify
    · exact h

theorem Balanced.run (h : l.Balanced o) (encodes : Encodes o) (steps : List Step) :
    (l.run steps).Balanced o := by
  induction steps generalizing l with
  | nil => exact h
  | cons a steps ih => exact ih (h.step encodes a)

/-! ## What the lines account for -/

/-- The numbers of the lines increase, every number is counted once, and after a `Close` without
error every number has exactly one line. -/
structure Accounted (l : Logger) : Prop where
  increasing : (l.handed.map (·.sequence)).Pairwise (· < ·)
  gaps : ∀ r ∈ l.handed, ∀ g, r.gap = some g → g.first ≤ g.last ∧ g.count = g.last - g.first + 1 ∧
    ∀ e ∈ l.handed, e.gap = none → e.sequence < g.first ∨ g.last < e.sequence
  balance : l.stats.lastSequence = l.stats.written + l.stats.lostOverflow + l.stats.lostWrite +
    l.outstanding
  complete : l.closeResult = some none → ∀ k, 1 ≤ k → k ≤ l.stats.lastSequence →
    l.stored.countP (fun r => inside k r.range) = 1

theorem Balanced.handed (h : l.Balanced o) : ∃ n, Tiles 0 n (l.handed.map DiskRecord.range) := by
  obtain ⟨n, tiles, -⟩ := h.tiled
  unfold Logger.lines at tiles
  rw [List.map_append] at tiles
  obtain ⟨m, handed, -⟩ := tiles_append.mp tiles
  exact ⟨m, handed⟩

theorem Balanced.apart (h : l.Balanced o) {r e : DiskRecord} (hr : r ∈ l.handed) (he : e ∈ l.handed)
    (ne : r ≠ e) : r.range.2 < e.range.1 ∨ e.range.2 < r.range.1 := by
  obtain ⟨n, tiles⟩ := h.handed
  have pairwise := tiles.pairwise
  rw [List.pairwise_map] at pairwise
  have either : l.handed.Pairwise fun r e => r.range.2 < e.range.1 ∨ e.range.2 < r.range.1 :=
    pairwise.imp .inl
  have symmetric : Std.Symm fun r e : DiskRecord => r.range.2 < e.range.1 ∨ e.range.2 < r.range.1 :=
    ⟨fun _ _ => Or.symm⟩
  exact either.forall hr he ne

theorem Balanced.complete (h : l.Balanced o) (closed : l.closeResult = some none) {k : Nat}
    (low : 1 ≤ k) (high : k ≤ l.stats.lastSequence) :
    l.stored.countP (fun r => inside k r.range) = 1 := by
  unfold Logger.closeResult at closed
  split at closed
  next off =>
    have := h.silent (by simpa using off)
    omega
  · split at closed
    next returned =>
      have fine : l.err = none := Option.some.inj closed
      obtain ⟨-, queue, gap⟩ := h.ended (by rw [returned]; rfl)
      obtain ⟨n, tiles, reaches⟩ := h.tiled
      have reaches := reaches fine
      have stored := h.stored fine
      rw [gap] at reaches
      rw [returned] at stored
      -- Nothing is queued or pending, so what was stored is the whole tiling.
      have whole : l.lines = l.stored.map DiskRecord.range := by
        simp [Logger.lines, queue, stored, Loop.refused]
      rw [whole, show n = l.stats.lastSequence from reaches] at tiles
      have := tiles.countP_inside low high
      rwa [List.countP_map] at this
    · cases closed

/-- Any interleaving of calls of `Emit` and `Close` with the steps of the write loop. -/
theorem losses_accounted (o : Options) (encodes : Encodes o) (steps : List Step) :
    ((newLogger o).run steps).Accounted := by
  have h := (balanced_newLogger o).run encodes steps
  obtain ⟨n, tiles⟩ := h.handed
  refine ⟨?_, ?_, h.balance, fun closed k low high => h.complete closed low high⟩
  · have increasing := tiles.increasing
    rw [List.map_map] at increasing
    have same : ((newLogger o).run steps).handed.map (·.sequence) =
        ((newLogger o).run steps).handed.map (Prod.snd ∘ DiskRecord.range) :=
      List.map_congr_left fun r hr => (h.whole r hr).1
    rwa [same]
  · intro r hr g hg
    have range : r.range = (g.first, g.last) := by simp [DiskRecord.range, hg]
    have ordered := (tiles.within (List.mem_map_of_mem hr)).2.1
    have count := (h.whole r hr).2 g hg
    rw [range] at ordered
    refine ⟨ordered, by omega, fun e he event => ?_⟩
    have ne : r ≠ e := by
      rintro rfl
      rw [hg] at event
      cases event
    have apart := h.apart hr he ne
    have own : e.range = (e.sequence, e.sequence) := by simp [DiskRecord.range, event]
    rw [range, own] at apart
    exact apart.symm

/-- A log whose queue has room for one line at a time. -/
def narrow : Options :=
  { mode := .content, host := "h", incarnation := "one", maxFileBytes := 4096, maxQueueBytes := 4096
    marshal := fun r => some (List.replicate (if r.gap.isSome then 159 else 2052) 0) }

def sendEvent : Event :=
  { type := .request, method := "message.send", body := String.ofList (List.replicate 1900 'x') }

/-- Two of three events are lost to the full queue; closing writes their gap. -/
def threeEvents : List Step :=
  [.emit sendEvent 1, .emit sendEvent 2, .emit sendEvent 3, .take, .sinkTook, .locked, .close,
    .take, .sinkTook, .locked, .take, .sinkClosed]

set_option maxRecDepth 20000 in
theorem losses_accounted_overflow :
    ((newLogger narrow).run threeEvents).stats.lostOverflow = 2 ∧
      ((newLogger narrow).run threeEvents).closeResult = some none ∧
      ((newLogger narrow).run threeEvents).Accounted := by
  have encodes : Encodes narrow := fun _ _ => rfl
  exact ⟨by decide +kernel, by decide +kernel, losses_accounted narrow encodes threeEvents⟩

end Logger

end Sessionbus.CommsLog
