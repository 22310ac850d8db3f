import Sessionbus.Protocol
import Sessionbus.Traces

/-!
# The connection of a session

`bus/internal/conn`: the owner loop queues frames for the writer and learns from `done`
that the reader has ended. Closing the descriptor does not empty the outbox and does not
by itself end the reader, so a frame can still be queued on a closed descriptor.
-/

namespace Sessionbus

/-- A frame the daemon puts on a session's wire. -/
inductive OutFrame
  | request (id : Nat) (command : Command)
  | response (id : Nat) (body : Body)
deriving DecidableEq, Repr

def OutFrame.requestID : OutFrame → Option Nat
  | .request id _ => some id
  | .response _ _ => none

/-- Requests are numbered upwards in the order they are queued. -/
def Numbered (low high : Nat) (l : List OutFrame) : Prop :=
  Trace.Ascending low high (l.filterMap OutFrame.requestID)

namespace Numbered

variable {a b c : Nat} {l l' : List OutFrame}

theorem nil (h : a ≤ b) : Numbered a b [] := Trace.Ascending.nil h

theorem append (h : Numbered a b l) (h' : Numbered b c l') : Numbered a c (l ++ l') := by
  unfold Numbered
  rw [List.filterMap_append]
  exact Trace.Ascending.append h h'

theorem response (n id : Nat) (body : Body) : Numbered n n [.response id body] :=
  Trace.Ascending.nil (Nat.le_refl n)

theorem request (n : Nat) (command : Command) : Numbered n (n + 1) [.request (n + 1) command] :=
  Trace.Ascending.succ n

end Numbered

structure Wire where
  outbox : List OutFrame := []
  /-- The outbox has been closed: no frame is queued after it. -/
  finishing : Bool := false
  /-- The reader has ended. -/
  done : Bool := false
  /-- `Close` was called on the descriptor. -/
  fdClosed : Bool := false
deriving DecidableEq, Repr

namespace Wire

def close (c : Wire) : Wire := { c with fdClosed := true }

def queue (c : Wire) (frame : OutFrame) : Wire := { c with outbox := c.outbox ++ [frame] }

/-- `Conn.Send`: a full outbox closes the connection. -/
def send (c : Wire) (frame : OutFrame) : Wire × Bool :=
  if c.finishing || c.done then (c, false)
  else if c.outbox.length < outboxSize then (c.queue frame, true)
  else (c.close, false)

/-- `Conn.Finish`: the last frame, after which the outbox is closed. -/
def finish (c : Wire) (frame : OutFrame) : Wire × Bool :=
  if c.finishing || c.done then (c, false)
  else if c.outbox.length < outboxSize then
    ({ c.queue frame with finishing := true }, true)
  else ({ c with finishing := true }.close, false)

def ownerClosed (c : Wire) : Wire := { c with finishing := true }

/-- One step of `Conn.write`: the writer takes the oldest frame. -/
def taken (c : Wire) : Wire := { c with outbox := c.outbox.tail }

/-- The end of `Conn.read`. -/
def readEnded (c : Wire) : Wire := { c with fdClosed := true, done := true }

theorem send_cases (c : Wire) (frame : OutFrame) :
    ((c.send frame).2 = true ∧ (c.send frame).1 = c.queue frame ∧
      c.finishing = false ∧ c.done = false) ∨
    ((c.send frame).2 = false ∧ ((c.send frame).1 = c ∨ (c.send frame).1 = c.close)) := by
  unfold send
  split
  · exact .inr ⟨rfl, .inl rfl⟩
  · rename_i h
    simp only [Bool.or_eq_true, not_or, Bool.not_eq_true] at h
    split
    · exact .inl ⟨rfl, rfl, h.1, h.2⟩
    · exact .inr ⟨rfl, .inr rfl⟩

end Wire

end Sessionbus
