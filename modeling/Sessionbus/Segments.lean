import Mathlib.Data.List.Basic
import Mathlib.Data.List.Infix

/-!
# A log in segments

The newest segment comes first. A new item goes to the end of the newest segment; when a segment is
full a new one is started, and of the older ones only so many are kept.
-/

namespace Segments

variable {α : Type}

/-- The items from the oldest to the newest. -/
def read (segments : List (List α)) : List α := segments.reverse.flatten

def push (segments : List (List α)) (x : α) : List (List α) :=
  match segments with
  | [] => [[x]]
  | newest :: older => (newest ++ [x]) :: older

/-- A new segment, with at most `n` in all. -/
def roll (n : Nat) (segments : List (List α)) : List (List α) := ([] :: segments).take n

variable {segments : List (List α)} {n : Nat}

theorem read_cons (newest : List α) (older : List (List α)) : read (newest :: older) = read older ++
    newest := by
  unfold read
  rw [List.reverse_cons, List.flatten_append, List.flatten_singleton]

theorem read_push (segments : List (List α)) (x : α) :
    read (push segments x) = read segments ++ [x] := by
  cases segments with
  | nil => rfl
  | cons newest older =>
    rw [push, read_cons, read_cons, List.append_assoc]

theorem read_take_suffix (n : Nat) (segments : List (List α)) :
    read (segments.take n) <:+ read segments := by
  refine ⟨read (segments.drop n), ?_⟩
  unfold read
  rw [← List.flatten_append, ← List.reverse_append, List.take_append_drop]

theorem read_roll_suffix (n : Nat) (segments : List (List α)) :
    read (roll n segments) <:+ read segments := by
  have whole : read ([] :: segments) = read segments := by rw [read_cons, List.append_nil]
  unfold roll
  rw [← whole]
  exact read_take_suffix n _

theorem roll_pos (h : 0 < n) (segments : List (List α)) : roll n segments = [] :: segments.take
    (n - 1) := by
  obtain ⟨n, rfl⟩ := Nat.exists_eq_add_of_lt h
  simp [roll]

theorem getElem?_roll_succ (n i : Nat) (segments : List (List α)) :
    (roll n segments)[i + 1]? = if i + 1 < n then segments[i]? else none := by
  unfold roll
  rw [List.getElem?_take, List.getElem?_cons_succ]

theorem mem_roll {s : List α} (h : s ∈ roll n segments) : s = [] ∨ s ∈ segments :=
  List.mem_cons.mp (List.mem_of_mem_take h)

end Segments
