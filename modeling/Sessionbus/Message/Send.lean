import Mathlib.Data.List.Nodup
import Sessionbus.Directory.Select

/-!
# Sending a message on one host

`send` and the part of `consumeReply` for `message.send` in `handlers.go`, for a request that no
trace copy makes: the selected entries become deliveries, each is routed, and the receipts of the
recipients are filled in as they come. The directory may change between the selection and each
of the routes.
-/

namespace Sessionbus

namespace MessageSendDelivery

def reject (delivery : MessageSendDelivery) (reason : String) : MessageSendDelivery :=
  { delivery with disposition := "rejected", reason }

def posted (delivery : MessageSendDelivery) (sessionID deliveryID : String) : MessageSendDelivery :=
  { delivery with sessionID, deliveryID }

end MessageSendDelivery

/-- A delivery and the entry that it is for. -/
abbrev Leg := MessageSendDelivery × Option Ptr

/-- The loop of `send` over the selected entries; an entry is taken for its first label. -/
def gather : List Selected → List Ptr → List Leg
  | [], _ => []
  | s :: rest, seen =>
    let delivery : MessageSendDelivery := { target := s.label }
    if s.ambiguous then (delivery.reject "ambiguous", s.item) :: gather rest seen
    else
      match s.code, s.item with
      | none, some p =>
        if seen.contains p then gather rest seen else (delivery, some p) :: gather rest (p :: seen)
      | some code, item =>
        (delivery.reject (reason code "unknown_session"), item) :: gather rest seen
      | none, none => (delivery.reject "unknown_session", none) :: gather rest seen

/-- The directory when `send` selects, when it routes the delivery at an index, and the random bytes
of that delivery's ID. -/
structure Sending where
  directory : Directory
  around : Around
  keys : List String
  later : Nat → Directory × Around
  bytes : Nat → Vector UInt8 12

namespace Sending

variable (env : Sending)

/-- `directory.route` for the delivery at the index. -/
def route (index : Nat) (p : Ptr) : Option Code :=
  (env.later index).1.routeLocked (env.later index).2 (some p) { method := .deliver }

/-- The second loop of `send`. A leg keeps its entry when a reply is awaited. -/
def dispatch (index : Nat) (leg : Leg) : Leg :=
  match leg.2 with
  | none => leg
  | some p =>
    match env.route index p with
    | none =>
      (leg.1.posted ((env.later index).1.items p).row.sessionID
        (randomID "delivery" (env.bytes index)), some p)
    | some .notConnected => (leg.1.reject "not_submitted", none)
    | some code => (leg.1.reject (reason code "no_receipt"), none)

/-- `send` up to its first reply; `none` is the code `invalid_frame`. -/
def send (groups : List String) (labels : Option (List String)) (group : String)
    (omitted : Option Ptr) : Option (List Leg) :=
  (env.directory.selectEntries env.around env.keys groups labels group true omitted none).map
    fun selection =>
    (gather selection.selected []).mapIdx env.dispatch

end Sending

/-- `requestState` of a send. -/
structure SendState where
  deliveries : List MessageSendDelivery
  pending : Nat
deriving DecidableEq, Repr

/-- The indices of the legs that await a reply. -/
def awaited (legs : List Leg) : List Nat :=
  (List.range legs.length).filter fun i => (legs[i]?.bind (·.2)).isSome

def SendState.start (legs : List Leg) : SendState :=
  { deliveries := legs.map Prod.fst, pending := (awaited legs).length }

/-- `consumeReply`, and the deliveries of the result once nothing is pending. -/
def SendState.consumeReply (state : SendState) (leg : Nat) (answer : Answer) :
    SendState × Option (List MessageSendDelivery) :=
  let state : SendState :=
    { deliveries := state.deliveries.modify leg (·.settle answer), pending := state.pending - 1 }
  (state, if state.pending ≠ 0 then none else some state.deliveries)

/-- The deliveries of the result, which is made when the last reply is consumed. -/
def SendState.replies (state : SendState) : List (Nat × Answer) → Option (List MessageSendDelivery)
  | [] => none
  | (leg, answer) :: rest =>
    match state.consumeReply leg answer with
    | (_, some deliveries) => some deliveries
    | (state, none) => state.replies rest

/-- The deliveries that are answered, with the replies in the order in which they come. -/
def sendResult (legs : List Leg) (replies : List (Nat × Answer)) :
    Option (List MessageSendDelivery) :=
  if (SendState.start legs).pending = 0 then some (SendState.start legs).deliveries
  else (SendState.start legs).replies replies

/-! ## The result -/

/-- The deliveries once each awaited leg has its answer. -/
def settled (legs : List Leg) (answers : Nat → Answer) : List MessageSendDelivery :=
  legs.mapIdx fun i leg => if leg.2.isSome then leg.1.settle (answers i) else leg.1

theorem mapIdx_same {α : Type} (l : List α) : (l.mapIdx fun _ x => x) = l := by
  apply List.ext_getElem <;> simp

theorem modify_settle {deliveries : List MessageSendDelivery} {answers : Nat → Answer} {i : Nat}
    {order : List Nat} (new : i ∉ order) :
    ((deliveries.modify i (·.settle (answers i))).mapIdx fun j d => if j ∈ order
      then d.settle (answers j) else d) = deliveries.mapIdx fun j d =>
    if j ∈ i :: order then d.settle (answers j) else d := by
  apply List.ext_getElem
  · simp
  · intro j hj hj'
    simp only [List.getElem_mapIdx, List.getElem_modify, List.mem_cons]
    by_cases same : i = j
    · subst same
      simp [new]
    · simp [same, Ne.symm same]

theorem SendState.replies_settled {answers : Nat → Answer} {order : List Nat} (nodup : order.Nodup)
    (some_order : order ≠ []) {state : SendState} (pending : state.pending = order.length) :
    state.replies (order.map fun i => (i, answers i)) =
      some (state.deliveries.mapIdx fun i d => if i ∈ order then d.settle (answers i) else d) := by
  induction order generalizing state with
  | nil => exact absurd rfl some_order
  | cons i order ih =>
    obtain ⟨new, nodup⟩ := List.nodup_cons.mp nodup
    rw [List.map_cons, SendState.replies, ← modify_settle new]
    simp only [SendState.consumeReply, pending, List.length_cons, Nat.add_sub_cancel]
    by_cases last : order = []
    · subst last
      simp [mapIdx_same]
    · have more : order.length ≠ 0 := by simpa using last
      simp only [more, ne_eq, not_false_eq_true, if_true]
      exact ih nodup last rfl

theorem mem_awaited {legs : List Leg} {i : Nat} : i ∈ awaited legs ↔ ∃ leg, legs[i]? = some leg ∧
    leg.2.isSome := by
  unfold awaited
  rw [List.mem_filter, List.mem_range]
  constructor
  · rintro ⟨hi, some_entry⟩
    rw [List.getElem?_eq_getElem hi] at some_entry
    exact ⟨legs[i], List.getElem?_eq_getElem hi, some_entry⟩
  · rintro ⟨leg, hleg, some_entry⟩
    obtain ⟨hi, -⟩ := List.getElem?_eq_some_iff.mp hleg
    exact ⟨hi, by rw [hleg]; exact some_entry⟩

theorem settled_eq (legs : List Leg) (answers : Nat → Answer) :
    settled legs answers =
      (legs.map Prod.fst).mapIdx fun i d =>
    if i ∈ awaited legs then d.settle (answers i) else d := by
  apply List.ext_getElem
  · simp [settled]
  · intro i hi hi'
    have hlt : i < legs.length := by simpa [settled] using hi
    have awaits : i ∈ awaited legs ↔ legs[i].2.isSome = true := by
      rw [mem_awaited]
      simp [hlt]
    simp only [settled, List.getElem_mapIdx, List.getElem_map, awaits]

theorem sendResult_settled {legs : List Leg} {answers : Nat → Answer} {order : List Nat}
    (replied : order.Perm (awaited legs)) :
    sendResult legs (order.map fun i => (i, answers i)) = some (settled legs answers) := by
  have nodup : order.Nodup := replied.nodup_iff.mpr (List.Nodup.filter _ List.nodup_range)
  unfold sendResult
  rw [settled_eq]
  by_cases nothing : (SendState.start legs).pending = 0
  · have empty : awaited legs = [] := List.length_eq_zero_iff.mp nothing
    rw [if_pos nothing, empty]
    simp [SendState.start, mapIdx_same]
  · have some_order : order ≠ [] := by
      rintro rfl
      exact nothing replied.length_eq.symm
    rw [if_neg nothing, SendState.replies_settled nodup some_order replied.length_eq.symm]
    simp only [SendState.start, replied.mem_iff]

end Sessionbus
