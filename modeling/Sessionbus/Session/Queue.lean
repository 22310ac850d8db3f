import Sessionbus.Session.Issue
import Sessionbus.Traces

/-!
# The queue promise

A delivery that the daemon answered `queued_for_next_turn` leaves the queue exactly once, in
the order of those answers: written as the seed of a run, or settled because a close began
or the connection was lost.
-/

namespace Sessionbus

open Trace

/-! ## The queue in the trace -/

def Act.queuedRequest : Act → Option RoutedRequest
  | .queued r => some r
  | _ => none

def Act.leftRequest : Act → Option RoutedRequest
  | .started r => some r
  | .settled r _ => some r
  | _ => none

/-- The deliveries that were queued, in order. -/
def queuedOf (h : List Act) : List RoutedRequest := h.filterMap Act.queuedRequest

/-- The deliveries that left the queue, in order. -/
def leftOf (h : List Act) : List RoutedRequest := h.filterMap Act.leftRequest

/-- The act neither fills nor empties the queue. -/
def Act.offQueue : Act → Bool
  | .queued _ => false
  | .started _ => false
  | .settled _ _ => false
  | _ => true

namespace Session

/-- The seed a queued delivery becomes. -/
def seededBy (p : DeliveryRequest) (generation : String) (sequence : Nat) : Command :=
  .deliver { p with runID := runText generation sequence }

/-- Written at once, as the seed of a new run, or its frame did not encode or the wire did not take
it. -/
def WrittenNext (env : Env) (r : RoutedRequest) (after : List Act) : Prop :=
  ∃ p generation sequence id rest, r.call = .deliver p ∧
    (after = .reserved sequence :: .wrote id (seededBy p generation sequence) :: rest ∨
      ∃ encoded, env.encodes id (seededBy p generation sequence) = encoded ∧
        after = .reserved sequence :: .unsent id (seededBy p generation sequence) encoded ::
          .logged { r with runID := runText generation sequence } (.code .notConnected) :: rest)

/-- The queue is being settled because a close began or the connection was lost. -/
def SettlesFor (before : List Act) (code : Code) : Prop :=
  ∃ a l, code = .busy ∧ before = a ++ .closing :: settledActs .busy l ∨
    code = .notConnected ∧ before = a ++ .disconnected :: settledActs .notConnected l

structure QueueTrace (env : Env) (h : List Act) (queue : List RoutedRequest) : Prop where
  order : queuedOf h = leftOf h ++ queue
  answered : Everywhere (fun a x _ => ∀ r, x = .queued r →
    ∃ a₁ r₀, a = a₁ ++ [.answered r₀ (.value (.receipt .queuedForNextTurn))] ∧
      r = { r₀ with scheduled := true, reply := .none }) h
  started : Everywhere (fun _ x b => ∀ r, x = .started r → WrittenNext env r b) h
  settled : Everywhere (fun a x _ => ∀ r code, x = .settled r code → SettlesFor a code) h

theorem WrittenNext.append {env : Env} {r : RoutedRequest} {b : List Act} (h : WrittenNext env r b)
    (l : List Act) : WrittenNext env r (b ++ l) := by
  obtain ⟨p, g, n, id, rest, hcall, rfl | ⟨encoded, henc, rfl⟩⟩ := h
  · exact ⟨p, g, n, id, rest ++ l, hcall, .inl rfl⟩
  · exact ⟨p, g, n, id, rest ++ l, hcall, .inr ⟨encoded, henc, rfl⟩⟩

theorem queuedOf_append (h l : List Act) : queuedOf (h ++ l) = queuedOf h ++ queuedOf l :=
  List.filterMap_append

theorem leftOf_append (h l : List Act) : leftOf (h ++ l) = leftOf h ++ leftOf l :=
  List.filterMap_append

theorem queuedOf_offQueue {l : List Act} (hl : ∀ a ∈ l, a.offQueue = true) : queuedOf l = [] := by
  rw [queuedOf, List.filterMap_eq_nil_iff]
  intro a ha
  have := hl a ha
  cases a <;> simp_all [Act.offQueue, Act.queuedRequest]

theorem leftOf_offQueue {l : List Act} (hl : ∀ a ∈ l, a.offQueue = true) : leftOf l = [] := by
  rw [leftOf, List.filterMap_eq_nil_iff]
  intro a ha
  have := hl a ha
  cases a <;> simp_all [Act.offQueue, Act.leftRequest]

theorem answerAct_offQueue (r : RoutedRequest) (a : Answer) : (answerAct r a).offQueue = true := by
  unfold answerAct
  split <;> rfl

theorem leftOf_settledActs (code : Code) (l : List RoutedRequest) :
    leftOf (settledActs code l) = l := by
  induction l with
  | nil => rfl
  | cons r l ih =>
    have hans : leftOf [answerAct r (.code code)] = [] :=
      leftOf_offQueue (by simp [answerAct_offQueue])
    have hcons : leftOf (settledActs code (r :: l)) =
        r :: leftOf ([answerAct r (.code code)] ++ settledActs code l) := rfl
    rw [hcons, leftOf_append, hans, ih]
    rfl

theorem queuedOf_settledActs (code : Code) (l : List RoutedRequest) :
    queuedOf (settledActs code l) = [] := by
  rw [queuedOf, List.filterMap_eq_nil_iff]
  intro a ha
  simp only [settledActs, List.mem_flatMap, List.mem_cons, List.not_mem_nil, or_false] at ha
  obtain ⟨r, -, rfl | rfl⟩ := ha
  · rfl
  · unfold answerAct
    split <;> rfl

namespace QueueTrace

variable {env : Env} {h : List Act} {queue : List RoutedRequest}

theorem nil (env : Env) : QueueTrace env [] [] := ⟨rfl, .nil _, .nil _, .nil _⟩

theorem offQueue (ht : QueueTrace env h queue) {l : List Act} (hl : ∀ a ∈ l, a.offQueue = true) :
    QueueTrace env (h ++ l) queue := by
  refine ⟨?_, ?_, ?_, ?_⟩
  · rw [queuedOf_append, leftOf_append, queuedOf_offQueue hl, leftOf_offQueue hl, List.append_nil,
      List.append_nil]
    exact ht.order
  · refine ht.answered.append (fun _ _ _ h => h) (.of_forall fun x hx a b r hr => ?_)
    have := hl x hx
    simp [hr, Act.offQueue] at this
  · refine ht.started.append (fun _ _ _ h r hr => (h r hr).append l)
      (.of_forall fun x hx a b r hr => ?_)
    have := hl x hx
    simp [hr, Act.offQueue] at this
  · refine ht.settled.append (fun _ _ _ h => h) (.of_forall fun x hx a b r code hr => ?_)
    have := hl x hx
    simp [hr, Act.offQueue] at this

theorem queued (ht : QueueTrace env h queue) (r : RoutedRequest) :
    QueueTrace env (h ++ [.answered r (.value (.receipt .queuedForNextTurn)),
      .queued { r with scheduled := true, reply := .none }])
      (queue ++ [{ r with scheduled := true, reply := .none }]) := by
  refine ⟨?_, ?_, ?_, ?_⟩
  · rw [queuedOf_append, leftOf_append, ht.order, List.append_assoc, List.append_assoc]
    rfl
  · refine ht.answered.append (fun _ _ _ h => h) (.cons (by simp) (.cons ?_ (.nil _)))
    rintro _ ⟨⟩
    exact ⟨h, r, rfl, rfl⟩
  · exact ht.started.append (fun _ _ _ h r hr => (h r hr).append _)
      (.of_forall fun x hx a b r hr => by simp [hr] at hx)
  · exact ht.settled.append (fun _ _ _ h => h)
      (.of_forall fun x hx a b r code hr => by simp [hr] at hx)

theorem start {r : RoutedRequest} (ht : QueueTrace env h (r :: queue)) (sequence : Nat)
    {l : List Act} (hl : ∀ a ∈ l, a.offQueue = true)
    (hw : WrittenNext env r (.reserved sequence :: l)) :
    QueueTrace env (h ++ .started r :: .reserved sequence :: l) queue := by
  refine ⟨?_, ?_, ?_, ?_⟩
  · rw [queuedOf_append, leftOf_append, ht.order]
    have h₁ : queuedOf (.started r :: .reserved sequence :: l) = queuedOf l := rfl
    have h₂ : leftOf (.started r :: .reserved sequence :: l) = r :: leftOf l := rfl
    rw [h₁, h₂, queuedOf_offQueue hl, leftOf_offQueue hl]
    simp
  · refine ht.answered.append (fun _ _ _ h => h) (.of_forall fun x hx a b q hq => ?_)
    rcases List.mem_cons.mp hx with rfl | hx
    · simp at hq
    · rcases List.mem_cons.mp hx with rfl | hx
      · simp at hq
      · have := hl x hx
        simp [hq, Act.offQueue] at this
  · refine ht.started.append (fun _ _ _ h r hr => (h r hr).append _) (.cons ?_ (.cons (by simp) ?_))
    · rintro _ ⟨⟩
      exact hw
    · refine .of_forall fun x hx a b q hq => ?_
      have := hl x hx
      simp [hq, Act.offQueue] at this
  · refine ht.settled.append (fun _ _ _ h => h) (.cons (by simp) (.cons (by simp) ?_))
    refine .of_forall fun x hx a b q code hq => ?_
    have := hl x hx
    simp [hq, Act.offQueue] at this

end QueueTrace

/-- Within a settlement, the acts before a settled delivery are the cause and earlier settlements.
-/
theorem settledActs_everywhere (code : Code) (before : List Act) (passed l : List RoutedRequest) :
    Everywhere (fun a x _ => ∀ r c, x = .settled r c → c = code ∧
        ∃ l', before ++ settledActs code passed ++ a = before ++ settledActs code l')
      (settledActs code l) := by
  induction l generalizing passed with
  | nil => exact .nil _
  | cons r l ih =>
    refine .cons ?_ (.cons ?_ ?_)
    · rintro _ _ ⟨⟩
      exact ⟨rfl, passed, by simp⟩
    · intro q c hq
      have hoff := answerAct_offQueue r (.code code)
      rw [hq] at hoff
      cases hoff
    · intro a x b heq q c hq
      obtain ⟨hc, l', hl'⟩ := ih (passed ++ [r]) a x b heq q c hq
      refine ⟨hc, l', ?_⟩
      rw [← hl']
      simp [settledActs]

theorem QueueTrace.settle {env : Env} {h : List Act} {queue : List RoutedRequest}
    (ht : QueueTrace env h queue) {cause : Act} {code : Code}
    (hcause : cause = .closing ∧ code = .busy ∨ cause = .disconnected ∧ code = .notConnected) :
    QueueTrace env (h ++ cause :: settledActs code queue) [] := by
  have hoff : cause.offQueue = true := by rcases hcause with ⟨rfl, -⟩ | ⟨rfl, -⟩ <;> rfl
  have hmem : ∀ x ∈ settledActs code queue, (∃ r, x = .settled r code) ∨ x.offQueue = true := by
    intro x hx
    simp only [settledActs, List.mem_flatMap, List.mem_cons, List.not_mem_nil, or_false] at hx
    obtain ⟨r, -, rfl | rfl⟩ := hx
    · exact .inl ⟨r, rfl⟩
    · exact .inr (answerAct_offQueue _ _)
  refine ⟨?_, ?_, ?_, ?_⟩
  · have hsplit : h ++ cause :: settledActs code queue = h ++ [cause] ++
        settledActs code queue := by simp
    have hone : ∀ a ∈ [cause], a.offQueue = true := by simpa using hoff
    rw [hsplit, queuedOf_append, leftOf_append, queuedOf_append, leftOf_append,
      queuedOf_settledActs, leftOf_settledActs, queuedOf_offQueue hone,
      leftOf_offQueue hone, ht.order]
    simp
  · refine ht.answered.append (fun _ _ _ h => h) (.of_forall fun x hx a b r hr => ?_)
    subst hr
    rcases List.mem_cons.mp hx with rfl | hx
    · simp [Act.offQueue] at hoff
    · rcases hmem _ hx with ⟨_, ⟨⟩⟩ | hp
      simp [Act.offQueue] at hp
  · refine ht.started.append (fun _ _ _ h r hr => (h r hr).append _)
      (.of_forall fun x hx a b r hr => ?_)
    subst hr
    rcases List.mem_cons.mp hx with rfl | hx
    · simp [Act.offQueue] at hoff
    · rcases hmem _ hx with ⟨_, ⟨⟩⟩ | hp
      simp [Act.offQueue] at hp
  · refine ht.settled.append (fun _ _ _ h => h) (.cons ?_ ?_)
    · intro r c hr
      rw [hr] at hoff
      cases hoff
    · intro a x b heq r c hr
      obtain ⟨rfl, l', hl'⟩ := settledActs_everywhere code (h ++ [cause]) [] queue a x b heq r c hr
      have ha : h ++ cause :: a = h ++ cause :: settledActs c l' := by simpa [settledActs] using hl'
      rw [ha]
      rcases hcause with ⟨rfl, rfl⟩ | ⟨rfl, rfl⟩
      · exact ⟨h, l', .inl ⟨rfl, rfl⟩⟩
      · exact ⟨h, l', .inr ⟨rfl, rfl⟩⟩

end Session

end Sessionbus
