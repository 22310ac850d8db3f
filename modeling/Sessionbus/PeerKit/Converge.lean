import Sessionbus.PeerKit.Carried

/-!
# Identities converge

When no hello is outstanding, the open connection in `p.wire` has been told the identity that the
peer desires, last. The invariant is about the hellos that are underway: the last reply on its way
up belongs to the last hello that the daemon has accepted.
-/

namespace Sessionbus.PeerKit

variable {Info : Type}

/-- The replies that no observer has seen. -/
def Wire.answers (w : Wire Info) : List (Nat × Bool) :=
  (w.claimed.map fun reply => (reply.call, reply.accepted)).toList ++ w.down

/-- A hello that will say hello again or whose call has not come back. -/
def Phase.active (p : Phase) : Prop := p ≠ .finished ∧ p ≠ .done .installed

/-- The hellos carry their identities, and the last acceptance is the last one there is. -/
structure Answers (hellos : Nat → Option (Hello Info)) (w : Wire Info) : Prop where
  sent : ∀ k identity, (k, identity) ∈ w.up → ∀ h, hellos k = some h → h.identity = identity
  last : ∀ k, w.answers.getLast? = some (k, true) → ∀ h, hellos k = some h →
    w.accepted.getLast? = some h.identity

namespace Kit

variable {kit : Kit Info}

/-- A hello on this connection is underway. -/
def Busy (kit : Kit Info) (c : Nat) : Prop :=
  ∃ k h, kit.hellos k = some h ∧ h.wire = c ∧ h.phase.active

structure Converging (kit : Kit Info) : Prop where
  generation : ∀ k h, kit.hellos k = some h →
    h.generation ≤ kit.generation ∧ (h.generation = kit.generation → h.identity = kit.identity)
  answers : ∀ c, (kit.wires c).closed = false → Answers kit.hellos (kit.wires c)
  rehello : kit.cancelled = false → ∀ k h, kit.hellos k = some h → h.caller = .rehello →
    (kit.wires h.wire).closed = false → h.phase ≠ .done .failed
  flown : kit.cancelled = false → ∀ c, (kit.wires c).closed = false → ∀ k ∈ (kit.wires c).flying,
    ∀ h, kit.hellos k = some h → h.phase ≠ .finished
  settled : kit.cancelled = false → ∀ c, kit.wire = some c → (kit.wires c).closed = false →
    kit.Busy c ∨
    (kit.admitted = some kit.identity ∧ (kit.wires c).accepted.getLast? = some kit.identity)

theorem mem_flying_answers {w : Wire Info} {k : Nat} {accepted : Bool}
    (mem : (k, accepted) ∈ w.answers) : k ∈ w.flying := by
  simp only [Wire.answers, Wire.flying, List.mem_append, Option.mem_toList,
    Option.map_eq_some_iff] at mem ⊢
  rcases mem with ⟨reply, claimed, e⟩ | mem
  · exact .inl (.inl ⟨reply, claimed, congrArg Prod.fst e⟩)
  · exact .inl (.inr (List.mem_map_of_mem mem))

theorem mem_flying_up {w : Wire Info} {k : Nat} {identity : Identity Info}
    (mem : (k, identity) ∈ w.up) : k ∈ w.flying :=
  List.mem_append_right _ (List.mem_map_of_mem (f := Prod.fst) mem)

namespace Converging

theorem start (identity : Identity Info) : (Kit.start identity).Converging := by
  refine ⟨by simp [Kit.start], ?_, by simp [Kit.start], by simp [Kit.start], by simp [Kit.start]⟩
  intro c _
  constructor <;> simp [Kit.start, Wire.answers]

theorem busy (h : kit.Converging) (sane : kit.Sane) (live : kit.cancelled = false) {c : Nat}
    (opened : (kit.wires c).closed = false) {k : Nat} (mem : k ∈ (kit.wires c).flying) :
    ∃ hello, kit.hellos k = some hello ∧ hello.wire = c ∧ hello.phase.active := by
  obtain ⟨hello, found, wire, flies⟩ := sane.carried.flying c opened k mem
  refine ⟨hello, found, wire, h.flown live c opened k mem hello found, ?_⟩
  intro phase
  rw [phase, Phase.flies_done] at flies
  cases flies

theorem same (h : kit.Converging) {next : Kit Info} (identity : next.identity = kit.identity)
    (admitted : next.admitted = kit.admitted) (generation : next.generation = kit.generation)
    (wire : ∀ c, next.wire = some c → kit.wire = some c)
    (cancelled : next.cancelled = false → kit.cancelled = false) (wires : next.wires = kit.wires)
    (hellos : next.hellos = kit.hellos) : next.Converging := by
  constructor
  · rw [hellos, generation, identity]
    exact h.generation
  · rw [hellos, wires]
    exact h.answers
  · rw [hellos, wires]
    exact fun live => h.rehello (cancelled live)
  · rw [hellos, wires]
    exact fun live => h.flown (cancelled live)
  · unfold Busy
    rw [hellos, wires, admitted, identity]
    exact fun live c e => h.settled (cancelled live) c (wire c e)

theorem setWire (h : kit.Converging) (c : Nat) (w : Wire Info)
    (closed : (kit.wires c).closed = true → w.closed = true)
    (answers : w.closed = false → Answers kit.hellos w)
    (flown : kit.cancelled = false → w.closed = false → ∀ k ∈ w.flying, ∀ h, kit.hellos k = some h →
      h.phase ≠ .finished)
    (settled : kit.cancelled = false → w.closed = false → kit.wire = some c →
      kit.Busy c ∨ (kit.admitted = some kit.identity ∧ w.accepted.getLast? = some kit.identity)) :
    (kit.setWire c w).Converging := by
  have at_ : ∀ c', (c' = c ∧ (kit.setWire c w).wires c' = w) ∨
      (kit.setWire c w).wires c' = kit.wires c' := by
    intro c'
    rw [setWire_wires, Function.update_apply]
    split
    next e => exact .inl ⟨e, rfl⟩
    · exact .inr rfl
  refine ⟨h.generation, ?_, ?_, ?_, ?_⟩
  · intro c'
    rcases at_ c' with ⟨-, e⟩ | e <;> rw [e]
    · exact answers
    · exact h.answers c'
  · intro live k hello found caller
    rcases at_ hello.wire with ⟨same, e⟩ | e <;> rw [e]
    · intro opened
      refine h.rehello live k hello found caller ?_
      by_contra was
      rw [Bool.not_eq_false, same] at was
      cases opened.symm.trans (closed was)
    · exact h.rehello live k hello found caller
  · intro live c'
    rcases at_ c' with ⟨-, e⟩ | e <;> rw [e]
    · exact flown live
    · exact h.flown live c'
  · intro live c' wire
    rcases at_ c' with ⟨rfl, e⟩ | e <;> rw [e]
    · exact fun opened => settled live opened wire
    · exact h.settled live c' wire

theorem close (h : kit.Converging) (c : Nat) : (kit.close c).Converging := by
  unfold Kit.close
  split
  · exact h
  · exact h.setWire c _ (fun _ => rfl) (by simp) (by simp) (by simp)

theorem setHello (h : kit.Converging) (new : Hello Info) {k : Nat} {old : Hello Info}
    (found : kit.hellos k = some old) (caller : new.caller = old.caller)
    (wire : new.wire = old.wire) (identity : new.identity = old.identity)
    (generation : new.generation = old.generation)
    (rehello : kit.cancelled = false → old.caller = .rehello → (kit.wires old.wire).closed = false →
      new.phase ≠ .done .failed)
    (flown : kit.cancelled = false → ∀ c, (kit.wires c).closed = false → k ∈ (kit.wires c).flying →
      new.phase ≠ .finished)
    (active : kit.cancelled = false → kit.wire = some old.wire →
      (kit.wires old.wire).closed = false → old.phase.active → new.phase.active) :
    (kit.setHello k new).Converging := by
  refine ⟨?_, ?_, ?_, ?_, ?_⟩
  · intro k' hello e
    obtain ⟨-, rfl⟩ | ⟨-, e⟩ := setHello_found e
    · rw [generation, identity]
      exact h.generation k old found
    · exact h.generation k' hello e
  · intro c opened
    obtain ⟨sent, last⟩ := h.answers c opened
    constructor
    · intro k' identity' mem hello e
      obtain ⟨rfl, rfl⟩ | ⟨-, e⟩ := setHello_found e
      · rw [identity]
        exact sent k' identity' mem old found
      · exact sent k' identity' mem hello e
    · intro k' ends hello e
      obtain ⟨rfl, rfl⟩ | ⟨-, e⟩ := setHello_found e
      · rw [identity]
        exact last k' ends old found
      · exact last k' ends hello e
  · intro live k' hello e byRehello opened
    obtain ⟨rfl, rfl⟩ | ⟨-, e⟩ := setHello_found e
    · exact rehello live (caller ▸ byRehello) (wire ▸ opened)
    · exact h.rehello live k' hello e byRehello opened
  · intro live c opened k' mem hello e
    obtain ⟨rfl, rfl⟩ | ⟨-, e⟩ := setHello_found e
    · exact flown live c opened mem
    · exact h.flown live c opened k' mem hello e
  · intro live c current opened
    refine (h.settled live c current opened).imp_left ?_
    rintro ⟨k', hello, e, rfl, was⟩
    by_cases same : k' = k
    · subst same
      cases found.symm.trans e
      exact ⟨k', new, by simp, wire, active live current opened was⟩
    · exact ⟨k', hello, by simpa [Function.update_apply, same] using e, rfl, was⟩

theorem hello (h : kit.Converging) (sane : kit.Sane) (caller : Caller) (c : Nat) :
    (kit.hello caller c).Converging := by
  have flies : ∀ c', (kit.wires c').closed = false → kit.begun ∉ (kit.wires c').flying := by
    intro c' opened mem
    obtain ⟨old, found, -⟩ := sane.carried.flying c' opened _ mem
    cases (sane.linked.fresh _ (Nat.le_refl _)).symm.trans found
  refine ⟨?_, ?_, ?_, ?_, ?_⟩
  · intro k found e
    obtain ⟨-, rfl⟩ | e := Linked.hello_cases e
    · exact ⟨Nat.le_refl _, fun _ => rfl⟩
    · exact h.generation k found e
  · intro c' opened
    obtain ⟨sent, last⟩ := h.answers c' opened
    constructor
    · intro k identity mem found e
      obtain ⟨rfl, -⟩ | e := Linked.hello_cases e
      · exact absurd (mem_flying_up mem) (flies c' opened)
      · exact sent k identity mem found e
    · intro k ends found e
      obtain ⟨rfl, -⟩ | e := Linked.hello_cases e
      · exact absurd (mem_flying_answers (List.mem_of_getLast? ends)) (flies c' opened)
      · exact last k ends found e
  · intro live k found e byRehello opened
    obtain ⟨-, rfl⟩ | e := Linked.hello_cases e
    · simp
    · exact h.rehello live k found e byRehello opened
  · intro live c' opened k mem found e
    obtain ⟨-, rfl⟩ | e := Linked.hello_cases e
    · simp
    · exact h.flown live c' opened k mem found e
  · intro live c' wire opened
    refine (h.settled live c' wire opened).imp_left ?_
    rintro ⟨k, found, e, rest⟩
    exact ⟨k, found, sane.linked.hello_found e, rest⟩

theorem of_wire_none (h : { kit with wire := none }.Converging)
    (settled : kit.cancelled = false → ∀ c, kit.wire = some c → (kit.wires c).closed = false →
      kit.Busy c ∨
      (kit.admitted = some kit.identity ∧ (kit.wires c).accepted.getLast? = some kit.identity)) :
    kit.Converging :=
  ⟨h.generation, h.answers, h.rehello, h.flown, settled⟩

theorem desired (h : kit.Converging) (identity : Identity Info) (replacement : Bool) :
    { kit.desired identity replacement with wire := none }.Converging := by
  refine ⟨?_, h.answers, h.rehello, h.flown, by simp⟩
  intro k hello found
  have older := (h.generation k hello found).1
  refine ⟨Nat.le_succ_of_le older, ?_⟩
  intro e
  have same : hello.generation = kit.generation + 1 := e
  omega

theorem changed [DecidableEq Info] (h : kit.Converging) (sane : kit.Sane)
    (snapshot : Identity Info → Option (Identity Info)) (identity : Identity Info)
    (replacement : Bool) (caller : Caller) :
    (Kit.changed (kit.desire snapshot identity replacement) caller).Converging := by
  obtain e | ⟨identity', e⟩ := desire_cases snapshot kit identity replacement
  · rw [e]
    exact h
  · have told := h.desired identity' replacement
    rw [e]
    cases wire : kit.wire with
    | none =>
      refine told.same rfl rfl rfl ?_ id rfl rfl
      intro c current
      cases replacement <;> simp [Kit.changed, Kit.desired, wire] at current
    | some c =>
      have linked : { kit.desired identity' replacement with wire := none }.Sane :=
        ⟨(sane.linked.desired identity' replacement).wire_none, sane.carried.same rfl rfl⟩
      refine of_wire_none (told.hello linked caller c) ?_
      intro _ c' current _
      refine .inl
        ⟨kit.begun, { caller, wire := c, identity := identity', generation := kit.generation + 1 },
          ?_, ?_, ?_⟩
      · simp [Kit.changed, Kit.hello, Kit.desired]
      · cases replacement <;> simp [Kit.changed, Kit.hello, Kit.desired, wire] at current
        exact current
      · simp [Phase.active]

theorem begin (h : kit.Converging) {k : Nat} {fits : Bool}
    (timely : kit.timely (.call k fits) = true) : (kit.begin k fits).Converging := by
  unfold Kit.begin
  split
  · exact h
  next old found =>
    split
    next ready =>
      simp only
      split
      next fails =>
        refine h.setHello { old with phase := .done .failed } found rfl rfl rfl rfl ?_ (by simp)
          (by simp [Phase.active])
        intro live byRehello opened
        simp [live, opened, byRehello, Kit.timely, found] at fails timely
        exact absurd timely (by simp [fails])
      next fits =>
        have waits : (kit.setHello k { old with phase := .waiting }).Converging :=
          h.setHello { old with phase := .waiting } found rfl rfl rfl rfl (by simp) (by simp)
          (by simp [Phase.active])
        have opened : (kit.wires old.wire).closed = false := by
          cases e : (kit.wires old.wire).closed
          · rfl
          · simp [e] at fits
        refine waits.setWire old.wire _ id ?_ ?_ ?_
        · intro _
          obtain ⟨sent, last⟩ := waits.answers old.wire opened
          refine ⟨?_, last⟩
          intro k' identity mem hello e
          rcases List.mem_append.mp mem with mem | mem
          · exact sent k' identity mem hello e
          · obtain ⟨rfl, rfl⟩ : k' = k ∧ identity = old.identity := by simpa using mem
            obtain rfl : { old with phase := .waiting } = hello := by simpa using e
            rfl
        · intro live _ k' mem hello e
          obtain ⟨-, rfl⟩ | ⟨other, e'⟩ := setHello_found e
          · simp
          · refine waits.flown live old.wire opened k' ?_ hello e
            simpa [Wire.flying, other] using mem
        · exact fun live _ wire => waits.settled live old.wire wire opened
    · exact h

theorem handle (h : kit.Converging) (sane : kit.Sane) (c : Nat) (accepts : Bool) :
    (kit.handle c accepts).Converging := by
  unfold Kit.handle
  simp only
  split
  · exact h
  next k identity up underway =>
    have mem : k ∈ (kit.wires c).flying := mem_flying_up (underway ▸ List.mem_cons_self)
    refine h.setWire c _ id ?_ ?_ ?_
    · intro opened
      obtain ⟨sent, last⟩ := h.answers c opened
      constructor
      · exact fun k' identity' mem' => sent k' identity' (underway ▸ List.mem_cons_of_mem _ mem')
      · intro k' ends hello found
        have ends : some (k, accepts) = some (k', true) := by
          simpa [Wire.answers, ← List.append_assoc] using ends
        simp only [Option.some.injEq, Prod.mk.injEq] at ends
        obtain ⟨rfl, rfl⟩ := ends
        rw [sent k identity (underway ▸ List.mem_cons_self) hello found]
        simp
    · intro live opened k' mem'
      refine h.flown live c opened k' ?_
      simpa [Wire.flying, underway] using mem'
    · intro live opened _
      obtain ⟨hello, busy⟩ := h.busy sane live opened mem
      exact .inl ⟨k, hello, busy⟩

theorem claim (h : kit.Converging) (c : Nat) : (kit.claim c).Converging := by
  unfold Kit.claim
  simp only
  split
  next k accepted down free underway =>
    split
    · refine Converging.close ?_ c
      refine h.setWire c _ id ?_ ?_ (fun live opened wire => h.settled live c wire opened)
      · intro opened
        obtain ⟨sent, last⟩ := h.answers c opened
        refine ⟨sent, ?_⟩
        intro k' ends
        have ends : down.getLast? = some (k', true) := by simpa [Wire.answers, free] using ends
        refine last k' ?_
        simp [Wire.answers, free, underway, List.getLast?_cons, ends]
      · intro live opened k' mem
        refine h.flown live c opened k' ?_
        simp only [Wire.flying, free, underway, Option.map_none, Option.toList_none,
          List.nil_append, List.map_cons, List.cons_append, List.mem_cons] at mem ⊢
        exact .inr mem
    next drain entry =>
      refine h.setWire c _ id ?_ ?_ (fun live opened wire => h.settled live c wire opened)
      · intro opened
        obtain ⟨sent, last⟩ := h.answers c opened
        refine ⟨sent, ?_⟩
        intro k' ends
        refine last k' ?_
        simpa [Wire.answers, free, underway] using ends
      · intro live opened k' mem
        refine h.flown live c opened k' ?_
        simpa [Wire.flying, free, underway] using mem
  · exact h

theorem taken (h : kit.Converging) {c : Nat} {reply : Claim}
    (claimed : (kit.wires c).claimed = some reply) :
    (kit.setWire c { kit.wires c with claimed := none }).Converging := by
  refine h.setWire c _ id ?_ ?_ (fun live opened wire => h.settled live c wire opened)
  · intro opened
    obtain ⟨sent, last⟩ := h.answers c opened
    refine ⟨sent, ?_⟩
    intro k ends
    have ends : (kit.wires c).down.getLast? = some (k, true) := by simpa [Wire.answers] using ends
    refine last k ?_
    simp [Wire.answers, claimed, List.getLast?_cons, ends]
  · intro live opened k mem
    refine h.flown live c opened k ?_
    simp only [Wire.flying, claimed, Option.map_none, Option.toList_none, List.nil_append,
      Option.map_some, Option.toList_some, List.cons_append, List.mem_cons] at mem ⊢
    exact .inr mem

/-- An observer has found another generation: no frame of its hello is underway. -/
theorem stale (h : kit.Converging) {k : Nat} {old : Hello Info} (found : kit.hellos k = some old)
    (absent : ∀ c, (kit.wires c).closed = false → k ∉ (kit.wires c).flying) :
    (kit.setHello k { old with
      identity := kit.identity, generation := kit.generation,
      phase := .done .stale }).Converging := by
  refine ⟨?_, ?_, ?_, ?_, ?_⟩
  · intro k' hello e
    obtain ⟨-, rfl⟩ | ⟨-, e⟩ := setHello_found e
    · exact ⟨Nat.le_refl _, fun _ => rfl⟩
    · exact h.generation k' hello e
  · intro c opened
    obtain ⟨sent, last⟩ := h.answers c opened
    constructor
    · intro k' identity mem hello e
      obtain ⟨rfl, -⟩ | ⟨-, e⟩ := setHello_found e
      · exact absurd (mem_flying_up mem) (absent c opened)
      · exact sent k' identity mem hello e
    · intro k' ends hello e
      obtain ⟨rfl, -⟩ | ⟨-, e⟩ := setHello_found e
      · exact absurd (mem_flying_answers (List.mem_of_getLast? ends)) (absent c opened)
      · exact last k' ends hello e
  · intro live k' hello e byRehello opened
    obtain ⟨-, rfl⟩ | ⟨-, e⟩ := setHello_found e
    · simp
    · exact h.rehello live k' hello e byRehello opened
  · intro live c opened k' mem hello e
    obtain ⟨-, rfl⟩ | ⟨-, e⟩ := setHello_found e
    · simp
    · exact h.flown live c opened k' mem hello e
  · intro live c wire opened
    refine (h.settled live c wire opened).imp_left ?_
    rintro ⟨k', hello, e, rfl, was⟩
    by_cases same : k' = k
    · subst same
      cases found.symm.trans e
      exact ⟨k',
        { old with identity := kit.identity, generation := kit.generation, phase := .done .stale },
        by simp, rfl, by simp [Phase.active]⟩
    · exact ⟨k', hello, by simpa [Function.update_apply, same] using e, rfl, was⟩

/-- An observer installs: either its reply is the last one underway, or another hello is. -/
theorem install (h : kit.Converging) (sane : kit.Sane) {reply : Claim} {old : Hello Info}
    (claimed : (kit.wires old.wire).claimed = some reply) (accepted : reply.accepted = true)
    (found : kit.hellos reply.call = some old) (now : old.generation = kit.generation)
    (absent : (kit.wires old.wire).closed = false →
      reply.call ∉ Wire.flying { kit.wires old.wire with claimed := none }) :
    { (kit.setWire old.wire { kit.wires old.wire with claimed := none }).setHello reply.call
        { old with phase := .done .installed } with
      admitted := some old.identity, wire := some old.wire }.Converging := by
  have released : { kit.setWire old.wire { kit.wires old.wire with claimed := none } with
      admitted := some old.identity, wire := none }.Converging := by
    obtain ⟨generation, answers, rehello, flown, -⟩ := h.taken claimed
    exact ⟨generation, answers, rehello, flown, by simp⟩
  refine of_wire_none
    (released.setHello { old with phase := .done .installed } found rfl rfl rfl rfl
      (by simp) (by simp)
    (by simp)) ?_
  intro live c wire opened
  obtain rfl : old.wire = c := by simpa using wire
  have opened : (kit.wires old.wire).closed = false := by simpa using opened
  obtain ⟨sent, last⟩ := h.answers old.wire opened
  rcases List.eq_nil_or_concat (kit.wires old.wire).down with none_ | ⟨before, ⟨k, accepts⟩, down⟩
  · right
    have identity := (h.generation _ old found).2 now
    have ends := last reply.call (by simp [Wire.answers, claimed, none_, accepted]) old found
    exact ⟨by simp [identity], by simpa [identity] using ends⟩
  · left
    have mem : k ∈ Wire.flying { kit.wires old.wire with claimed := none } := by
      simp [Wire.flying, down]
    have other : k ≠ reply.call := by
      rintro rfl
      exact absent opened mem
    obtain ⟨hello, found', on, active⟩ :=
      h.busy sane live opened (k := k) (by simp [Wire.flying, down])
    exact ⟨k, hello, by simpa [Function.update_apply, other] using found', on, active⟩

theorem observe (h : kit.Converging) (sane : kit.Sane) (c : Nat) : (kit.observe c).Converging := by
  unfold Kit.observe
  simp only
  split
  · exact h
  next reply claimed =>
    have released := h.taken claimed
    rw [setWire_hellos]
    split
    · exact released
    next old found =>
      cases drain : reply.drain with
      | true => exact released
      | false =>
        obtain ⟨_, found', rfl, phase⟩ := sane.carried.claimed c reply claimed drain
        cases found.symm.trans found'
        obtain ⟨carried, gone⟩ := sane.carried.taken claimed
        rw [if_neg (by simp)]
        split
        next accepted =>
          unfold Kit.observer
          rw [setWire_cancelled, setWire_generation]
          split
          next cancelled =>
            rw [close_setHello]
            refine Converging.close ?_ old.wire
            refine released.setHello { old with phase := .done .failed } found rfl rfl rfl rfl
              ?_ ?_ ?_ <;>
              simp [cancelled]
          next live =>
            split
            next now => exact h.install sane claimed accepted found now gone
            next now =>
              refine released.stale found ?_
              intro c opened mem
              obtain ⟨hello, found', wire, -⟩ := carried.flying c opened _ mem
              cases found.symm.trans found'
              subst wire
              exact gone (by simpa using opened) (by simpa using mem)
        · exact released.setHello { old with phase := .done .refused } found rfl rfl rfl rfl
            (by simp) (by simp) (by simp [Phase.active])

theorem abandon (h : kit.Converging) (k : Nat) : (kit.abandon k).Converging := by
  unfold Kit.abandon
  split
  · exact h
  next old found =>
    simp only
    split
    next can =>
      refine Converging.setHello ?_ { old with phase := .done .failed } found rfl rfl rfl rfl ?_
        (by simp) (by simp [Phase.active])
      · exact h.setWire old.wire _ id
          (fun opened => ⟨(h.answers old.wire opened).sent, (h.answers old.wire opened).last⟩)
          (fun live opened => h.flown live old.wire opened)
          (fun live opened wire => h.settled live old.wire wire opened)
      · intro live byRehello _
        rcases can.2.1 with cancelled | byReplace
        · cases cancelled.symm.trans live
        · cases byRehello.symm.trans byReplace
    · exact h

theorem fail (h : kit.Converging) (k : Nat) : (kit.fail k).Converging := by
  unfold Kit.fail
  split
  · exact h
  next old found =>
    simp only
    split
    next can =>
      refine h.setHello { old with phase := .done .failed } found rfl rfl rfl rfl ?_ (by simp)
        (by simp [Phase.active])
      intro _ _ opened
      cases opened.symm.trans can.2.1
    · exact h

theorem cancel (h : kit.Converging) (cancelled : Bool) :
    { kit with cancelled := kit.cancelled || cancelled }.Converging :=
  h.same rfl rfl rfl (fun _ => id) (fun live => (Bool.or_eq_false_iff.mp live).1) rfl rfl

theorem finish_closed (h : kit.Converging) (sane : kit.Sane) {k : Nat} {old : Hello Info}
    (found : kit.hellos k = some old) (closed : (kit.wires old.wire).closed = true) :
    (kit.setHello k { old with phase := .finished }).Converging := by
  refine h.setHello { old with phase := .finished } found rfl rfl rfl rfl (by simp) ?_ ?_
  · intro _ c opened mem
    obtain ⟨hello, found', rfl, -⟩ := sane.carried.flying c opened k mem
    cases found.symm.trans found'
    cases opened.symm.trans closed
  · intro _ _ opened
    cases opened.symm.trans closed

theorem failed (h : kit.Converging) (sane : kit.Sane) {k : Nat} {old : Hello Info}
    (found : kit.hellos k = some old) {refused : Bool}
    (phase : old.phase = .done (if refused then .refused else .failed)) :
    (kit.failed k old refused).Converging := by
  unfold Kit.failed
  split
  next byRehello =>
    -- On an open connection only a refusal ends a `Rehello`, and it cancels the peer.
    have ends : (kit.failHello refused).cancelled = false → (kit.wires old.wire).closed = true := by
      intro live
      obtain ⟨lives, rfl⟩ : kit.cancelled = false ∧ refused = false := by
        simpa [Kit.failHello] using live
      by_contra opened
      exact h.rehello lives k old found byRehello (by simpa using opened) (by simpa using phase)
    refine (h.cancel refused).setHello { old with phase := .finished } found rfl rfl rfl rfl
      (by simp) ?_ ?_
    · intro live c opened mem
      obtain ⟨hello, found', rfl, -⟩ := sane.carried.flying c opened k mem
      cases found.symm.trans found'
      cases opened.symm.trans (ends live)
    · intro live _ opened
      cases opened.symm.trans (ends live)
  · exact (h.cancel refused).setHello { old with phase := .closing } found rfl rfl rfl rfl
      (by simp) (by simp) (by simp [Phase.active])
  · have found' : (kit.close old.wire).hellos k = some old := by rw [close_hellos, found]
    exact (h.close old.wire).setHello { old with phase := .failing refused } found' rfl rfl rfl rfl
      (by simp) (by simp) (by simp [Phase.active])

theorem proceed (h : kit.Converging) (sane : kit.Sane) (k : Nat) : (kit.proceed k).Converging := by
  unfold Kit.proceed
  split
  · exact h
  next old found =>
    split
    next phase =>
      have finished : (kit.setHello k { old with phase := .finished }).Converging := by
        refine h.setHello { old with phase := .finished } found rfl rfl rfl rfl (by simp) ?_
          (by simp [phase, Phase.active])
        intro _ c opened mem
        obtain ⟨hello, found', -, flies⟩ := sane.carried.flying c opened k mem
        cases found.symm.trans found'
        rw [phase, Phase.flies_done] at flies
        cases flies
      exact finished.same rfl rfl rfl (fun _ => id) id rfl rfl
    next phase =>
      exact h.setHello { old with phase := .ready } found rfl rfl rfl rfl (by simp) (by simp)
        (by simp [Phase.active])
    next phase => exact h.failed sane found phase
    next phase => exact h.failed sane found phase
    next phase =>
      have found' : (kit.close old.wire).hellos k = some old := by rw [close_hellos, found]
      exact (h.close old.wire).finish_closed (sane.close old.wire) found'
        (close_closed kit old.wire)
    next refused phase =>
      have finished := (h.cancel refused).finish_closed (sane.cancel _) found
          (sane.linked.failing k old refused found phase).2
      exact finished.same rfl rfl rfl (fun _ => id) id rfl rfl
    · exact h

theorem step [DecidableEq Info] (h : kit.Converging) (sane : kit.Sane)
    (snapshot : Identity Info → Option (Identity Info)) {a : Action Info}
    (timely : kit.timely a = true) : (kit.step snapshot a).Converging := by
  cases a with
  | rehello name info => exact h.changed sane snapshot _ false .rehello
  | replace identity => exact h.changed sane snapshot identity true .replace
  | call k fits => exact h.begin timely
  | handle c accepts => exact h.handle sane c accepts
  | claim c => exact h.claim c
  | observe c => exact h.observe sane c
  | abandon k => exact h.abandon k
  | fail k => exact h.fail k
  | proceed k => exact h.proceed sane k
  | close c =>
    simp only [Kit.step]
    split
    · exact h.close c
    · exact h
  | dial =>
    simp only [Kit.step]
    split
    · exact h.same rfl rfl rfl (fun _ => id) id rfl rfl
    · exact h
  | take =>
    simp only [Kit.step]
    split
    next c _ => exact (h.hello sane .connect c).same rfl rfl rfl (fun _ => id) id rfl rfl
    · exact h
  | lost =>
    simp only [Kit.step, Kit.lost]
    split
    · split
      · refine h.same rfl rfl rfl ?_ id rfl rfl
        intro c' wire
        simp only at wire
        split at wire
        · cases wire
        · exact wire
      · exact h
    · exact h
  | stop =>
    simp only [Kit.step]
    split
    · exact h.same rfl rfl rfl (fun _ => id) id rfl rfl
    · exact h
  | superseded c =>
    simp only [Kit.step]
    split
    · exact h.same rfl rfl rfl (by simp) id rfl rfl
    · exact h
  | cancel => exact h.same rfl rfl rfl (fun _ => id) (by simp [Kit.step]) rfl rfl

end Converging

/-! ## Runs -/

section Runs

variable [DecidableEq Info] (snapshot : Identity Info → Option (Identity Info))

theorem run_converging (sane : kit.Sane) (h : kit.Converging) (actions : List (Action Info))
    (timely : kit.timelyRun snapshot actions = true) :
    (kit.run snapshot actions).Sane ∧ (kit.run snapshot actions).Converging := by
  induction actions generalizing kit with
  | nil => exact ⟨sane, h⟩
  | cons a actions ih =>
    simp only [timelyRun, Bool.and_eq_true] at timely
    exact ih (sane.step snapshot timely.1) (h.step sane snapshot timely.1) timely.2

omit [DecidableEq Info] in
theorem close_dialled (kit : Kit Info) (c : Nat) : (kit.close c).dialled = kit.dialled := by
  unfold Kit.close
  split <;> rfl

theorem step_dialled (kit : Kit Info) (a : Action Info) :
    kit.dialled ≤ (kit.step snapshot a).dialled := by
  cases a with
  | rehello name info =>
    obtain e | ⟨identity, e⟩ := desire_cases snapshot kit { name, info } false <;> rw [Kit.step, e]
    · exact Nat.le_refl _
    · cases kit.wire <;> exact Nat.le_refl _
  | replace identity =>
    obtain e | ⟨identity', e⟩ := desire_cases snapshot kit identity true <;> rw [Kit.step, e]
    · exact Nat.le_refl _
    · cases kit.wire <;> exact Nat.le_refl _
  | dial =>
    simp only [Kit.step]
    split
    · exact Nat.le_succ _
    · exact Nat.le_refl _
  | _ =>
    apply Nat.le_of_eq
    simp only [Kit.step, Kit.begin, Kit.handle, Kit.claim, Kit.observe, Kit.observer, Kit.abandon,
      Kit.fail, Kit.proceed, Kit.failed, Kit.failHello, Kit.lost, Kit.hello]
    repeat' split
    all_goals simp [close_dialled]

theorem wire_newer (sane : kit.Sane) {a : Action Info} (timely : kit.timely a = true) {b c : Nat}
    (was : kit.wire = some b) (is : (kit.step snapshot a).wire = some c) : b ≤ c := by
  have old := sane.linked.held (sane.linked.current b was)
  have new :=
    (sane.step snapshot timely).linked.held ((sane.step snapshot timely).linked.current c is)
  have grows := step_dialled snapshot kit a
  omega

/-- When no hello is outstanding, `p.wire` is the newest connection; and while it is open and the
peer goes on, the peer was admitted as what it desires to be, the last hello that the daemon
accepted. No step replaces it by an older one. -/
theorem identity_converges (identity : Identity Info) (actions : List (Action Info))
    (timely : (Kit.start identity).timelyRun snapshot actions = true) :
    let kit := (Kit.start identity).run snapshot actions
    (kit.Quiet → ∀ c, kit.wire = some c → c + 1 = kit.dialled ∧
        ((kit.wires c).closed = false → kit.cancelled = false →
          kit.admitted = some kit.identity ∧ (kit.wires c).accepted.getLast? = some kit.identity)) ∧
      ∀ a, kit.timely a = true → ∀ b c, kit.wire = some b →
        (kit.step snapshot a).wire = some c → b ≤ c := by
  intro kit
  obtain ⟨sane, converging⟩ :=
    run_converging snapshot (.start identity) (.start identity) actions timely
  refine ⟨?_, fun a timely b c was is => wire_newer snapshot sane timely was is⟩
  intro quiet c wire
  refine ⟨sane.linked.held (sane.linked.current c wire), ?_⟩
  intro opened live
  rcases converging.settled live c wire opened with ⟨k, hello, found, -, active⟩ | settled
  · exact absurd (quiet k hello found) active.1
  · exact settled

end Runs

/-! ## Runs that are not timely -/

section Untimely

def someone : Identity Unit := { product := "p", sessionID := "a", groups := ["g"], info := () }

/-- The first connection of a peer, and the `Rehello` that is made on it. -/
def renamed : List (Action Unit) :=
  [.dial, .take, .call 0 true, .handle 0 true, .claim 0, .observe 0, .proceed 0, .rehello "n" ()]

/-- The reply to the `Rehello` is claimed; before its observer runs, the connection closes and a
second one is installed. -/
def late : List (Action Unit) :=
  renamed ++ [.call 1 true, .handle 0 true, .claim 0, .close 0, .lost, .dial, .take, .call 2 true,
    .handle 1 true, .claim 1, .observe 1, .proceed 2]

/-- A late acknowledgement takes `p.wire` back to a closed connection; a `Rehello` that finds 256
calls outstanding, or a connection that closes, leaves an identity that the daemon was not told. -/
theorem identities_diverge :
    (((start someone).run some late).wire = some 1 ∧
      ((start someone).run some (late ++ [.observe 0, .proceed 1])).Quiet ∧
      ((start someone).run some (late ++ [.observe 0, .proceed 1])).wire = some 0) ∧
    (((start someone).run some (renamed ++ [.call 1 false, .proceed 1])).Quiet ∧
      ((start someone).run some (renamed ++ [.call 1 false, .proceed 1])).wire = some 0 ∧
      ((start someone).run some (renamed ++ [.call 1 false, .proceed 1])).admitted = some someone ∧
      ((start someone).run some (renamed ++ [.call 1 false, .proceed 1])).identity ≠ someone) ∧
    (((start someone).run some (renamed ++ [.call 1 true, .close 0, .fail 1, .proceed 1])).Quiet ∧
      ((start someone).run some (renamed ++ [.call 1 true, .close 0, .fail 1, .proceed 1])).wire =
        some 0 ∧
      ((start someone).run some
        (renamed ++ [.call 1 true, .close 0, .fail 1, .proceed 1])).admitted = some someone ∧
      ((start someone).run some
        (renamed ++ [.call 1 true, .close 0, .fail 1, .proceed 1])).identity ≠ someone) := by
  refine ⟨⟨by decide, ?_, by decide⟩, ⟨?_, by decide, by decide, by decide⟩, ?_, by decide,
    by decide, by decide⟩
  · intro k h found
    rcases k with _ | _ | _ | k
    · cases found
      rfl
    · cases found
      rfl
    · cases found
      rfl
    · cases found
  · intro k h found
    rcases k with _ | _ | k
    · cases found
      rfl
    · cases found
      rfl
    · cases found
  · intro k h found
    rcases k with _ | _ | k
    · cases found
      rfl
    · cases found
      rfl
    · cases found

/-- The same `Rehello` is installed when its observer runs in time. -/
theorem identity_converges_renamed :
    let kit := (start someone).run some
      (renamed ++ [.call 1 true, .handle 0 true, .claim 0, .observe 0, .proceed 1])
    kit.wire = some 0 ∧ (kit.wires 0).closed = false ∧ kit.cancelled = false ∧
      kit.admitted = some { someone with name := "n" } ∧
      (kit.wires 0).accepted.getLast? = some kit.identity := by
  intro kit
  have quiet : kit.Quiet := by
    intro k h found
    rcases k with _ | _ | k
    · cases found
      rfl
    · cases found
      rfl
    · cases found
  have wire : kit.wire = some 0 := by decide
  have opened : (kit.wires 0).closed = false := by decide
  have live : kit.cancelled = false := by decide
  have told := ((identity_converges some someone _ (by decide)).1 quiet 0 wire).2 opened live
  exact ⟨wire, opened, live, told⟩

end Untimely

end Kit

end Sessionbus.PeerKit
