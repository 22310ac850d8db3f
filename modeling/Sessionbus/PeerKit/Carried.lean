import Mathlib.Data.List.Nodup
import Sessionbus.PeerKit.Linked

/-!
# Calls and their replies

A hello that is in a map, or whose reply the reader holds, waits for its call; on an open connection
every hello has at most one frame underway.
-/

namespace Sessionbus.PeerKit

variable {Info : Type}

/-- The calls with a frame underway, the first to be answered first. -/
def Wire.flying (w : Wire Info) : List Nat :=
  (w.claimed.map Claim.call).toList ++ w.down.map Prod.fst ++ w.up.map Prod.fst

/-- A call can be underway in this phase. -/
def Phase.flies (p : Phase) : Prop := p ≠ .ready ∧ ∀ outcome, p = .done outcome → outcome = .failed

@[simp] theorem Phase.flies_waiting : Phase.waiting.flies := ⟨by simp, by simp⟩
@[simp] theorem Phase.flies_closing : Phase.closing.flies := ⟨by simp, by simp⟩
@[simp] theorem Phase.flies_failing (r : Bool) : (Phase.failing r).flies := ⟨by simp, by simp⟩
@[simp] theorem Phase.flies_finished : Phase.finished.flies := ⟨by simp, by simp⟩
@[simp] theorem Phase.flies_done (outcome : Outcome) :
    (Phase.done outcome).flies ↔ outcome = .failed := by
  simp [Phase.flies]
@[simp] theorem Phase.flies_ready : ¬Phase.ready.flies := fun h => h.1 rfl

namespace Kit

variable {kit : Kit Info}

structure Carried (kit : Kit Info) : Prop where
  swept : ∀ c, (kit.wires c).closed = true → (kit.wires c).pending = []
  live : ∀ c k, (k, false) ∈ (kit.wires c).pending → ∃ h, kit.hellos k = some h ∧ h.wire = c ∧
    h.phase = .waiting
  claimed : ∀ c reply, (kit.wires c).claimed = some reply → reply.drain = false →
    ∃ h, kit.hellos reply.call = some h ∧ h.wire = c ∧ h.phase = .waiting
  once : ∀ c reply, (kit.wires c).claimed = some reply → (reply.call, false) ∉ (kit.wires c).pending
  distinct : ∀ c, (kit.wires c).closed = false → (kit.wires c).flying.Nodup
  flying : ∀ c, (kit.wires c).closed = false → ∀ k ∈ (kit.wires c).flying,
    ∃ h, kit.hellos k = some h ∧ h.wire = c ∧ h.phase.flies

namespace Carried

theorem start (identity : Identity Info) : (Kit.start identity).Carried := by
  constructor <;> simp [Kit.start, Wire.flying]

theorem same (h : kit.Carried) {next : Kit Info} (wires : next.wires = kit.wires)
    (hellos : next.hellos = kit.hellos) : next.Carried := by
  obtain ⟨swept, live, claimed, once, distinct, flying⟩ := h
  constructor <;> rw [wires] <;> (try rw [hellos]) <;> assumption

theorem setWire (h : kit.Carried) (c : Nat) (w : Wire Info)
    (swept : w.closed = true → w.pending = [])
    (live : ∀ k, (k, false) ∈ w.pending → ∃ h, kit.hellos k = some h ∧ h.wire = c ∧
      h.phase = .waiting)
    (claimed : ∀ reply, w.claimed = some reply → reply.drain = false →
      ∃ h, kit.hellos reply.call = some h ∧ h.wire = c ∧ h.phase = .waiting)
    (once : ∀ reply, w.claimed = some reply → (reply.call, false) ∉ w.pending)
    (distinct : w.closed = false → w.flying.Nodup)
    (flying : w.closed = false → ∀ k ∈ w.flying, ∃ h, kit.hellos k = some h ∧ h.wire = c ∧
      h.phase.flies) :
    (kit.setWire c w).Carried := by
  have at_ : ∀ c', (c' = c ∧ (kit.setWire c w).wires c' = w) ∨
      (kit.setWire c w).wires c' = kit.wires c' := by
    intro c'
    rw [setWire_wires, Function.update_apply]
    split
    next e => exact .inl ⟨e, rfl⟩
    · exact .inr rfl
  constructor <;> intro c' <;> rcases at_ c' with ⟨rfl, e⟩ | e <;> rw [e]
  · exact swept
  · exact h.swept c'
  · exact live
  · exact h.live c'
  · exact claimed
  · exact h.claimed c'
  · exact once
  · exact h.once c'
  · exact distinct
  · exact h.distinct c'
  · exact flying
  · exact h.flying c'

theorem close (h : kit.Carried) (c : Nat) : (kit.close c).Carried := by
  unfold Kit.close
  split
  · exact h
  · refine h.setWire c _ (fun _ => rfl) (by simp) (h.claimed c) (by simp) (by simp) (by simp)

theorem setHello (h : kit.Carried) (new : Hello Info) {k : Nat} {old : Hello Info}
    (found : kit.hellos k = some old) (wire : new.wire = old.wire)
    (live : (k, false) ∉ (kit.wires old.wire).pending)
    (claimed : ∀ reply, (kit.wires old.wire).claimed = some reply → reply.drain = false →
      reply.call ≠ k)
    (flies : (kit.wires old.wire).closed = false → k ∈ (kit.wires old.wire).flying →
      new.phase.flies) :
    (kit.setHello k new).Carried := by
  have others : ∀ k' hello, kit.hellos k' = some hello → k' ≠ k →
      (kit.setHello k new).hellos k' = some hello := by
    intro k' hello found' other
    simpa [Function.update_apply, other] using found'
  refine ⟨h.swept, ?_, ?_, h.once, h.distinct, ?_⟩
  · intro c k' mem
    obtain ⟨hello, found', rfl, phase⟩ := h.live c k' mem
    refine ⟨hello, others k' hello found' ?_, rfl, phase⟩
    rintro rfl
    cases found.symm.trans found'
    exact live mem
  · intro c reply taken drain
    obtain ⟨hello, found', rfl, phase⟩ := h.claimed c reply taken drain
    refine ⟨hello, others reply.call hello found' ?_, rfl, phase⟩
    rintro rfl
    cases found.symm.trans found'
    exact claimed reply taken drain rfl
  · intro c opened k' mem
    obtain ⟨hello, found', rfl, phase⟩ := h.flying c opened k' mem
    by_cases e : k' = k
    · subst e
      cases found.symm.trans found'
      exact ⟨new, by simp, wire, flies opened mem⟩
    · exact ⟨hello, others k' hello found' e, rfl, phase⟩

theorem idle (h : kit.Carried) {k : Nat} {old : Hello Info} (found : kit.hellos k = some old)
    (phase : old.phase ≠ .waiting) :
    (k, false) ∉ (kit.wires old.wire).pending ∧
      ∀ reply, (kit.wires old.wire).claimed = some reply → reply.drain = false →
        reply.call ≠ k := by
  constructor
  · intro mem
    obtain ⟨hello, found', -, waits⟩ := h.live _ k mem
    cases found.symm.trans found'
    exact phase waits
  · rintro reply taken drain rfl
    obtain ⟨hello, found', -, waits⟩ := h.claimed _ reply taken drain
    cases found.symm.trans found'
    exact phase waits

theorem goes (h : kit.Carried) (new : Hello Info) {k : Nat} {old : Hello Info}
    (found : kit.hellos k = some old) (wire : new.wire = old.wire) (phase : old.phase ≠ .waiting)
    (flies : old.phase.flies → new.phase.flies) : (kit.setHello k new).Carried := by
  obtain ⟨live, claimed⟩ := h.idle found phase
  refine h.setHello new found wire live claimed fun opened mem => ?_
  obtain ⟨hello, found', -, flew⟩ := h.flying _ opened k mem
  cases found.symm.trans found'
  exact flies flew

theorem hello (h : kit.Carried) (linked : kit.Linked) (caller : Caller) (c : Nat) :
    (kit.hello caller c).Carried := by
  refine ⟨h.swept, ?_, ?_, h.once, h.distinct, ?_⟩
  · intro c' k mem
    obtain ⟨hello, found, rest⟩ := h.live c' k mem
    exact ⟨hello, linked.hello_found found, rest⟩
  · intro c' reply taken drain
    obtain ⟨hello, found, rest⟩ := h.claimed c' reply taken drain
    exact ⟨hello, linked.hello_found found, rest⟩
  · intro c' opened k mem
    obtain ⟨hello, found, rest⟩ := h.flying c' opened k mem
    exact ⟨hello, linked.hello_found found, rest⟩

theorem handle (h : kit.Carried) (c : Nat) (accepts : Bool) : (kit.handle c accepts).Carried := by
  unfold Kit.handle
  simp only
  split
  · exact h
  next k identity up underway =>
    have flying : Wire.flying { kit.wires c with
        up, down := (kit.wires c).down ++ [(k, accepts)],
        accepted := if accepts then (kit.wires c).accepted ++ [identity]
          else (kit.wires c).accepted } =
        (kit.wires c).flying := by
      simp [Wire.flying, underway]
    refine h.setWire c _ (h.swept c) (h.live c) (h.claimed c) (h.once c) ?_ ?_
    · rw [flying]
      exact h.distinct c
    · rw [flying]
      exact h.flying c

theorem claim (h : kit.Carried) (c : Nat) : (kit.claim c).Carried := by
  unfold Kit.claim
  simp only
  split
  next k accepted down free underway =>
    split
    · apply Carried.close
      refine h.setWire c _ (h.swept c) (h.live c) (h.claimed c) (h.once c) ?_ ?_
      · intro opened
        have distinct := h.distinct c opened
        simp only [Wire.flying, free, underway, Option.map_none, Option.toList_none,
          List.nil_append, List.map_cons, List.cons_append, List.nodup_cons] at distinct ⊢
        exact distinct.2
      · intro opened k' mem
        refine h.flying c opened k' ?_
        simp only [Wire.flying, free, underway, Option.map_none, Option.toList_none,
          List.nil_append, List.map_cons, List.cons_append, List.mem_cons] at mem ⊢
        exact .inr mem
    next drain entry =>
      have flying : Wire.flying { kit.wires c with
          down, pending := (kit.wires c).pending.filter (·.1 != k),
          claimed := some { call := k, accepted, drain } } = (kit.wires c).flying := by
        simp [Wire.flying, free, underway]
      have mem : (k, drain) ∈ (kit.wires c).pending := by
        obtain ⟨before, after, split_, -⟩ := List.lookup_eq_some_iff.mp entry
        rw [split_]
        exact List.mem_append_right _ List.mem_cons_self
      refine h.setWire c _ ?_ ?_ ?_ ?_ ?_ ?_
      · intro closed
        rw [h.swept c closed]
        rfl
      · exact fun k' mem' => h.live c k' (List.mem_of_mem_filter mem')
      · rintro reply e drained
        obtain rfl := Option.some.inj e
        obtain rfl : drain = false := drained
        exact h.live c k mem
      · rintro reply e
        obtain rfl := Option.some.inj e
        simp
      · rw [flying]
        exact h.distinct c
      · rw [flying]
        exact h.flying c
  · exact h

theorem taken (h : kit.Carried) {c : Nat} {reply : Claim}
    (claimed : (kit.wires c).claimed = some reply) :
    (kit.setWire c { kit.wires c with claimed := none }).Carried ∧
      ((kit.wires c).closed = false →
      reply.call ∉ Wire.flying { kit.wires c with claimed := none }) := by
  have flying : (kit.wires c).flying = reply.call :: Wire.flying
      { kit.wires c with claimed := none } := by
    simp [Wire.flying, claimed]
  constructor
  · refine h.setWire c _ (h.swept c) (h.live c) (by simp) (by simp) ?_ ?_
    · intro opened
      have distinct := h.distinct c opened
      rw [flying] at distinct
      exact distinct.of_cons
    · intro opened k mem
      refine h.flying c opened k ?_
      rw [flying]
      exact List.mem_cons_of_mem _ mem
  · intro opened
    have distinct := h.distinct c opened
    rw [flying] at distinct
    exact (List.nodup_cons.mp distinct).1

theorem answer (h : kit.Carried) {c : Nat} {reply : Claim}
    (claimed : (kit.wires c).claimed = some reply) (drain : reply.drain = false) {old : Hello Info}
    (found : kit.hellos reply.call = some old) (new : Hello Info) (wire : new.wire = old.wire) :
    ((kit.setWire c { kit.wires c with claimed := none }).setHello reply.call new).Carried := by
  obtain ⟨hello, found', rfl, -⟩ := h.claimed c reply claimed drain
  cases found.symm.trans found'
  obtain ⟨released, gone⟩ := h.taken claimed
  refine released.setHello new found wire ?_ ?_ ?_
  · simpa using h.once _ reply claimed
  · simp
  · intro opened mem
    exact absurd (by simpa using mem) (gone (by simpa using opened))

theorem fail (h : kit.Carried) (k : Nat) : (kit.fail k).Carried := by
  unfold Kit.fail
  split
  · exact h
  next old found =>
    simp only
    split
    next can =>
      obtain ⟨-, closed, claimed⟩ := can
      refine h.setHello _ found rfl ?_ ?_ ?_
      · rw [h.swept _ closed]
        exact List.not_mem_nil
      · intro reply taken _
        simpa [taken] using claimed
      · intro opened
        cases opened.symm.trans closed
    · exact h

theorem begin (h : kit.Carried) (k : Nat) (fits : Bool) : (kit.begin k fits).Carried := by
  unfold Kit.begin
  split
  · exact h
  next old found =>
    split
    next ready =>
      simp only
      split
      · exact h.goes _ found rfl (by simp [ready]) (by simp)
      next can =>
        have opened : (kit.wires old.wire).closed = false := by
          cases e : (kit.wires old.wire).closed
          · rfl
          · simp [e] at can
        have absent : k ∉ (kit.wires old.wire).flying := by
          intro mem
          obtain ⟨hello, found', -, flies⟩ := h.flying _ opened k mem
          cases found.symm.trans found'
          exact Phase.flies_ready (ready ▸ flies)
        have waits : (kit.setHello k { old with phase := .waiting }).Carried :=
          h.goes _ found rfl (by simp [ready]) (by simp)
        have self : (kit.setHello k { old with phase := .waiting }).hellos k =
            some { old with phase := .waiting } := by
          simp
        have flying : Wire.flying { kit.wires old.wire with
            pending := (kit.wires old.wire).pending ++ [(k, false)],
            up := (kit.wires old.wire).up ++ [(k, old.identity)] } = (kit.wires old.wire).flying ++
              [k] := by
          simp [Wire.flying]
        refine waits.setWire old.wire _ ?_ ?_ (waits.claimed old.wire) ?_ ?_ ?_
        · intro closed
          cases opened.symm.trans closed
        · intro k' mem
          rcases List.mem_append.mp mem with mem | mem
          · exact waits.live old.wire k' mem
          · obtain ⟨rfl, -⟩ : k' = k ∧ true := by simpa using mem
            exact ⟨_, self, rfl, rfl⟩
        · intro reply claimed mem
          rcases List.mem_append.mp mem with mem | mem
          · exact waits.once old.wire reply claimed mem
          · refine absent ?_
            obtain rfl : reply.call = k := by simpa using mem
            simp [Wire.flying, show (kit.wires old.wire).claimed = some reply from claimed]
        · intro _
          rw [flying]
          refine List.nodup_append.mpr ⟨h.distinct _ opened, List.nodup_singleton k, ?_⟩
          rintro k' mem _ last rfl
          exact absent (List.mem_singleton.mp last ▸ mem)
        · intro _ k' mem
          rw [flying] at mem
          rcases List.mem_append.mp mem with mem | mem
          · exact waits.flying old.wire opened k' mem
          · obtain rfl : k' = k := by simpa using mem
            exact ⟨_, self, rfl, by simp⟩
    · exact h

theorem abandon (h : kit.Carried) (k : Nat) : (kit.abandon k).Carried := by
  unfold Kit.abandon
  split
  · exact h
  next old found =>
    simp only
    split
    next can =>
      obtain ⟨phase, -, mem⟩ := can
      have marked :
          ∀ k', (k', false) ∈ (kit.wires old.wire).pending.map (fun e => if e.1 = k
            then (k, true) else e) →
          k' ≠ k ∧ (k', false) ∈ (kit.wires old.wire).pending := by
        intro k' mem'
        obtain ⟨⟨k'', drain⟩, entry, e⟩ := List.mem_map.mp mem'
        simp only at e
        split at e
        · cases e
        next other =>
          obtain ⟨rfl, rfl⟩ := Prod.mk.inj e
          exact ⟨other, entry⟩
      have marks : (kit.setWire old.wire { kit.wires old.wire with
          pending := (kit.wires old.wire).pending.map fun e => if e.1 = k then (k, true)
            else e }).Carried := by
        refine h.setWire old.wire _ ?_ ?_ (h.claimed _) ?_ (h.distinct _) (h.flying _)
        · intro closed
          rw [h.swept _ closed] at mem
          cases mem
        · exact fun k' mem' => h.live _ k' (marked k' mem').2
        · exact fun reply claimed mem' => h.once _ reply claimed (marked _ mem').2
      refine marks.setHello _ found rfl ?_ ?_ ?_
      · intro mem'
        exact (marked k (by simpa using mem')).1 rfl
      · rintro reply claimed - rfl
        exact h.once _ reply (by simpa using claimed) mem
      · simp
    · exact h

end Carried

/-! ## Steps -/

theorem close_hellos (kit : Kit Info) (c : Nat) : (kit.close c).hellos = kit.hellos := by
  unfold Kit.close
  split <;> rfl

theorem close_closed (kit : Kit Info) (c : Nat) : ((kit.close c).wires c).closed = true := by
  unfold Kit.close
  split
  next closed => exact closed
  · simp

theorem close_setHello (kit : Kit Info) (c k : Nat) (h : Hello Info) :
    (kit.close c).setHello k h = (kit.setHello k h).close c := by
  unfold Kit.close
  rw [setHello_wires]
  split <;> rfl

structure Sane (kit : Kit Info) : Prop where
  linked : kit.Linked
  carried : kit.Carried

namespace Sane

theorem start (identity : Identity Info) : (Kit.start identity).Sane :=
  ⟨.start identity, .start identity⟩

theorem close (h : kit.Sane) (c : Nat) : (kit.close c).Sane := ⟨h.linked.close c, h.carried.close c⟩

theorem goes (h : kit.Sane) (new : Hello Info) {k : Nat} {old : Hello Info}
    (found : kit.hellos k = some old) (caller : new.caller = old.caller)
    (wire : new.wire = old.wire) (phase : old.phase ≠ .waiting) (going : old.phase ≠ .finished)
    (goes : old.caller = .connect → new.phase ≠ .finished)
    (kept : old.caller = .connect → old.phase ≠ .done .installed)
    (flies : old.phase.flies → new.phase.flies)
    (failing : ∀ r, new.phase = .failing r → old.caller = .connect ∧
      (kit.wires old.wire).closed = true)
    (closing : new.phase = .closing → old.caller ≠ .connect) : (kit.setHello k new).Sane :=
  ⟨h.linked.setHello new found caller wire going goes kept failing closing,
    h.carried.goes new found wire phase flies⟩

theorem cancel (h : kit.Sane) (cancelled : Bool) : { kit with cancelled }.Sane :=
  ⟨h.linked.cancel cancelled, h.carried.same rfl rfl⟩

theorem failed (h : kit.Sane) {k : Nat} {hello : Hello Info} (found : kit.hellos k = some hello)
    {outcome : Outcome} (phase : hello.phase = .done outcome) (error : outcome ≠ .installed)
    (refused : Bool) : (kit.failed k hello refused).Sane := by
  have going : hello.phase ≠ .waiting ∧ hello.phase ≠ .finished ∧
      hello.phase ≠ .done .installed := by simp [phase, error]
  unfold Kit.failed
  split
  next caller =>
    exact (h.cancel _).goes _ found rfl rfl going.1 going.2.1 (by simp [caller])
      (fun _ => going.2.2) (by simp) (by simp) (by simp)
  next caller =>
    exact (h.cancel _).goes _ found rfl rfl going.1 going.2.1 (by simp) (fun _ => going.2.2)
      (by simp) (by simp) (by simp [caller])
  next caller =>
    have found' : (kit.close hello.wire).hellos k = some hello := by rw [close_hellos, found]
    exact (h.close hello.wire).goes _ found' rfl rfl going.1 going.2.1 (by simp)
      (fun _ => going.2.2) (by simp) (fun _ _ => ⟨caller, close_closed kit hello.wire⟩) (by simp)

theorem proceed (h : kit.Sane) (k : Nat) : (kit.proceed k).Sane := by
  unfold Kit.proceed
  split
  · exact h
  next hello found =>
    have finishes (idle : hello.phase ≠ .waiting) :
        (kit.setHello k { hello with phase := .finished }).Carried :=
      h.carried.goes _ found rfl idle (by simp)
    split
    next phase =>
      by_cases byConnect : hello.caller = .connect
      · rw [if_pos byConnect]
        exact ⟨h.linked.serve found byConnect phase, (finishes (by simp [phase])).same rfl rfl⟩
      · rw [if_neg byConnect]
        exact h.goes _ found rfl rfl (by simp [phase]) (by simp [phase])
          (fun e => absurd e byConnect) (fun e => absurd e byConnect) (by simp) (by simp) (by simp)
    next phase =>
      exact h.goes _ found rfl rfl (by simp [phase]) (by simp [phase]) (by simp) (by simp [phase])
        (by simp [phase]) (by simp) (by simp)
    next phase => exact h.failed found phase (by simp) true
    next phase => exact h.failed found phase (by simp) false
    next phase =>
      have found' : (kit.close hello.wire).hellos k = some hello := by rw [close_hellos, found]
      exact (h.close hello.wire).goes _ found' rfl rfl (by simp [phase]) (by simp [phase])
        (fun e => absurd e (h.linked.closing k hello found phase)) (by simp [phase]) (by simp)
        (by simp) (by simp)
    next refused phase =>
      refine ⟨?_, (finishes (by simp [phase])).same rfl rfl⟩
      refine (h.linked.cancel (kit.cancelled || refused)).retire found phase ?_
      cases refused
      · exact .inl rfl
      · exact .inr rfl
    · exact h

theorem observe (h : kit.Sane) (c : Nat)
    (timely : kit.installs c = true → (kit.wires c).closed = false) : (kit.observe c).Sane := by
  unfold Kit.observe
  simp only
  split
  · exact h
  next reply claimed =>
    have released : (kit.setWire c { kit.wires c with claimed := none }).Sane :=
      ⟨h.linked.setWire c _ id, (h.carried.taken claimed).1⟩
    rw [setWire_hellos]
    split
    · exact released
    next hello found =>
      cases drain : reply.drain with
      | true => exact released
      | false =>
        obtain ⟨_, found', rfl, phase⟩ := h.carried.claimed c reply claimed drain
        cases found.symm.trans found'
        have answered (new : Hello Info) (wire : new.wire = hello.wire) :=
          h.carried.answer claimed drain found new wire
        rw [if_neg (by simp)]
        split
        next accepted =>
          unfold Kit.observer
          rw [setWire_cancelled, setWire_generation]
          split
          · rw [close_setHello]
            refine ⟨Linked.close ?_ hello.wire,
              (answered { hello with phase := .done .failed } rfl).close hello.wire⟩
            exact released.linked.setHello _ found rfl rfl (by simp [phase]) (by simp)
              (by simp [phase]) (by simp) (by simp)
          next live =>
            split
            next now =>
              refine ⟨released.linked.install found phase ?_,
                (answered { hello with phase := .done .installed } rfl).same rfl rfl⟩
              have opened :=
                timely (by simp [Kit.installs, claimed, accepted, drain, live, found, now])
              simpa using opened
            · exact ⟨released.linked.setHello _ found rfl rfl (by simp [phase]) (by simp)
                (by simp [phase]) (by simp) (by simp), answered _ rfl⟩
        · exact ⟨released.linked.setHello _ found rfl rfl (by simp [phase]) (by simp)
            (by simp [phase]) (by simp) (by simp), answered _ rfl⟩

theorem begin (h : kit.Sane) (k : Nat) (fits : Bool) : (kit.begin k fits).Sane := by
  refine ⟨?_, h.carried.begin k fits⟩
  unfold Kit.begin
  split
  · exact h.linked
  next hello found =>
    split
    next ready =>
      simp only
      split
      · exact h.linked.setHello _ found rfl rfl (by simp [ready]) (by simp) (by simp [ready])
          (by simp) (by simp)
      · refine Linked.setHello ?_ { hello with phase := .waiting } found rfl rfl (by simp [ready])
          (by simp) (by simp [ready]) (by simp) (by simp)
        exact h.linked.setWire hello.wire _ id
    · exact h.linked

theorem fail (h : kit.Sane) (k : Nat) : (kit.fail k).Sane := by
  refine ⟨?_, h.carried.fail k⟩
  unfold Kit.fail
  split
  · exact h.linked
  next hello found =>
    simp only
    split
    next can =>
      exact h.linked.setHello _ found rfl rfl (by simp [can.1]) (by simp) (by simp [can.1])
        (by simp) (by simp)
    · exact h.linked

theorem abandon (h : kit.Sane) (k : Nat) : (kit.abandon k).Sane := by
  refine ⟨?_, h.carried.abandon k⟩
  unfold Kit.abandon
  split
  · exact h.linked
  next hello found =>
    simp only
    split
    next can =>
      refine Linked.setHello ?_ { hello with phase := .done .failed } found rfl rfl
        (by simp [can.1]) (by simp) (by simp [can.1]) (by simp) (by simp)
      exact h.linked.setWire hello.wire _ id
    · exact h.linked

theorem handle (h : kit.Sane) (c : Nat) (accepts : Bool) : (kit.handle c accepts).Sane := by
  refine ⟨?_, h.carried.handle c accepts⟩
  unfold Kit.handle
  simp only
  split
  · exact h.linked
  · exact h.linked.setWire c _ id

theorem claim (h : kit.Sane) (c : Nat) : (kit.claim c).Sane := by
  refine ⟨?_, h.carried.claim c⟩
  unfold Kit.claim
  simp only
  split
  · split
    · refine Linked.close ?_ c
      exact h.linked.setWire c _ id
    · exact h.linked.setWire c _ id
  · exact h.linked

theorem changed [DecidableEq Info] (h : kit.Sane)
    (snapshot : Identity Info → Option (Identity Info)) (identity : Identity Info)
    (replacement : Bool) {caller : Caller} (other : caller ≠ .connect) :
    (Kit.changed (kit.desire snapshot identity replacement) caller).Sane := by
  obtain e | ⟨identity', e⟩ := desire_cases snapshot kit identity replacement
  · rw [e]
    exact h
  · have desired : (kit.desired identity' replacement).Sane :=
      ⟨h.linked.desired identity' replacement, h.carried.same rfl rfl⟩
    rw [e]
    cases wire : kit.wire with
    | none => exact desired
    | some c =>
      exact ⟨desired.linked.hello_held other (h.linked.current c wire),
        desired.carried.hello desired.linked caller c⟩

theorem step [DecidableEq Info] (h : kit.Sane) (snapshot : Identity Info → Option (Identity Info))
    {a : Action Info} (timely : kit.timely a = true) : (kit.step snapshot a).Sane := by
  cases a with
  | rehello name info => exact h.changed snapshot _ false (by simp)
  | replace identity => exact h.changed snapshot identity true (by simp)
  | call k fits => exact h.begin k fits
  | handle c accepts => exact h.handle c accepts
  | claim c => exact h.claim c
  | observe c => exact h.observe c (by simpa [Kit.timely, or_iff_not_imp_left] using timely)
  | abandon k => exact h.abandon k
  | fail k => exact h.fail k
  | proceed k => exact h.proceed k
  | close c =>
    simp only [Kit.step]
    split
    · exact h.close c
    · exact h
  | dial =>
    simp only [Kit.step]
    split
    next loop => exact ⟨h.linked.dial loop, h.carried.same rfl rfl⟩
    · exact h
  | take =>
    simp only [Kit.step]
    split
    next c loop => exact ⟨h.linked.take loop, (h.carried.hello h.linked .connect c).same rfl rfl⟩
    · exact h
  | lost =>
    refine ⟨h.linked.lost, ?_⟩
    simp only [Kit.step, Kit.lost]
    split
    · split
      · exact h.carried.same rfl rfl
      · exact h.carried
    · exact h.carried
  | stop =>
    simp only [Kit.step]
    split
    next can => exact ⟨h.linked.stop can.1, h.carried.same rfl rfl⟩
    · exact h
  | superseded c =>
    simp only [Kit.step]
    split
    · exact ⟨h.linked.wire_none, h.carried.same rfl rfl⟩
    · exact h
  | cancel => exact h.cancel true

end Sane

end Kit

end Sessionbus.PeerKit
