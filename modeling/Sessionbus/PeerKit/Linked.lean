import Sessionbus.PeerKit.Spec

/-!
# The connections of a peer

Only the newest connection can be open, and while it is open nobody but its own hellos has put it
into `p.wire`.
-/

namespace Sessionbus.PeerKit.Kit

variable {Info : Type} {kit : Kit Info}

section Updates

variable (kit : Kit Info) (c k : Nat) (w : Wire Info) (h : Hello Info)

@[simp, grind =] theorem setWire_wires :
    (kit.setWire c w).wires = Function.update kit.wires c w := rfl
@[simp, grind =] theorem setWire_hellos : (kit.setWire c w).hellos = kit.hellos := rfl
@[simp, grind =] theorem setWire_loop : (kit.setWire c w).loop = kit.loop := rfl
@[simp, grind =] theorem setWire_wire : (kit.setWire c w).wire = kit.wire := rfl
@[simp, grind =] theorem setWire_dialled : (kit.setWire c w).dialled = kit.dialled := rfl
@[simp, grind =] theorem setWire_begun : (kit.setWire c w).begun = kit.begun := rfl
@[simp, grind =] theorem setWire_cancelled : (kit.setWire c w).cancelled = kit.cancelled := rfl
@[simp, grind =] theorem setWire_identity : (kit.setWire c w).identity = kit.identity := rfl
@[simp, grind =] theorem setWire_admitted : (kit.setWire c w).admitted = kit.admitted := rfl
@[simp, grind =] theorem setWire_generation : (kit.setWire c w).generation = kit.generation := rfl
@[simp, grind =] theorem setHello_hellos : (kit.setHello k h).hellos = Function.update kit.hellos k
    (some h) := rfl
@[simp, grind =] theorem setHello_wires : (kit.setHello k h).wires = kit.wires := rfl
@[simp, grind =] theorem setHello_loop : (kit.setHello k h).loop = kit.loop := rfl
@[simp, grind =] theorem setHello_wire : (kit.setHello k h).wire = kit.wire := rfl
@[simp, grind =] theorem setHello_dialled : (kit.setHello k h).dialled = kit.dialled := rfl
@[simp, grind =] theorem setHello_begun : (kit.setHello k h).begun = kit.begun := rfl
@[simp, grind =] theorem setHello_cancelled : (kit.setHello k h).cancelled = kit.cancelled := rfl
@[simp, grind =] theorem setHello_identity : (kit.setHello k h).identity = kit.identity := rfl
@[simp, grind =] theorem setHello_admitted : (kit.setHello k h).admitted = kit.admitted := rfl
@[simp, grind =] theorem setHello_generation : (kit.setHello k h).generation = kit.generation := rfl

variable {kit c k w h}

theorem setHello_found {k' : Nat} {found : Hello Info}
    (e : (kit.setHello k h).hellos k' = some found) :
    (k' = k ∧ found = h) ∨ (k' ≠ k ∧ kit.hellos k' = some found) := by
  rw [setHello_hellos, Function.update_apply] at e
  split at e
  next same => exact .inl ⟨same, (Option.some.inj e).symm⟩
  next other => exact .inr ⟨other, e⟩

end Updates

theorem desire_cases [DecidableEq Info] (snapshot : Identity Info → Option (Identity Info))
    (kit : Kit Info) (identity : Identity Info) (replacement : Bool) :
    kit.desire snapshot identity replacement = (kit, none) ∨
      ∃ identity', kit.desire snapshot identity replacement =
        (kit.desired identity' replacement, kit.wire) := by
  unfold Kit.desire
  split
  · exact .inl rfl
  simp only
  split
  · exact .inl rfl
  next identity' _ =>
    split
    · exact .inl rfl
    split
    · exact .inl rfl
    · exact .inr ⟨identity', rfl⟩

/-- `connect` has installed the connection and waits for its end. -/
def Held (kit : Kit Info) (c : Nat) : Prop :=
  kit.loop = .serving c ∨
    ∃ k h, kit.loop = .hello k ∧ kit.hellos k = some h ∧ h.wire = c ∧ h.phase = .done .installed

theorem not_held (serving : ∀ c, kit.loop ≠ .serving c) (hello : ∀ k, kit.loop ≠ .hello k)
    (c : Nat) : ¬kit.Held c := by
  rintro (e | ⟨k, -, e, -⟩)
  · exact serving c e
  · exact hello k e

structure Linked (kit : Kit Info) : Prop where
  fresh : ∀ k, kit.begun ≤ k → kit.hellos k = none
  bound : ∀ k h, kit.hellos k = some h → h.wire < kit.dialled
  older : ∀ c, c + 1 < kit.dialled → (kit.wires c).closed = true
  away : kit.loop = .dialing ∨ kit.loop = .over → ∀ c < kit.dialled, (kit.wires c).closed = true
  newest : ∀ c, kit.loop = .dialled c ∨ kit.loop = .serving c → c + 1 = kit.dialled
  hello : ∀ k, kit.loop = .hello k →
    ∃ h, kit.hellos k = some h ∧ h.caller = .connect ∧ h.wire + 1 = kit.dialled ∧
    h.phase ≠ .finished
  connect : ∀ k h, kit.hellos k = some h → h.caller = .connect → h.phase ≠ .finished →
    kit.loop = .hello k
  failing : ∀ k h r, kit.hellos k = some h → h.phase = .failing r → h.caller = .connect ∧
    (kit.wires h.wire).closed = true
  closing : ∀ k h, kit.hellos k = some h → h.phase = .closing → h.caller ≠ .connect
  current : ∀ c, kit.wire = some c → kit.Held c
  others : ∀ k h, kit.hellos k = some h → h.caller ≠ .connect → h.phase ≠ .finished →
    (kit.wires h.wire).closed = false → kit.Held h.wire

namespace Linked

theorem held (h : kit.Linked) {c : Nat} (held : kit.Held c) : c + 1 = kit.dialled := by
  rcases held with serving | ⟨k, hello, loop, found, rfl, -⟩
  · exact h.newest c (.inr serving)
  · obtain ⟨hello', found', -, newest, -⟩ := h.hello k loop
    cases found.symm.trans found'
    exact newest

theorem start (identity : Identity Info) : (Kit.start identity).Linked := by
  constructor <;> simp [Kit.start]

theorem setWire (h : kit.Linked) (c : Nat) (w : Wire Info)
    (closed : (kit.wires c).closed = true → w.closed = true) : (kit.setWire c w).Linked := by
  have shut : ∀ c', (kit.wires c').closed = true →
      (Function.update kit.wires c w c').closed = true := by
    intro c' was
    rw [Function.update_apply]
    split
    next e => exact closed (e ▸ was)
    · exact was
  refine ⟨h.fresh, h.bound, fun c' hc => shut c' (h.older c' hc),
    fun loop c' hc => shut c' (h.away loop c' hc), h.newest, h.hello, h.connect, ?_, h.closing,
    h.current, ?_⟩
  · intro k hello r found phase
    exact ⟨(h.failing k hello r found phase).1, shut _ (h.failing k hello r found phase).2⟩
  · intro k hello found caller phase opened
    refine h.others k hello found caller phase ?_
    by_contra was
    rw [Bool.not_eq_false] at was
    exact absurd (shut _ was) (by simpa using opened)

theorem close (h : kit.Linked) (c : Nat) : (kit.close c).Linked := by
  unfold Kit.close
  split
  · exact h
  · exact h.setWire c _ fun _ => rfl

theorem fresh_setHello (h : kit.Linked) {k : Nat} {old : Hello Info}
    (found : kit.hellos k = some old) (new : Hello Info) :
    ∀ k', kit.begun ≤ k' → (kit.setHello k new).hellos k' = none := by
  intro k' later
  have other : k' ≠ k := by
    rintro rfl
    cases found.symm.trans (h.fresh k' later)
  simpa [Function.update_apply, other] using h.fresh k' later

theorem bound_setHello (h : kit.Linked) {k : Nat} {old new : Hello Info}
    (found : kit.hellos k = some old) (wire : new.wire = old.wire) :
    ∀ k' hello, (kit.setHello k new).hellos k' = some hello → hello.wire < kit.dialled := by
  intro k' hello e
  obtain ⟨rfl, rfl⟩ | ⟨-, e⟩ := setHello_found e
  · exact wire ▸ h.bound k' old found
  · exact h.bound k' hello e

theorem setHello (h : kit.Linked) (new : Hello Info) {k : Nat} {old : Hello Info}
    (found : kit.hellos k = some old) (caller : new.caller = old.caller)
    (wire : new.wire = old.wire) (going : old.phase ≠ .finished)
    (goes : old.caller = .connect → new.phase ≠ .finished)
    (kept : old.caller = .connect → old.phase ≠ .done .installed)
    (failing : ∀ r, new.phase = .failing r → old.caller = .connect ∧
      (kit.wires old.wire).closed = true)
    (closing : new.phase = .closing → old.caller ≠ .connect) : (kit.setHello k new).Linked := by
  have held : ∀ c, kit.Held c → (kit.setHello k new).Held c := by
    rintro c (serving | ⟨k', hello, loop, found', wire', phase⟩)
    · exact .inl serving
    · obtain ⟨hello', same, byConnect, -, -⟩ := h.hello k' loop
      refine .inr ⟨k', hello, loop, ?_, wire', phase⟩
      have other : k' ≠ k := by
        rintro rfl
        cases found.symm.trans found'
        cases found.symm.trans same
        exact kept byConnect phase
      simpa [Function.update_apply, other] using found'
  refine ⟨h.fresh_setHello found new, h.bound_setHello found wire, h.older, h.away, h.newest,
    ?_, ?_, ?_, ?_, fun c wire => held c (h.current c wire), ?_⟩
  · intro k' loop
    obtain ⟨hello, same, byConnect, newest, phase⟩ := h.hello k' loop
    by_cases e : k' = k
    · subst e
      cases found.symm.trans same
      exact ⟨new, by simp, caller.trans byConnect, by rw [wire]; exact newest, goes byConnect⟩
    · exact ⟨hello, by simpa [Function.update_apply, e] using same, byConnect, newest, phase⟩
  · intro k' hello found' byConnect phase
    obtain ⟨rfl, rfl⟩ | ⟨-, found'⟩ := setHello_found found'
    · exact h.connect k' old found (caller ▸ byConnect) going
    · exact h.connect k' hello found' byConnect phase
  · intro k' hello r found' phase
    obtain ⟨rfl, rfl⟩ | ⟨-, found'⟩ := setHello_found found'
    · exact ⟨caller.trans (failing r phase).1, by rw [wire]; exact (failing r phase).2⟩
    · exact h.failing k' hello r found' phase
  · intro k' hello found' phase
    obtain ⟨rfl, rfl⟩ | ⟨-, found'⟩ := setHello_found found'
    · exact caller ▸ closing phase
    · exact h.closing k' hello found' phase
  · intro k' hello found' others phase opened
    apply held
    obtain ⟨rfl, rfl⟩ | ⟨-, found'⟩ := setHello_found found'
    · rw [wire] at opened ⊢
      exact h.others k' old found (caller ▸ others) going opened
    · exact h.others k' hello found' others phase opened

theorem hello_found (h : kit.Linked) {caller : Caller} {c k : Nat} {old : Hello Info}
    (found : kit.hellos k = some old) : (kit.hello caller c).hellos k = some old := by
  have apart : k ≠ kit.begun := by
    rintro rfl
    cases (h.fresh _ (Nat.le_refl _)).symm.trans found
  simpa [Kit.hello, Function.update_apply, apart] using found

theorem hello_cases {caller : Caller} {c k : Nat} {found : Hello Info}
    (e : (kit.hello caller c).hellos k = some found) :
    (k = kit.begun ∧
      found = { caller, wire := c, identity := kit.identity, generation := kit.generation }) ∨
    kit.hellos k = some found := by
  have e :
      (kit.setHello kit.begun
        { caller, wire := c, identity := kit.identity, generation := kit.generation }).hellos k =
      some found := e
  exact (setHello_found e).imp_right And.right

theorem hello_fresh (h : kit.Linked) {caller : Caller} {c k : Nat} (new : kit.begun + 1 ≤ k) :
    (kit.hello caller c).hellos k = none := by
  have apart : k ≠ kit.begun := by omega
  simpa [Kit.hello, Function.update_apply, apart] using h.fresh k (by omega)

theorem hello_held (h : kit.Linked) {caller : Caller} (other : caller ≠ .connect) {c : Nat}
    (held : kit.Held c) : (kit.hello caller c).Linked := by
  have holds : ∀ c', kit.Held c' → (kit.hello caller c).Held c' := by
    rintro c' (serving | ⟨k, old, loop, found, wire, phase⟩)
    · exact .inl serving
    · exact .inr ⟨k, old, loop, h.hello_found found, wire, phase⟩
  have newest := h.held held
  refine ⟨fun k new => h.hello_fresh new, ?_, h.older, h.away, h.newest, ?_, ?_, ?_, ?_,
    fun c' wire => holds c' (h.current c' wire), ?_⟩
  · intro k found e
    obtain ⟨-, rfl⟩ | e := hello_cases e
    · show c < kit.dialled
      omega
    · exact h.bound k found e
  · intro k loop
    obtain ⟨old, found, rest⟩ := h.hello k loop
    exact ⟨old, h.hello_found found, rest⟩
  · intro k found e byConnect phase
    obtain ⟨-, rfl⟩ | e := hello_cases e
    · exact absurd byConnect other
    · exact h.connect k found e byConnect phase
  · intro k found r e phase
    obtain ⟨-, rfl⟩ | e := hello_cases e
    · cases phase
    · exact h.failing k found r e phase
  · intro k found e phase
    obtain ⟨-, rfl⟩ | e := hello_cases e
    · cases phase
    · exact h.closing k found e phase
  · intro k found e byOther phase opened
    apply holds
    obtain ⟨-, rfl⟩ | e := hello_cases e
    · exact held
    · exact h.others k found e byOther phase opened

theorem wire_none (h : kit.Linked) : { kit with wire := none }.Linked :=
  ⟨h.fresh, h.bound, h.older, h.away, h.newest, h.hello, h.connect, h.failing, h.closing,
    (fun _ wire => by cases wire), h.others⟩

theorem desired (h : kit.Linked) (identity : Identity Info) (replacement : Bool) :
    (kit.desired identity replacement).Linked := by
  have kept : { kit with identity, generation := kit.generation + 1 }.Linked :=
    ⟨h.fresh, h.bound, h.older, h.away, h.newest, h.hello, h.connect, h.failing, h.closing,
      h.current, h.others⟩
  cases replacement
  · exact kept
  · exact kept.wire_none

theorem dial (h : kit.Linked) (loop : kit.loop = .dialing) :
    { kit with loop := .dialled kit.dialled, dialled := kit.dialled + 1 }.Linked := by
  have shut := h.away (.inl loop)
  have none_ : ∀ c, ¬kit.Held c := not_held (by simp [loop]) (by simp [loop])
  refine ⟨h.fresh, ?_, ?_, ?_, ?_, ?_, ?_, h.failing, h.closing, ?_, ?_⟩
  · exact fun k hello found => Nat.lt_succ_of_lt (h.bound k hello found)
  · exact fun c older => shut c (Nat.lt_of_succ_lt_succ older)
  · rintro (away | away) <;> cases away
  · rintro c (e | e) <;> cases e
    rfl
  · intro k e
    cases e
  · intro k hello found byConnect phase
    cases loop.symm.trans (h.connect k hello found byConnect phase)
  · exact fun c wire => absurd (h.current c wire) (none_ c)
  · intro k hello found other phase opened
    have closed := shut hello.wire (h.bound k hello found)
    cases opened.symm.trans closed

theorem take (h : kit.Linked) {c : Nat} (loop : kit.loop = .dialled c) :
    { kit.hello .connect c with loop := .hello kit.begun }.Linked := by
  have none_ : ∀ c, ¬kit.Held c := not_held (by simp [loop]) (by simp [loop])
  have newest := h.newest c (.inl loop)
  refine ⟨fun k new => h.hello_fresh new, ?_, h.older, ?_, ?_, ?_, ?_, ?_, ?_, ?_, ?_⟩
  · intro k found e
    obtain ⟨-, rfl⟩ | e := hello_cases e
    · show c < kit.dialled
      omega
    · exact h.bound k found e
  · rintro (away | away) <;> cases away
  · rintro c' (e | e) <;> cases e
  · intro k e
    obtain rfl : kit.begun = k := by simpa using e
    exact ⟨{ caller := .connect, wire := c, identity := kit.identity,
             generation := kit.generation }, by simp [Kit.hello], rfl,
      newest, by simp⟩
  · intro k found e byConnect phase
    obtain ⟨rfl, -⟩ | e := hello_cases e
    · rfl
    · cases loop.symm.trans (h.connect k found e byConnect phase)
  · intro k found r e phase
    obtain ⟨-, rfl⟩ | e := hello_cases e
    · cases phase
    · exact h.failing k found r e phase
  · intro k found e phase
    obtain ⟨-, rfl⟩ | e := hello_cases e
    · cases phase
    · exact h.closing k found e phase
  · exact fun c' wire => absurd (h.current c' wire) (none_ c')
  · intro k found e byOther phase opened
    obtain ⟨-, rfl⟩ | e := hello_cases e
    · cases byOther rfl
    · exact absurd (h.others k found e byOther phase opened) (none_ _)

theorem lost (h : kit.Linked) : kit.lost.Linked := by
  unfold Kit.lost
  split
  next c loop =>
    split
    next closed =>
      have newest := h.newest c (.inr loop)
      have only : ∀ c', kit.Held c' → c' = c := fun c' held => by
        have := h.held held
        omega
      refine ⟨h.fresh, h.bound, h.older, ?_, ?_, ?_, ?_, h.failing, h.closing, ?_, ?_⟩
      · intro _ c' bound
        by_cases e : c' = c
        · exact e ▸ closed
        · exact h.older c' (by simp only at bound; omega)
      · rintro c' (e | e) <;> cases e
      · intro k e
        cases e
      · intro k hello found byConnect phase
        cases loop.symm.trans (h.connect k hello found byConnect phase)
      · intro c' wire
        simp only at wire
        split at wire
        · cases wire
        next other => exact absurd (only c' (h.current c' wire) ▸ wire) other
      · intro k hello found other phase opened
        rw [only _ (h.others k hello found other phase opened)] at opened
        cases opened.symm.trans closed
    · exact h
  · exact h

theorem install (h : kit.Linked) {k : Nat} {hello : Hello Info} (found : kit.hellos k = some hello)
    (phase : hello.phase = .waiting) (opened : (kit.wires hello.wire).closed = false) :
    { kit.setHello k { hello with phase := .done .installed } with
      admitted := some hello.identity, wire := some hello.wire }.Linked := by
  have next := h.setHello { hello with phase := .done .installed } found rfl rfl
      (by simp [phase]) (by simp)
    (by simp [phase]) (by simp) (by simp)
  refine ⟨next.fresh, next.bound, next.older, next.away, next.newest, next.hello, next.connect,
    next.failing, next.closing, ?_, next.others⟩
  rintro c e
  obtain rfl : hello.wire = c := by simpa using e
  by_cases byConnect : hello.caller = .connect
  · have loop := h.connect k hello found byConnect (by simp [phase])
    exact .inr ⟨k, { hello with phase := .done .installed }, loop, by simp, rfl, rfl⟩
  · exact next.others k { hello with phase := .done .installed } (by simp) byConnect
      (by simp) opened

theorem serve (h : kit.Linked) {k : Nat} {hello : Hello Info} (found : kit.hellos k = some hello)
    (byConnect : hello.caller = .connect) (phase : hello.phase = .done .installed) :
    { kit.setHello k { hello with phase := .finished } with
      loop := .serving hello.wire }.Linked := by
  have loop := h.connect k hello found byConnect (by simp [phase])
  have newest := h.held (.inr ⟨k, hello, loop, found, rfl, phase⟩)
  have only : ∀ c, kit.Held c → c = hello.wire := fun c held => by
    have := h.held held
    omega
  have held :
      ∀ c, kit.Held c →
      Held { kit.setHello k { hello with phase := .finished } with
        loop := .serving hello.wire } c :=
    fun c held => .inl (by rw [only c held])
  refine ⟨h.fresh_setHello found _, h.bound_setHello found rfl, h.older, ?_, ?_, ?_, ?_, ?_, ?_,
    fun c wire => held c (h.current c wire), ?_⟩
  · rintro (away | away) <;> cases away
  · rintro c (e | e) <;> cases e
    exact newest
  · intro k' e
    cases e
  · intro k' hello' e byConnect' phase'
    obtain ⟨-, rfl⟩ | ⟨other, e⟩ := setHello_found e
    · cases phase' rfl
    · cases loop.symm.trans (h.connect k' hello' e byConnect' phase')
      cases other rfl
  · intro k' hello' r e phase'
    obtain ⟨-, rfl⟩ | ⟨-, e⟩ := setHello_found e
    · cases phase'
    · exact h.failing k' hello' r e phase'
  · intro k' hello' e phase'
    obtain ⟨-, rfl⟩ | ⟨-, e⟩ := setHello_found e
    · cases phase'
    · exact h.closing k' hello' e phase'
  · intro k' hello' e other phase' opened
    apply held
    obtain ⟨-, rfl⟩ | ⟨-, e⟩ := setHello_found e
    · cases phase' rfl
    · exact h.others k' hello' e other phase' opened

theorem retire (h : kit.Linked) {k : Nat} {hello : Hello Info} {r : Bool}
    (found : kit.hellos k = some hello) (phase : hello.phase = .failing r) {next : Loop}
    (away : next = .dialing ∨ next = .over) :
    { kit.setHello k { hello with phase := .finished } with loop := next }.Linked := by
  obtain ⟨byConnect, closed⟩ := h.failing k hello r found phase
  have loop := h.connect k hello found byConnect (by simp [phase])
  obtain ⟨_, found', -, newest, -⟩ := h.hello k loop
  cases found.symm.trans found'
  have none_ : ∀ c, ¬kit.Held c := by
    rintro c (serving | ⟨k', hello', loop', found', -, installed⟩)
    · cases loop.symm.trans serving
    · cases loop.symm.trans loop'
      cases found.symm.trans found'
      cases phase.symm.trans installed
  refine ⟨h.fresh_setHello found _, h.bound_setHello found rfl, h.older, ?_, ?_, ?_, ?_, ?_, ?_,
    fun c wire => absurd (h.current c wire) (none_ c), ?_⟩
  · intro _ c bound
    by_cases e : c = hello.wire
    · exact e ▸ closed
    · refine h.older c ?_
      simp only [setHello_dialled] at bound
      omega
  · rintro c (e | e) <;> rcases away with rfl | rfl <;> cases e
  · intro k' e
    rcases away with rfl | rfl <;> cases e
  · intro k' hello' e byConnect' phase'
    obtain ⟨-, rfl⟩ | ⟨other, e⟩ := setHello_found e
    · cases phase' rfl
    · cases loop.symm.trans (h.connect k' hello' e byConnect' phase')
      cases other rfl
  · intro k' hello' r e phase'
    obtain ⟨-, rfl⟩ | ⟨-, e⟩ := setHello_found e
    · cases phase'
    · exact h.failing k' hello' r e phase'
  · intro k' hello' e phase'
    obtain ⟨-, rfl⟩ | ⟨-, e⟩ := setHello_found e
    · cases phase'
    · exact h.closing k' hello' e phase'
  · intro k' hello' e other phase' opened
    obtain ⟨-, rfl⟩ | ⟨-, e⟩ := setHello_found e
    · cases phase' rfl
    · exact absurd (h.others k' hello' e other phase' opened) (none_ _)

theorem cancel (h : kit.Linked) (cancelled : Bool) : { kit with cancelled }.Linked :=
  ⟨h.fresh, h.bound, h.older, h.away, h.newest, h.hello, h.connect, h.failing, h.closing,
    h.current, h.others⟩

theorem stop (h : kit.Linked) (loop : kit.loop = .dialing) : { kit with loop := .over }.Linked := by
  have none_ : ∀ c, ¬kit.Held c := not_held (by simp [loop]) (by simp [loop])
  refine ⟨h.fresh, h.bound, h.older, fun _ => h.away (.inl loop), ?_, ?_, ?_, h.failing, h.closing,
    fun c wire => absurd (h.current c wire) (none_ c), ?_⟩
  · rintro c (e | e) <;> cases e
  · intro k e
    cases e
  · intro k hello found byConnect phase
    cases loop.symm.trans (h.connect k hello found byConnect phase)
  · exact fun k hello found other phase opened =>
      absurd (h.others k hello found other phase opened) (none_ _)

end Linked

end Sessionbus.PeerKit.Kit
