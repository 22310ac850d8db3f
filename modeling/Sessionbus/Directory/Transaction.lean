import Sessionbus.Directory.Represents
import Sessionbus.Directory.Replies

/-!
# A launch as a transaction

It commits, or it leaves the maps as they were before it was reserved; and it has one answer.
-/

namespace Sessionbus

namespace Directory

attribute [local grind =] Function.update_apply

variable {d d' : Directory}

/-- What a step that adds a launch finds in the maps. -/
structure Reserves (d d' : Directory) : Prop where
  previous : ∀ q, (d'.launches d.nextLaunch).previous = some q →
    d.entries (d.items q).row.sessionID = some q ∧ (d.items q).peer = false ∧ d'.items q = d.items q
  fresh : (d'.launches d.nextLaunch).fresh = true →
    d.names (d'.entryOf d.nextLaunch).row.name = none

theorem Sound.reserves_here (h : d.Sound) {parent : Ptr} {caller : Caller}
    {input : LaneSpawnRequest} (heq : d.spawnHere parent caller input = some d') :
    Reserves d d' := by
  unfold Directory.spawnHere at heq
  split at heq
  · simp only [Option.bind_eq_some_iff] at heq
    obtain ⟨target, -, resumed⟩ := heq
    unfold Directory.reserveResume at resumed
    split at resumed
    · simp at resumed
    next previous entry =>
      simp only [Option.ite_none_left_eq_some, Option.map_eq_some_iff, Bool.or_eq_true, not_or,
        Bool.not_eq_true] at resumed
      obtain ⟨⟨⟨⟨⟨⟨-, lane⟩, -⟩, -⟩, -⟩, -⟩, policy, -, rfl⟩ := resumed
      obtain ⟨id, hlt⟩ := h.shape.ids _ previous entry
      refine ⟨fun q hq => ?_, fun hf => ?_⟩
      · obtain rfl : previous = q := by simpa using hq
        refine ⟨by rw [id]; exact entry, lane, ?_⟩
        simp [Function.update_of_ne hlt.ne]
      · simp at hf
  · simp only [Option.bind_eq_some_iff] at heq
    obtain ⟨row, -, reserved⟩ := heq
    unfold Directory.reserveFresh at reserved
    simp only [Option.ite_none_left_eq_some, Option.some.injEq, Bool.or_eq_true, not_or,
      Bool.not_eq_true, Option.isSome_eq_false_iff, Option.isNone_iff_eq_none] at reserved
    obtain ⟨⟨⟨-, free⟩, -⟩, rfl⟩ := reserved
    refine ⟨fun q hq => ?_, fun _ => ?_⟩
    · simp at hq
    · simpa using free

theorem Sound.finish_nextLaunch (h : d.Sound) {s : Ptr} (running : (d.sessions s).returned = false)
    (full : List Ptr) (deleted : Bool) : (d.finish full s deleted).nextLaunch = d.nextLaunch := by
  unfold Directory.finish
  cases hs : (d.sessions s).launch with
  | none => simp [hs]
  | some l =>
    have identity := (h.seats.lane s l hs).2.2
    cases hc : (d.sessions s).committed with
    | false =>
      have hl : d.Open l := ⟨(h.seats.lane s l hs).1, h.seats.uncommitted s l hs hc running⟩
      have r := h.releaseLaunch hl full
      cases ha : (d.sessions s).launchResult <;> simp [hs, identity, hc, ha, r.nextLaunch]
    | true =>
      cases ha :
        (d.sessions s).launchResult <;> simp [hs, identity, hc, ha, (offline_frame _ _ _ _).2.2.2]

theorem Sound.reserves (h : d.Sound) {a : Action} (does : Does d a d')
    (new : d'.nextLaunch = d.nextLaunch + 1) : Reserves d d' := by
  have grows : d'.nextLaunch ≠ d.nextLaunch := by rw [new]; exact Nat.succ_ne_self _
  obtain apart | ofLaunch := does.apart
  · exact absurd apart.nextLaunch grows
  cases does with
  | routine routine => exact absurd routine.apart.nextLaunch grows
  | spawn s input _ _ _ spawned => exact h.reserves_here spawned
  | remoteSpawn caller input _ spawned =>
    have told := Told.remoteOwner (d := d) caller
    have reserves := (h.calm told.calm).reserves_here spawned
    refine ⟨?_, ?_⟩
    · simpa only [told.nextLaunch, told.entries, told.items] using reserves.previous
    · simpa only [told.nextLaunch, told.names] using reserves.fresh
  | describe => exact ⟨by simp, by simp⟩
  | release l full revoked =>
    exact absurd (h.releaseLaunch (h.seats.revoked l (by simp [revoked])).1 full).nextLaunch grows
  | finish s deleted full running => exact absurd (h.finish_nextLaunch running full deleted) grows
  | startChild => exact absurd rfl grows
  | revoke => exact absurd rfl grows
  | claim => exact absurd rfl grows
  | publish => exact absurd (by simp) grows
  | _ => cases ofLaunch

/-! ## The way back -/

/-- Its token cannot be claimed or revoked, its goroutine holds no revocation, and its session has
published or returned. -/
def Settled (d : Directory) (l : Ptr) : Prop :=
  l ∉ d.tokens ∧ (d.launches l).revoked = none ∧
    ∀ s, (d.launches l).owner = some s → (d.sessions s).committed = true ∨
    (d.sessions s).returned = true

theorem Answered.settled (h : d.Answered) (sound : d.Sound) {l : Ptr} (hlt : l < d.nextLaunch)
    (settled : d.Settled l) : (d.launches l).replies.length = 1 := by
  obtain ⟨token, revoked, done⟩ := settled
  have concluded : (d.launches l).concluded = true := by
    by_contra hc
    rcases h.left l ⟨hlt, by simpa using hc⟩ with ht | hr | ho
    · exact token ht
    · exact hr revoked
    · obtain ⟨s, hs⟩ := Option.ne_none_iff_exists'.mp ho
      have launch := sound.seats.owned l s hlt hs
      rcases done s hs with committed | returned
      · exact hc (sound.seats.concluded s l launch committed)
      · exact hc (h.returned s l launch returned)
  rw [h.count l, concluded]
  rfl

end Directory

end Sessionbus
