import Sessionbus.Directory.Listed
import Sessionbus.Directory.Table

/-!
# The policy of a lane over its life

A lane gets its policy when it is spawned, and `normalizePolicy` makes the next one from it each
time the lane is resumed.
-/

namespace Sessionbus

open Json Schema

/-! ## The schema -/

theorem validate_policy (matched : String → String → Bool) (p : LanePolicy) :
    validateDefinition matched "LanePolicy" p.value = true ↔ p.legal = true := by
  have policy : (sessionSchema matched).definition "LanePolicy" = some policyRule := by rfl
  unfold validateDefinition
  rw [Option.isNone_iff_eq_none, schemaIssue_none, depth, accepts_refer policy, accepts_policy]

/-! ## One policy -/

/-- What the policy of a lane always is; `owner` spawned or last resumed it. -/
structure LanePolicy.Settled (owner : String) (p : LanePolicy) : Prop where
  persistent : p.persistent = true → p.ownerSessionID = "" ∧ (p.notify = true ↔ p.notifyTarget ≠ "")
  owned : p.persistent = false → p.ownerSessionID = owner ∧ p.notifyTarget = ""
  idle : p.idleMessage = "run"
  trace : p.trace = ""
  legal : p.legal = true

section
variable {input : LaneSpawnRequest} {previous : Option LanePolicy} {owner : String} {p : LanePolicy}

theorem settled_normal (h : normalizePolicy input previous owner = some p)
    (untraced : ∀ q ∈ previous, q.trace = "") : p.Settled owner := by
  have legal := normalizePolicy_legal h
  unfold normalizePolicy at h
  simp only [Option.ite_none_left_eq_some, Option.filter_eq_some_iff] at h
  obtain ⟨-, chosen, -⟩ := h
  constructor <;> grind

theorem persistent_normal {q : LanePolicy} (h : normalizePolicy input (some q) owner = some p)
    (persistent : q.persistent = true) : p.persistent = true := by
  have same : p.persistent = input.persistent.getD q.persistent := by
    unfold normalizePolicy at h
    simp only [Option.ite_none_left_eq_some, Option.filter_eq_some_iff] at h
    obtain ⟨-, chosen, -⟩ := h
    grind
  have kept : input.persistent ≠ some false := by
    intro demoted
    simp [normalizePolicy, demoted, persistent] at h
  cases asked : input.persistent with
  | none => rw [same, asked, Option.getD_none, persistent]
  | some b =>
    cases b with
    | false => exact absurd asked kept
    | true => rw [same, asked, Option.getD_some]

/-- The lane is asked to be persistent and nothing else. -/
structure LaneSpawnRequest.Promotes (input : LaneSpawnRequest) : Prop where
  persistent : input.persistent = some true
  autoClose : input.autoCloseMS = none
  notify : input.notify = none
  target : input.notifyTarget = ""

theorem promoted_normal {q : LanePolicy} {before : String} (settled : q.Settled before)
    (named : before ≠ "") (only : input.Promotes) (owner : String) :
    ∃ p, normalizePolicy input (some q) owner = some p ∧
      (q.persistent = false → q.notify = true → p.notifyTarget = before) := by
  obtain ⟨persistent, owned, idle, trace, legal⟩ := settled
  unfold normalizePolicy
  rw [only.persistent, only.autoClose, only.notify, only.target]
  cases hp : q.persistent with
  | true =>
    obtain ⟨-, notifies⟩ := persistent hp
    by_cases hn : q.notify = true
    · have target := notifies.mp hn
      simp [hp, hn, target, trace, LanePolicy.legal]
    · simp [hn, trace, LanePolicy.legal]
  | false =>
    obtain ⟨parent, -⟩ := owned hp
    by_cases hn : q.notify = true
    · simp [hp, hn, parent, named, trace, LanePolicy.legal]
    · simp [hn, trace, LanePolicy.legal]

end

/-! ## The chain of a lane -/

/-- The policies that a chain of resumes accepts; a refused resume leaves the lane its policy. -/
def resumedPolicies : LanePolicy → List (LaneSpawnRequest × String) → List (String × LanePolicy)
  | _, [] => []
  | p, (input, owner) :: resumes =>
    match normalizePolicy input (some p) owner with
    | some q => (owner, q) :: resumedPolicies q resumes
    | none => resumedPolicies p resumes

/-- The policies of a lane: of its spawn, and of its resumes. -/
def lanePolicies (spawn : LaneSpawnRequest × String) (resumes : List (LaneSpawnRequest × String)) :
    List (String × LanePolicy) :=
  match normalizePolicy spawn.1 none spawn.2 with
  | some p => (spawn.2, p) :: resumedPolicies p resumes
  | none => []

theorem settled_resumed (resumes : List (LaneSpawnRequest × String)) :
    ∀ {p : LanePolicy}, p.trace = "" → ∀ x ∈ resumedPolicies p resumes, x.2.Settled x.1 ∧
    x.1 ∈ resumes.map Prod.snd := by
  induction resumes with
  | nil => simp [resumedPolicies]
  | cons resume resumes ih =>
    obtain ⟨input, owner⟩ := resume
    intro p untraced x hx
    rw [resumedPolicies] at hx
    cases normal : normalizePolicy input (some p) owner with
    | none =>
      rw [normal] at hx
      obtain ⟨settled, mine⟩ := ih untraced x hx
      exact ⟨settled, List.mem_cons_of_mem _ mine⟩
    | some q =>
      rw [normal] at hx
      have settled : q.Settled owner := settled_normal normal (by simpa using untraced)
      rcases List.mem_cons.mp hx with rfl | hx
      · exact ⟨settled, by simp⟩
      · obtain ⟨later, mine⟩ := ih settled.trace x hx
        exact ⟨later, List.mem_cons_of_mem _ mine⟩

theorem settled_lane (spawn : LaneSpawnRequest × String)
    (resumes : List (LaneSpawnRequest × String)) :
    ∀ x ∈ lanePolicies spawn resumes, x.2.Settled x.1 ∧ x.1 ∈ (spawn :: resumes).map Prod.snd := by
  intro x hx
  unfold lanePolicies at hx
  cases normal : normalizePolicy spawn.1 none spawn.2 with
  | none => simp [normal] at hx
  | some p =>
    rw [normal] at hx
    have settled : p.Settled spawn.2 := settled_normal normal (by simp)
    rcases List.mem_cons.mp hx with rfl | hx
    · exact ⟨settled, by simp⟩
    · obtain ⟨later, mine⟩ := settled_resumed resumes settled.trace x hx
      exact ⟨later, List.mem_cons_of_mem _ mine⟩

theorem persistent_resumed (resumes : List (LaneSpawnRequest × String)) :
    ∀ {p : LanePolicy}, p.persistent = true → ∀ x ∈ resumedPolicies p resumes,
    x.2.persistent = true := by
  induction resumes with
  | nil => simp [resumedPolicies]
  | cons resume resumes ih =>
    obtain ⟨input, owner⟩ := resume
    intro p persistent x hx
    rw [resumedPolicies] at hx
    cases normal : normalizePolicy input (some p) owner with
    | none =>
      rw [normal] at hx
      exact ih persistent x hx
    | some q =>
      rw [normal] at hx
      have still := persistent_normal normal persistent
      rcases List.mem_cons.mp hx with rfl | hx
      · exact still
      · exact ih still x hx

theorem pairwise_resumed (resumes : List (LaneSpawnRequest × String)) (p : LanePolicy) :
    (resumedPolicies p resumes).Pairwise fun x y =>
    x.2.persistent = true → y.2.persistent = true := by
  induction resumes generalizing p with
  | nil => exact .nil
  | cons resume resumes ih =>
    rw [resumedPolicies]
    split
    next q _ =>
      exact .cons (fun y hy persistent => persistent_resumed resumes persistent y hy) (ih q)
    next => exact ih p

theorem pairwise_lane (spawn : LaneSpawnRequest × String)
    (resumes : List (LaneSpawnRequest × String)) : (lanePolicies spawn resumes).Pairwise fun x y =>
    x.2.persistent = true → y.2.persistent = true := by
  unfold lanePolicies
  split
  next p _ =>
    exact .cons (fun y hy persistent => persistent_resumed resumes persistent y hy)
      (pairwise_resumed resumes p)
  next => exact .nil

/-- Every policy of a lane, from its spawn on: its row is read as it was written, and it may be made
persistent. -/
theorem lanePolicies_settled (matched : String → String → Bool) (time : TimeText)
    (digest : String → String) (spawn : LaneSpawnRequest × String)
    (resumes : List (LaneSpawnRequest × String)) (named : ∀ x ∈ spawn :: resumes, x.2 ≠ "") :
    (lanePolicies spawn resumes).Pairwise
      (fun x y => x.2.persistent = true → y.2.persistent = true) ∧
    ∀ owner p, (owner, p) ∈ lanePolicies spawn resumes →
      (p.persistent = true → p.ownerSessionID = "" ∧ (p.notify = true ↔ p.notifyTarget ≠ "")) ∧
      (p.persistent = false → p.ownerSessionID = owner ∧ p.notifyTarget = "") ∧
      p.idleMessage = "run" ∧ validateDefinition matched "LanePolicy" p.value = true ∧
      (∀ (row : Row) (before after : List (String × Stored)) (rows : List Row),
        row.policy = some p → row.sessionID ≠ "" → row.name ≠ "" → 2 ≤ row.groups.length →
        openTable time digest (before ++ after) = some rows →
        (∀ q ∈ rows, q.sessionID ≠ row.sessionID ∧ q.name ≠ row.name) →
        ∃ text rows', row.file time digest = some (rowFile digest row.sessionID, text) ∧
          openTable time digest (before ++ (rowFile digest row.sessionID, .text text) :: after) =
            some rows' ∧
          List.Perm rows' (row :: rows)) ∧
      ∀ (input : LaneSpawnRequest) (next : String), input.Promotes →
        ∃ q, normalizePolicy input (some p) next = some q ∧
          (p.persistent = false → p.notify = true → q.notifyTarget = owner) := by
  refine ⟨pairwise_lane spawn resumes, fun owner p hp => ?_⟩
  obtain ⟨settled, mine⟩ := settled_lane spawn resumes (owner, p) hp
  obtain ⟨x, hx, same⟩ := List.mem_map.mp mine
  have ownerNamed : owner ≠ "" := fun empty => named x hx (same.trans empty)
  refine ⟨settled.persistent, settled.owned, settled.idle,
    (validate_policy matched p).mpr settled.legal, ?_, ?_⟩
  · intro row before after rows policy id name groups opened fresh
    exact openTable_insert time digest opened ⟨id, name, groups, p, policy, settled.legal,
      settled.trace, settled.idle⟩ fresh
  · intro input next only
    exact promoted_normal settled ownerNamed only next

/-- Times as tallies. -/
def tally : TimeText where
  write n := String.ofList (List.replicate (n + 1) '|')
  read text := if text.length = 0 then none else some (text.length - 1)
  read_write n := by simp
  read_empty := by rfl

/-- A lane that notifies its owner is made persistent by another session. -/
theorem lanePolicies_settled_promoted :
    (∀ x ∈ [(({} : LaneSpawnRequest), "a"), ({ persistent := some true }, "b")], x.2 ≠ "") ∧
    lanePolicies ({}, "a") [({ persistent := some true }, "b")] =
      [("a", { ownerSessionID := "a" }), ("b", { persistent := true, notifyTarget := "a" })] ∧
    (lanePolicies ({}, "a") [({ persistent := some true }, "b")]).Pairwise
      fun x y => x.2.persistent = true → y.2.persistent = true :=
  ⟨by decide, by decide, (lanePolicies_settled (fun _ _ => true) tally id ({}, "a")
    [({ persistent := some true }, "b")] (by decide)).1⟩

end Sessionbus
