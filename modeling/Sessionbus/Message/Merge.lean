import Mathlib.Data.List.Induction
import Sessionbus.InOrder
import Sessionbus.Message.Federated

/-!
# One receipt for each label

What a send with labels answers, whatever hosts its labels are divided over.
-/

namespace Sessionbus

open InOrder

/-! ## Labels of one host -/

theorem canonical_of_target {label host id : String} {valid : String → Bool}
    (h : canonicalTarget label host valid = some (id, host)) :
    canonical label host valid = (id, none) := by
  unfold canonicalTarget at h
  unfold canonical
  cases split : splitHost label with
  | some parts =>
    simp only [split, Option.ite_none_right_eq_some, Bool.and_eq_true] at h
    obtain ⟨ok, same⟩ := h
    obtain ⟨rfl, rfl⟩ := Prod.mk.inj (Option.some.inj same)
    simp [ok.1, ok.2]
  | none =>
    simp only [split, Option.ite_none_right_eq_some] at h
    obtain ⟨ok, same⟩ := h
    obtain ⟨rfl, -⟩ := Prod.mk.inj (Option.some.inj same)
    simp [ok]

theorem resolveLocked_ambiguous {d : Directory} {keys groups : List String} {canonical : String}
    {item : Option Ptr} (h : d.resolveLocked keys canonical groups = (item, true)) :
    item = none := by
  have loop : ∀ (l : List Ptr) (found : Option Ptr),
      (d.resolveName canonical groups l found).2 = true →
      (d.resolveName canonical groups l found).1 = none := by
    intro l
    induction l with
    | nil => simp [Directory.resolveName]
    | cons p l ih =>
      intro found
      unfold Directory.resolveName
      split
      · cases found with
        | some _ => exact fun _ => rfl
        | none => exact ih (some p)
      · exact ih found
  unfold Directory.resolveLocked at h
  split at h
  · simp at h
  · have := loop (keys.filterMap d.entries) none
    rw [h] at this
    exact this rfl

namespace Mail

variable (mail : Mail)

/-- What the directory selects for a label. -/
def select (label : String) : Option Selected :=
  mail.here.directory.selectLabel mail.here.around mail.here.keys mail.groups
    (validNamePart mail.here.directory.unicode) label

/-- The recipient of a label on this host, if it has exactly one. -/
def resolves (label : String) : Option Ptr := (mail.select label).bind (·.item)

/-- The delivery for a label before it is routed. -/
def draft (label : String) : MessageSendDelivery :=
  match mail.resolves label with
  | some _ => { target := label }
  | none => MessageSendDelivery.reject { target := label }
      (if (mail.select label).any (·.ambiguous) then "ambiguous" else "unknown_session")

def labelsAt (labels : List String) (host : String) : List String :=
  labels.filter fun label => mail.hostOf label == some host

variable {mail}

theorem select_here {label : String} (h : mail.hostOf label = some mail.host) :
    ∃ selected, mail.select label = some selected ∧ selected.label = label ∧ selected.code = none ∧
      (selected.ambiguous = true → selected.item = none) := by
  obtain ⟨⟨id, host⟩, target, rfl⟩ := Option.map_eq_some_iff.mp h
  have code := canonical_of_target target
  unfold select Directory.selectLabel
  rw [show mail.here.directory.host = mail.host from rfl, code]
  refine ⟨_, if_neg (by simp), rfl, rfl, fun ambiguous => ?_⟩
  exact resolveLocked_ambiguous (Prod.ext rfl ambiguous)

/-- The loop over the selected entries of labels of this host. -/
theorem gather_here {labels : List String} {selected : List Selected}
    (here : ∀ label ∈ labels, mail.hostOf label = some mail.host)
    (h : labels.mapM mail.select = some selected) (seen : List Ptr) :
    gather selected seen = (firsts mail.resolves labels seen).map fun label =>
    (mail.draft label, mail.resolves label) := by
  induction labels generalizing selected seen with
  | nil =>
    obtain rfl : [] = selected := by simpa using h
    rfl
  | cons label labels ih =>
    simp only [List.mapM_cons, Option.pure_def, Option.bind_eq_bind, Option.bind_eq_some_iff,
      Option.some.injEq] at h
    obtain ⟨first, hfirst, rest, hrest, rfl⟩ := h
    have step := ih (fun l hl => here l (List.mem_cons_of_mem _ hl)) hrest
    obtain ⟨selected, found, rfl, code, alone⟩ := select_here (here label (by simp))
    obtain rfl : selected = first := Option.some.inj (found.symm.trans hfirst)
    have resolved : mail.resolves selected.label = selected.item := by simp [resolves, found]
    unfold gather firsts
    cases item : selected.item with
    | none =>
      rw [item] at resolved
      cases ambiguous : selected.ambiguous with
      | true => simp [resolved, draft, found, ambiguous, step]
      | false => simp [resolved, draft, found, ambiguous, code, step]
    | some p =>
      rw [item] at resolved
      have single : selected.ambiguous = false := by
        by_contra ambiguous
        rw [alone (by simpa using ambiguous)] at item
        cases item
      by_cases old : p ∈ seen
      · simp [resolved, single, code, old, step]
      · simp [resolved, draft, single, code, old, step]

theorem select_all {labels : List String}
    (here : ∀ label ∈ labels, mail.hostOf label = some mail.host) (nodup : labels.Nodup) :
    ∃ selected,
      mail.here.directory.selectEntries mail.here.around mail.here.keys mail.groups (some labels) ""
        true mail.omitted none = some { selected } ∧
      gather selected [] =
        (kept mail.resolves labels).map fun label => (mail.draft label, mail.resolves label) := by
  have all : ∃ selected, labels.mapM mail.select = some selected := by
    clear nodup
    induction labels with
    | nil => exact ⟨[], rfl⟩
    | cons label labels ih =>
      obtain ⟨rest, hrest⟩ := ih fun l hl => here l (List.mem_cons_of_mem _ hl)
      obtain ⟨first, hfirst, -⟩ := select_here (here label (by simp))
      exact ⟨first :: rest, by simp [List.mapM_cons, hfirst, hrest]⟩
  obtain ⟨selected, hselected⟩ := all
  have chosen : mail.here.directory.selectEntries mail.here.around mail.here.keys mail.groups
      (some labels) "" true mail.omitted none = some { selected } := by
    unfold Directory.selectEntries
    simp only [if_true]
    rw [show labels.mapM
      (mail.here.directory.selectLabel mail.here.around mail.here.keys mail.groups
        (validNamePart mail.here.directory.unicode)) = some selected from hselected]
    rfl
  exact ⟨selected, chosen, by rw [gather_here here hselected [], firsts_eq_kept _ nodup]⟩

theorem send_here {labels : List String}
    (here : ∀ label ∈ labels, mail.hostOf label = some mail.host) (nodup : labels.Nodup) :
    mail.here.send mail.groups (some labels) "" mail.omitted =
      some (((kept mail.resolves labels).map fun label =>
        (mail.draft label, mail.resolves label)).mapIdx mail.here.dispatch) := by
  obtain ⟨selected, chosen, gathered⟩ := select_all here nodup
  unfold Sending.send
  rw [chosen, Option.map_some, gathered]

theorem dispatch_target (env : Sending) (i : Nat) (leg : Leg) :
    (env.dispatch i leg).1.target = leg.1.target := by
  unfold Sending.dispatch
  split
  · rfl
  · split <;> rfl

theorem settle_target (delivery : MessageSendDelivery) (answer : Answer) :
    (delivery.settle answer).target = delivery.target := by
  unfold MessageSendDelivery.settle
  split <;> rfl

theorem draft_target (label : String) : (mail.draft label).target = label := by
  unfold draft
  split <;> rfl

/-- The legs of a send with labels of this host, one for each kept label. -/
def legsAt (mail : Mail) (labels : List String) : List Leg :=
  ((kept mail.resolves labels).map fun label => (mail.draft label, mail.resolves label)).mapIdx
    mail.here.dispatch

theorem deliveries_here {labels : List String}
    (here : ∀ label ∈ labels, mail.hostOf label = some mail.host) (nodup : labels.Nodup) :
    mail.deliveries labels = some (settled (mail.legsAt labels) mail.answers) := by
  unfold deliveries
  rw [send_here here nodup, Option.bind_some]
  exact sendResult_settled (mail.replied _)

theorem settled_targets (mail : Mail) (labels : List String) :
    (settled (mail.legsAt labels) mail.answers).map (·.target) = kept mail.resolves labels := by
  apply List.ext_getElem
  · simp [settled, legsAt]
  · intro i hi hi'
    simp only [settled, legsAt, List.getElem_map, List.getElem_mapIdx]
    split
    · rw [settle_target, dispatch_target, draft_target]
    · rw [dispatch_target, draft_target]

/-! ## Recipients -/

/-- The recipients that `directory.route` is called for, in this order. -/
def routed (mail : Mail) (labels : List String) : List Ptr :=
  ((mail.here.directory.selectEntries mail.here.around mail.here.keys mail.groups (some labels) ""
    true mail.omitted none).map fun selection => (gather selection.selected []).filterMap
    Prod.snd).getD []

/-- The recipients that the message was posted to. -/
def handed (mail : Mail) (labels : List String) : List Ptr :=
  ((mail.here.send mail.groups (some labels) "" mail.omitted).getD []).filterMap Prod.snd

end Mail

/-! ## Dividing the labels -/

/-- The hosts are different, and each has its labels in the order of the request. -/
structure Divided (labels : List (String × String))
    (partitions : List (String × List String)) : Prop where
  hosts : (partitions.map Prod.fst).Nodup
  part : ∀ p ∈ partitions, p.2 = (labels.filter (·.2 == p.1)).map Prod.fst ∧ p.2 ≠ []
  all : ∀ label ∈ labels, label.2 ∈ partitions.map Prod.fst

theorem Divided.addLabel {labels : List (String × String)}
    {partitions : List (String × List String)} (h : Divided labels partitions)
    (label : String × String) : Divided (labels ++ [label]) (addLabel partitions label) := by
  unfold Sessionbus.addLabel
  split
  · rename_i known
    have names :
        (partitions.map fun p => if p.1 = label.2 then (p.1, p.2 ++ [label.1])
          else p).map Prod.fst =
        partitions.map Prod.fst := by
      rw [List.map_map]
      refine List.map_congr_left fun p _ => ?_
      simp only [Function.comp_apply]
      split <;> rfl
    refine ⟨by rw [names]; exact h.hosts, fun p hp => ?_, fun l hl => ?_⟩
    · obtain ⟨q, hq, rfl⟩ := List.mem_map.mp hp
      obtain ⟨same, filled⟩ := h.part q hq
      by_cases host : q.1 = label.2
      · simp only [host, if_true, List.filter_append, List.map_append]
        refine ⟨?_, by simp⟩
        rw [same, host]
        simp
      · have other : (label.2 == q.1) = false := by simpa using Ne.symm host
        simp only [host, if_false, List.filter_append, List.map_append]
        refine ⟨?_, filled⟩
        simp [← same, other]
    · rw [names]
      rcases List.mem_append.mp hl with hl | hl
      · exact h.all l hl
      · rw [List.mem_singleton.mp hl]
        simpa using known
  · rename_i unknown
    have new : label.2 ∉ partitions.map Prod.fst := by simpa using unknown
    refine ⟨?_, fun p hp => ?_, fun l hl => ?_⟩
    · rw [List.map_append, List.nodup_append]
      refine ⟨h.hosts, by simp, ?_⟩
      rintro host hhost _ (_ | _) rfl
      · exact new hhost
      · contradiction
    · rcases List.mem_append.mp hp with hp | hp
      · obtain ⟨same, filled⟩ := h.part p hp
        have other : (label.2 == p.1) = false := by
          rw [beq_eq_false_iff_ne]
          intro host
          exact new (host ▸ List.mem_map_of_mem hp)
        refine ⟨?_, filled⟩
        simp [List.filter_append, other, ← same]
      · rw [List.mem_singleton.mp hp]
        have none_yet : labels.filter (fun l => l.2 == label.2) = [] := by
          rw [List.filter_eq_nil_iff]
          intro l hl host
          rw [beq_iff_eq] at host
          exact new (host ▸ h.all l hl)
        simp [List.filter_append, none_yet]
    · rw [List.map_append, List.mem_append]
      rcases List.mem_append.mp hl with hl | hl
      · exact .inl (h.all l hl)
      · rw [List.mem_singleton.mp hl]
        exact .inr (by simp)

namespace Mail

variable {mail : Mail}

/-- The receipts that a leg with labels gives. -/
def legList (labels : List String) (outcome : LegOutcome) : List MessageSendDelivery :=
  match outcome.answer with
  | .ok deliveries => deliveries
  | .error code =>
    labels.map fun label =>
      MessageSendDelivery.reject { target := label } (reason code "no_receipt")

/-- A host that answers with a result gives a receipt for each label, but for those of a recipient
that an earlier label has, and rejects what it does not resolve. -/
def Honest (mail : Mail) (resolve : String → String → Option Nat) : Prop :=
  ∀ host labels deliveries, mail.elsewhere host labels = .replied (.result deliveries) →
    deliveries.map (·.target) = kept (resolve host) labels ∧
      ∀ d ∈ deliveries, resolve host d.target = none → d.disposition = "rejected"

/-- The receipts are for the kept labels, and the labels without a recipient are rejected. -/
def Echoes (recipients : String → Option Nat) (labels : List String)
    (deliveries : List MessageSendDelivery) : Prop :=
  deliveries.map (·.target) = kept recipients labels ∧
    ∀ d ∈ deliveries, recipients d.target = none → d.disposition = "rejected"

theorem mem_legsAt {labels : List String} {i : Nat} {leg : Leg}
    (h : (mail.legsAt labels)[i]? = some leg) :
    ∃ label ∈ labels, leg = mail.here.dispatch i (mail.draft label, mail.resolves label) := by
  obtain ⟨hi, rfl⟩ := List.getElem?_eq_some_iff.mp h
  have hkept : i < (kept mail.resolves labels).length := by simpa [legsAt] using hi
  refine ⟨(kept mail.resolves labels)[i], (kept_sublist _ _).subset (List.getElem_mem hkept), ?_⟩
  simp only [legsAt, List.getElem_mapIdx, List.getElem_map]

theorem settled_echoes (mail : Mail) (labels : List String) :
    Echoes mail.resolves labels (settled (mail.legsAt labels) mail.answers) := by
  refine ⟨settled_targets mail labels, fun d hd nobody => ?_⟩
  obtain ⟨i, hi, rfl⟩ := List.mem_mapIdx.mp hd
  obtain ⟨label, -, leg_eq⟩ := mem_legsAt (List.getElem?_eq_getElem hi)
  have target :
      (if (mail.legsAt labels)[i].2.isSome then (mail.legsAt labels)[i].1.settle (mail.answers i)
      else (mail.legsAt labels)[i].1).target = label := by
    split
    · rw [settle_target, leg_eq, dispatch_target, draft_target]
    · rw [leg_eq, dispatch_target, draft_target]
  rw [target] at nobody
  rw [leg_eq, nobody]
  simp [Sending.dispatch, draft, nobody, MessageSendDelivery.reject]

/-- A local result is answered when every recipient's answer fits its delivery. -/
def Fits (mail : Mail) (labels : List String) : Prop :=
  ∀ (i : Nat) (leg : Leg), (mail.legsAt labels)[i]? = some leg → leg.2.isSome →
    (mail.answers i).Fits leg.1.sessionID

theorem label_ne {label : String} (h : (mail.hostOf label).isSome = true) : label ≠ "" := by
  rintro rfl
  have none_host : mail.hostOf "" = none := by
    simp [hostOf, canonicalTarget, splitHost, validNamePart]
  simp [none_host] at h

theorem direct_some {labels : List String}
    (here : ∀ label ∈ labels, mail.hostOf label = some mail.host) (nodup : labels.Nodup) :
    (mail.direct labels = some (settled (mail.legsAt labels) mail.answers) ↔ mail.Fits labels) ∧
      (mail.direct labels = none ↔ ¬ mail.Fits labels) := by
  have legal := validate_settled mail.matched (send_here here nodup) mail.given mail.messageBytes
      mail.receipts
  have targets : ∀ (i : Nat) (leg : Leg), (mail.legsAt labels)[i]? = some leg →
      leg.1.target ≠ "" := by
    intro i leg hleg
    obtain ⟨label, mem, rfl⟩ := mem_legsAt hleg
    rw [dispatch_target, draft_target]
    exact label_ne (by rw [here label mem]; rfl)
  have fits : validateDefinition mail.matched "MessageSendResult"
      (sendResultValue mail.messageID (settled (mail.legsAt labels) mail.answers)) = true ↔
      mail.Fits labels := by
    refine legal.trans
      ⟨fun h i leg hleg => (h i leg hleg).2, fun h i leg hleg => ⟨targets i leg hleg, h i leg hleg⟩⟩
  unfold direct
  rw [deliveries_here here nodup, ← fits]
  cases valid : validateDefinition mail.matched "MessageSendResult"
    (sendResultValue mail.messageID (settled (mail.legsAt labels) mail.answers)) <;>
    simp [Option.filter, valid]

/-- A daemon that runs this code is honest about the labels of its own host. -/
theorem localReply_echoes {labels : List String}
    (here : ∀ label ∈ labels, mail.hostOf label = some mail.host) (nodup : labels.Nodup)
    {deliveries : List MessageSendDelivery} (h : mail.localReply labels = .result deliveries) :
    Echoes mail.resolves labels deliveries := by
  unfold localReply at h
  rw [deliveries_here here nodup] at h
  by_cases fits : mail.Fits labels
  · simp only [(direct_some here nodup).1.mpr fits, SendReply.result.injEq] at h
    rw [← h]
    exact settled_echoes mail labels
  · simp [(direct_some here nodup).2.mpr fits] at h

/-! ## The sort -/

theorem before_sorted (order : List String) (l : List MessageSendDelivery) :
    (l.mergeSort (MessageSendDelivery.before (some order))).Pairwise
      fun left right => MessageSendDelivery.before (some order) left right = true := by
  apply List.pairwise_mergeSort
  · intro a b c hab hbc
    simp only [MessageSendDelivery.before, decide_eq_true_eq] at hab hbc ⊢
    omega
  · intro a b
    simp only [MessageSendDelivery.before, Bool.or_eq_true, decide_eq_true_eq]
    omega

/-- The receipts of the leg to a host. -/
def receiptsAt (mail : Mail) (labels : List String) (host : String) : List MessageSendDelivery :=
  legList (mail.labelsAt labels host) (mail.leg host (mail.labelsAt labels host))

section

variable {resolve : String → String → Option Nat} {labels : List String}
  {a : List (String × String)}

/-- The receipts of all legs, leg after leg. -/
def gathered (mail : Mail) (labels : List String) (a : List (String × String)) :
    List MessageSendDelivery :=
  ((divide a).map fun p => mail.receiptsAt labels p.1).flatten

variable (honest : mail.Honest resolve) (nodup : labels.Nodup)
  (fits : mail.Fits (mail.labelsAt labels mail.host)) (addressed : mail.addressed labels = some a)

include honest nodup fits addressed

end

end Mail

end Sessionbus
