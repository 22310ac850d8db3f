import Mathlib.Data.List.AList

/-! # Finite maps: values, and what an update leaves -/

namespace AList

def values {κ ν : Type} (m : AList (fun _ : κ => ν)) : List ν := m.entries.map Sigma.snd

@[simp] theorem values_empty {κ ν : Type} : (∅ : AList (fun _ : κ => ν)).values = [] := rfl

variable {κ ν : Type} [DecidableEq κ]

theorem lookup_insert_iff {m : AList (fun _ : κ => ν)} {k k' : κ} {v w : ν} :
    (m.insert k v).lookup k' = some w ↔ (k' = k ∧ w = v) ∨ (k' ≠ k ∧ m.lookup k' = some w) := by
  by_cases h : k' = k
  · subst h; simp [eq_comm]
  · simp [lookup_insert_ne h, h]

theorem lookup_erase_iff {m : AList (fun _ : κ => ν)} {k k' : κ} {w : ν} :
    (m.erase k).lookup k' = some w ↔ k' ≠ k ∧ m.lookup k' = some w := by
  by_cases h : k' = k
  · subst h; simp
  · simp [lookup_erase_ne h, h]

theorem values_insert (m : AList (fun _ : κ => ν)) (k : κ) (v : ν) :
    (m.insert k v).values = v :: (m.erase k).values := by
  rw [values, entries_insert]
  rfl

theorem values_insert_of_notMem {m : AList (fun _ : κ => ν)} {k : κ} {v : ν} (h : k ∉ m) :
    (m.insert k v).values = v :: m.values := by
  rw [values, entries_insert_of_notMem h]
  rfl

theorem values_erase_perm {m : AList (fun _ : κ => ν)} {k : κ} {v : ν} (h : m.lookup k = some v) :
    m.values.Perm (v :: (m.erase k).values) := by
  have hk : k ∈ m.entries.keys := mem_keys.mp (lookup_isSome.mp (by simp [h]))
  obtain ⟨w, l₁, l₂, hnot, heq, herase⟩ := List.exists_of_kerase hk
  have hw : w = v := by
    have hd : m.entries.dlookup k = some v := h
    rw [heq, List.dlookup_append, List.dlookup_eq_none.mpr hnot] at hd
    simpa using hd
  have he : (m.erase k).entries = l₁ ++ l₂ := herase
  rw [values, values, he, heq, hw]
  simp

theorem mem_values {m : AList (fun _ : κ => ν)} {v : ν} :
    v ∈ m.values ↔ ∃ k, m.lookup k = some v := by
  simp only [values, List.mem_map]
  constructor
  · rintro ⟨⟨k, w⟩, hmem, rfl⟩
    exact ⟨k, mem_lookup_iff.mpr hmem⟩
  · rintro ⟨k, h⟩
    exact ⟨⟨k, v⟩, mem_lookup_iff.mp h, rfl⟩

end AList
