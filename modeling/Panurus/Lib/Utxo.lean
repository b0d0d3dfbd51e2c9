import Mathlib.Algebra.BigOperators.Group.List.Basic
import Mathlib.Algebra.GroupWithZero.Nat
import Mathlib.Data.List.Nodup

namespace Lib.Utxo

open List

-- What was ever created and what of it was consumed: identifiers are given once, and only what is there is consumed,
-- once.
structure History (ι τ : Type) where
  created : List (ι × τ)
  consumed : List (ι × τ)
  createdOnce : (created.map Prod.fst).Nodup
  consumedOnce : (consumed.map Prod.fst).Nodup
  consumedCreated : consumed ⊆ created

namespace History

variable {ι τ : Type} {entry : ι × τ}

def empty : History ι τ := ⟨[], [], nodup_nil, nodup_nil, List.Subset.refl _⟩

theorem created_unique (h : History ι τ) {other : ι × τ} (mem : entry ∈ h.created) (mem' : other ∈ h.created)
    (same : entry.1 = other.1) : entry = other :=
  inj_on_of_nodup_map h.createdOnce mem mem' same

variable [DecidableEq ι] [DecidableEq τ] {h : History ι τ} {entries : List (ι × τ)}

def present (h : History ι τ) : List (ι × τ) := h.created.filter fun entry => entry ∉ h.consumed

theorem mem_present : entry ∈ h.present ↔ entry ∈ h.created ∧ entry ∉ h.consumed := by
  simp [present]

theorem present_once (h : History ι τ) : (h.present.map Prod.fst).Nodup :=
  h.createdOnce.sublist (filter_sublist.map _)

def create (h : History ι τ) (entries : List (ι × τ)) (distinct : (entries.map Prod.fst).Nodup)
    (fresh : (h.created.map Prod.fst).Disjoint (entries.map Prod.fst)) : History ι τ where
  created := h.created ++ entries
  consumed := h.consumed
  createdOnce := by
    rw [map_append]
    exact h.createdOnce.append distinct fresh
  consumedOnce := h.consumedOnce
  consumedCreated := subset_append_of_subset_left _ h.consumedCreated

def consume (h : History ι τ) (entries : List (ι × τ)) (distinct : (entries.map Prod.fst).Nodup)
    (live : entries ⊆ h.present) : History ι τ where
  created := h.created
  consumed := h.consumed ++ entries
  createdOnce := h.createdOnce
  consumedOnce := by
    rw [map_append]
    refine h.consumedOnce.append distinct ?_
    intro id old new
    obtain ⟨entry, spent, rfl⟩ := mem_map.mp old
    obtain ⟨other, mem, same⟩ := mem_map.mp new
    obtain ⟨there, unspent⟩ := mem_present.mp (live mem)
    exact unspent (h.created_unique there (h.consumedCreated spent) same ▸ spent)
  consumedCreated := append_subset.mpr ⟨h.consumedCreated, fun entry mem => (mem_present.mp (live mem)).1⟩

theorem mem_present_create {distinct : (entries.map Prod.fst).Nodup}
    {fresh : (h.created.map Prod.fst).Disjoint (entries.map Prod.fst)} :
    entry ∈ (h.create entries distinct fresh).present ↔ entry ∈ h.present ∨ entry ∈ entries := by
  rw [mem_present, mem_present]
  constructor
  · rintro ⟨created, unspent⟩
    exact (mem_append.mp created).imp (fun old => ⟨old, unspent⟩) id
  · rintro (⟨old, unspent⟩ | new)
    · exact ⟨mem_append_left _ old, unspent⟩
    · refine ⟨mem_append_right _ new, fun spent => ?_⟩
      exact fresh (mem_map_of_mem (h.consumedCreated spent)) (mem_map_of_mem new)

theorem mem_present_consume {distinct : (entries.map Prod.fst).Nodup} {live : entries ⊆ h.present} :
    entry ∈ (h.consume entries distinct live).present ↔ entry ∈ h.present ∧ entry ∉ entries := by
  simp [mem_present, consume, and_assoc]

theorem present_sum (h : History ι τ) (measure : ι × τ → ℕ) :
    (h.present.map measure).sum + (h.consumed.map measure).sum = (h.created.map measure).sum := by
  have spent : (h.created.filter fun entry => entry ∈ h.consumed).Perm h.consumed := by
    refine (perm_ext_iff_of_nodup (h.createdOnce.of_map.filter _) h.consumedOnce.of_map).mpr fun entry => ?_
    simp only [mem_filter, decide_eq_true_eq]
    exact ⟨And.right, fun mem => ⟨h.consumedCreated mem, mem⟩⟩
  have parts : (h.present ++ h.created.filter fun entry => entry ∈ h.consumed).Perm h.created := by
    have split := filter_append_perm (fun entry => decide (entry ∉ h.consumed)) h.created
    simpa [present] using split
  rw [← sum_append, ← map_append]
  exact ((spent.symm.append_left h.present).trans parts).map measure |>.sum_eq

end History

end Lib.Utxo
