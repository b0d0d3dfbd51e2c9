import Mathlib.Data.List.Basic

namespace Lib.Tally

variable {α : Type} {weight : α → Nat} {items : List α} {k : Nat} {item : α}

def tally (weight : α → Nat) : List α → Nat
  | [] => 0
  | item :: rest => weight item + tally weight rest

@[simp] theorem tally_nil : tally weight [] = 0 := rfl

@[simp] theorem tally_append (front back : List α) : tally weight (front ++ back) = tally weight front + tally weight back := by
  induction front with
  | nil => simp
  | cons head tail ih => simp [tally, ih, Nat.add_assoc]

@[simp] theorem tally_cons : tally weight (item :: items) = weight item + tally weight items := rfl

theorem tally_congr {weight' : α → Nat} (same : ∀ item ∈ items, weight item = weight' item) :
    tally weight items = tally weight' items := by
  induction items with
  | nil => rfl
  | cons head tail ih =>
    rw [tally_cons, tally_cons, same head List.mem_cons_self, ih fun other mem => same other (List.mem_cons_of_mem _ mem)]

section

variable (weight : α → Nat) (found : items[k]? = some item)

include found

theorem tally_eraseIdx : weight item + tally weight (items.eraseIdx k) = tally weight items := by
  induction items generalizing k with
  | nil => cases found
  | cons head tail ih =>
    cases k with
    | zero =>
      cases found
      rfl
    | succ k =>
      have later := ih found
      simp only [List.eraseIdx_cons_succ, tally_cons]
      omega

theorem tally_set (other : α) : tally weight (items.set k other) + weight item = tally weight items + weight other := by
  have bound := (List.getElem?_eq_some_iff.mp found).1
  have before := tally_eraseIdx weight found
  have after := tally_eraseIdx weight (List.getElem?_set_self (a := other) bound)
  rw [List.eraseIdx_set_eq] at after
  omega

theorem le_tally : weight item ≤ tally weight items := by
  have erased := tally_eraseIdx weight found
  omega

theorem add_le_tally {j : Nat} {other : α} (present : items[j]? = some other) (different : k ≠ j) :
    weight item + weight other ≤ tally weight items := by
  have kept := List.mem_eraseIdx_iff_getElem?.mpr ⟨j, different.symm, present⟩
  obtain ⟨i, there⟩ := List.mem_iff_getElem?.mp kept
  rw [← tally_eraseIdx weight found]
  exact Nat.add_le_add_left (le_tally weight there) _

end

theorem tally_pos_iff : 0 < tally weight items ↔ ∃ (k : Nat) (item : α), items[k]? = some item ∧ 0 < weight item := by
  constructor
  · intro positive
    induction items with
    | nil => cases positive
    | cons head tail ih =>
      by_cases first : 0 < weight head
      · exact ⟨0, head, rfl, first⟩
      · obtain ⟨k, item, found, heavy⟩ := ih (by rw [tally_cons] at positive; omega)
        exact ⟨k + 1, item, found, heavy⟩
  · rintro ⟨k, item, found, heavy⟩
    exact Nat.lt_of_lt_of_le heavy (le_tally weight found)

theorem tally_eq_zero_iff : tally weight items = 0 ↔ ∀ item ∈ items, weight item = 0 := by
  induction items with
  | nil => simp
  | cons head tail ih => rw [tally_cons, Nat.add_eq_zero_iff, ih, List.forall_mem_cons]

theorem tally_eq_zero (none : ∀ (k : Nat) (item : α), items[k]? = some item → weight item = 0) : tally weight items = 0 := by
  refine tally_eq_zero_iff.mpr fun item mem => ?_
  obtain ⟨k, found⟩ := List.mem_iff_getElem?.mp mem
  exact none k item found

theorem tally_eq_count {β : Type} [BEq β] [LawfulBEq β] [DecidableEq β] (found : α → Option β) (items : List α) (value : β) :
    tally (fun item => if found item = some value then 1 else 0) items = (items.filterMap found).count value := by
  induction items with
  | nil => rfl
  | cons item rest ih =>
    rw [tally_cons, ih]
    cases here : found item with
    | none => simp [here]
    | some other => simp [here, List.count_cons, Nat.add_comm]

end Lib.Tally
