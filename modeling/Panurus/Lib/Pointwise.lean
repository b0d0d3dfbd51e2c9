import Mathlib.Data.List.Forall2

namespace Lib.Pointwise

open List

variable {α β γ : Type} {related known : α → β → Prop} {items : List α} {others : List β} {item : α}
  {condition : α → Prop} {j : Nat}

theorem forall₂_ne_nil (all : Forall₂ related items others) (some : items ≠ []) : others ≠ [] := by
  rintro rfl
  exact some (forall₂_nil_right_iff.mp all)

theorem forall₂_of_positions (lengths : items.length = others.length)
    (each : ∀ (i : Nat) (item : α), items[i]? = some item → ∀ other, others[i]? = some other → related item other) :
    Forall₂ related items others :=
  forall₂_iff_get.mpr ⟨lengths, fun i bound bound' =>
    each i items[i] (getElem?_eq_getElem bound) others[i] (getElem?_eq_getElem bound')⟩

theorem forall₂_exists (each : ∀ item ∈ items, ∃ other, related item other) : ∃ others, Forall₂ related items others := by
  induction items with
  | nil => exact ⟨[], .nil⟩
  | cons item items ih =>
    obtain ⟨here, later⟩ := forall_mem_cons.mp each
    obtain ⟨other, first⟩ := here
    obtain ⟨others, rest⟩ := ih later
    exact ⟨other :: others, .cons first rest⟩

section

variable (all : Forall₂ related items others)

include all

theorem forall₂_with_mem : Forall₂ (fun a b => a ∈ items ∧ related a b) items others :=
  (forall₂_and_left _ _).mpr ⟨fun _ mem => mem, all⟩

theorem forall₂_at {i : Nat} (found : items[i]? = some item) : ∃ other, others[i]? = some other ∧ related item other := by
  obtain ⟨bound, rfl⟩ := List.getElem?_eq_some_iff.mp found
  have other_bound : i < others.length := all.length_eq ▸ bound
  exact ⟨others[i], getElem?_eq_getElem other_bound, all.get bound other_bound⟩

theorem forall₂_mem (mem : item ∈ items) : ∃ other ∈ others, related item other := by
  obtain ⟨i, found⟩ := mem_iff_getElem?.mp mem
  obtain ⟨other, there, holds⟩ := forall₂_at all found
  exact ⟨other, mem_of_getElem? there, holds⟩

end

theorem forall₂_iff_left {wanted : α → β → Prop} (decides : ∀ a b, known a b → (wanted a b ↔ condition a))
    (all : Forall₂ known items others) : Forall₂ wanted items others ↔ ∀ a ∈ items, condition a := by
  constructor
  · intro each
    have both : Forall₂ (fun a b => condition a ∧ known a b) items others :=
      Forall₂.mp (fun a b done here => ⟨(decides a b done).mp here, done⟩) all each
    exact ((forall₂_and_left _ _).mp both).1
  · intro each
    have both := (forall₂_and_left _ _).mpr ⟨each, all⟩
    exact both.imp fun a b here => (decides a b here.2).mpr here.1

theorem forall_mem_through {step : α → β → Prop} {holds : β → Prop} (all : Forall₂ step items others)
    (decides : ∀ a b, step a b → (holds b ↔ condition a)) : (∀ b ∈ others, holds b) ↔ ∀ a ∈ items, condition a := by
  induction all with
  | nil => simp
  | cons here _ ih => rw [forall_mem_cons, forall_mem_cons, decides _ _ here, ih]

theorem forall₂_through {step : β → γ → Prop} {wanted : α → γ → Prop} {condition : β → Prop}
    {middle : List β} {others : List γ} (first : Forall₂ known items middle)
    (second : Forall₂ step middle others) (decides : ∀ a b c, known a b → step b c → (wanted a c ↔ condition b)) :
    Forall₂ wanted items others ↔ ∀ b ∈ middle, condition b := by
  induction first generalizing others with
  | nil =>
    cases second
    simp
  | cons here _ ih =>
    cases second with
    | cons made rest => rw [forall₂_cons, forall_mem_cons, decides _ _ _ here made, ih rest]

theorem set_cases {k : Nat} {old new : α} (found : items[k]? = some old)
    (present : (items.set k new)[j]? = some item) : (j = k ∧ item = new) ∨ (j ≠ k ∧ items[j]? = some item) := by
  by_cases same : j = k
  · subst same
    have inside := (List.getElem?_eq_some_iff.mp found).1
    rw [getElem?_set_self inside] at present
    exact .inl ⟨rfl, (Option.some.inj present).symm⟩
  · rw [getElem?_set_ne (Ne.symm same)] at present
    exact .inr ⟨same, present⟩

theorem append_cases {new : α} (present : (items ++ [new])[j]? = some item) :
    items[j]? = some item ∨ (j = items.length ∧ item = new) := by
  by_cases inside : j < items.length
  · exact .inl ((getElem?_append_left inside).symm.trans present)
  · rw [getElem?_append_right (Nat.le_of_not_lt inside), getElem?_singleton] at present
    split at present
    · exact .inr ⟨by omega, (Option.some.inj present).symm⟩
    · cases present

end Lib.Pointwise
