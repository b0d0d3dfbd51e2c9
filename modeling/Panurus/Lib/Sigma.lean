import Mathlib.Algebra.Module.Basic
import Mathlib.Algebra.Field.ZMod
import Mathlib.Tactic.Module

namespace Lib.Sigma

section Extraction

variable {F G : Type} [Field F] [AddCommGroup G] [Module F G]

def extracted (response response' challenge challenge' : F) : F := (response - response') / (challenge - challenge')

theorem two_responses_open {g h point : G} {z w z' w' c c' : F} (distinct : c ≠ c')
    (same : z • g + w • h - c • point = z' • g + w' • h - c' • point) :
    point = extracted z z' c c' • g + extracted w w' c c' • h := by
  have nonzero : c - c' ≠ 0 := sub_ne_zero.mpr distinct
  have moved : c • point - c' • point = (z • g + w • h) - (z' • g + w' • h) := by
    rw [sub_eq_sub_iff_add_eq_add] at same ⊢
    exact (add_comm _ _).trans same.symm
  have scaled : (c - c') • point = (z - z') • g + (w - w') • h := by
    rw [sub_smul, moved]
    module
  have divided : point = (c - c')⁻¹ • ((c - c') • point) := by rw [smul_smul, inv_mul_cancel₀ nonzero, one_smul]
  rw [divided, scaled, smul_add, smul_smul, smul_smul, extracted, extracted, div_eq_inv_mul, div_eq_inv_mul]

theorem two_responses_open_one {g point : G} {z z' c c' : F} (distinct : c ≠ c')
    (same : z • g - c • point = z' • g - c' • point) : point = extracted z z' c c' • g := by
  have padded : z • g + (0 : F) • (0 : G) - c • point = z' • g + (0 : F) • (0 : G) - c' • point := by
    simpa only [smul_zero, add_zero] using same
  simpa only [smul_zero, add_zero] using two_responses_open distinct padded

def combine (generators : G × G × G) (coefficients : F × F × F) : G :=
  coefficients.1 • generators.1 + coefficients.2.1 • generators.2.1 + coefficients.2.2 • generators.2.2

theorem combine_sub (generators : G × G × G) (a b : F × F × F) :
    combine generators (a - b) = combine generators a - combine generators b := by
  simp only [combine, Prod.fst_sub, Prod.snd_sub]
  module

theorem combine_add (generators : G × G × G) (a b : F × F × F) :
    combine generators (a + b) = combine generators a + combine generators b := by
  simp only [combine, Prod.fst_add, Prod.snd_add]
  module

theorem opened_sum {generators : G × G × G} {points : List G} {openings : List (F × F × F)}
    (opened : List.Forall₂ (fun point opening => point = combine generators opening) points openings) :
    points.sum = combine generators openings.sum := by
  induction opened with
  | nil => simp [combine]
  | cons head _ ih => rw [List.sum_cons, List.sum_cons, combine_add, ih, head]

end Extraction

section Lift

theorem sums_agree {p bound : ℕ} {values others : List ℕ} (small : ∀ value ∈ values, value < bound)
    (small' : ∀ value ∈ others, value < bound) (room : (values.length + others.length) * bound < p)
    (same : ((values.sum : ℕ) : ZMod p) = ((others.sum : ℕ) : ZMod p)) : values.sum = others.sum := by
  have left := List.sum_le_card_nsmul values bound fun value mem => (small value mem).le
  have right := List.sum_le_card_nsmul others bound fun value mem => (small' value mem).le
  rw [smul_eq_mul] at left right
  rw [Nat.add_mul] at room
  have residues := (ZMod.natCast_eq_natCast_iff' _ _ _).mp same
  rwa [Nat.mod_eq_of_lt (by omega), Nat.mod_eq_of_lt (by omega)] at residues

end Lift

end Lib.Sigma
