import Panurus.Lib.FixedWidth

namespace Lib.Signed

open List Lib.FixedWidth

def natural (octets : Bytes) : Nat := octets.foldl (fun n octet => n * 256 + octet.toNat) 0

def negative (octets : Bytes) : Bool := octets.head?.any (· &&& 0x80 ≠ 0)

def signed (octets : Bytes) : Int :=
  octets.foldl (fun (n : Int) octet => n * 256 + octet.toNat) (if negative octets then -1 else 0)

def Redundant : Bytes → Prop
  | first :: second :: _ => (first = 0x00 ∧ second &&& 0x80 = 0) ∨ (first = 0xFF ∧ second &&& 0x80 ≠ 0)
  | _ => False

theorem octet_forall {holds : UInt8 → Prop} (all : ∀ n : Fin 256, holds (UInt8.ofNat n.val)) (octet : UInt8) : holds octet := by
  have known := all ⟨octet.toNat, octet.toNat_lt⟩
  rwa [UInt8.ofNat_toNat] at known

theorem top_bit_clear {octet : UInt8} : octet &&& 0x80 = 0 ↔ octet.toNat < 128 := by
  have all : ∀ octet : UInt8, octet &&& 0x80 = 0 ↔ octet.toNat < 128 := octet_forall (by decide +kernel)
  exact all octet

theorem natural_from (start : Nat) (octets : Bytes) :
    octets.foldl (fun n octet => n * 256 + octet.toNat) start = start * 256 ^ octets.length + natural octets := by
  induction octets generalizing start with
  | nil => simp [natural]
  | cons octet octets ih =>
    simp only [natural, foldl_cons, length_cons] at ih ⊢
    rw [ih (start * 256 + octet.toNat), ih (0 * 256 + octet.toNat)]
    ring

theorem natural_cons (octet : UInt8) (octets : Bytes) :
    natural (octet :: octets) = octet.toNat * 256 ^ octets.length + natural octets := by
  rw [natural, foldl_cons, natural_from]
  simp

theorem natural_lt (octets : Bytes) : natural octets < 256 ^ octets.length := by
  induction octets with
  | nil => simp [natural]
  | cons octet octets ih =>
    have bound : octet.toNat + 1 ≤ 256 := octet.toNat_lt
    have step := Nat.mul_le_mul_right (256 ^ octets.length) bound
    rw [natural_cons, length_cons]
    rw [Nat.add_mul] at step
    omega

theorem natural_injective {first second : Bytes} (length : first.length = second.length)
    (same : natural first = natural second) : first = second := by
  induction first generalizing second with
  | nil =>
    cases second with
    | nil => rfl
    | cons octet octets => cases length
  | cons octet octets ih =>
    cases second with
    | nil => cases length
    | cons other others =>
      have sizes : octets.length = others.length := Nat.succ.inj length
      rw [natural_cons, natural_cons, sizes] at same
      have low := natural_lt octets
      have low' := natural_lt others
      rw [sizes] at low
      have positive : 0 < 256 ^ others.length := Nat.pow_pos (by decide)
      have quotient : ∀ head rest, rest < 256 ^ others.length → (head * 256 ^ others.length + rest) / 256 ^ others.length = head := by
        intro head rest small
        rw [Nat.add_comm, Nat.add_mul_div_right _ _ positive, Nat.div_eq_of_lt small, Nat.zero_add]
      have highs : octet.toNat = other.toNat := by
        rw [← quotient octet.toNat _ low, same, quotient other.toNat _ low']
      rw [UInt8.toNat_inj.mp highs, ih sizes (by rw [highs] at same; omega)]

theorem natural_big_endian {width n : Nat} (fits : n < 256 ^ width) : natural (bigEndian width n) = n := by
  induction width generalizing n with
  | zero =>
    simp only [pow_zero, Nat.lt_one_iff] at fits
    simp [bigEndian, littleEndian, natural, fits]
  | succ width ih =>
    have high := ih (Nat.div_lt_of_lt_mul (by omega) : n / 256 < 256 ^ width)
    have split : bigEndian (width + 1) n = bigEndian width (n / 256) ++ [UInt8.ofNat n] := by simp [bigEndian, littleEndian]
    rw [split, natural, foldl_append]
    simp only [natural] at high
    simp only [high, foldl_cons, foldl_nil, UInt8.toNat_ofNat']
    omega

theorem big_endian_natural (octets : Bytes) : bigEndian octets.length (natural octets) = octets :=
  natural_injective (big_endian_length _ _) (natural_big_endian (natural_lt octets))

theorem signed_eq (octets : Bytes) :
    signed octets = if negative octets then (natural octets : Int) - 256 ^ octets.length else natural octets := by
  have from_start : ∀ (start : Int) (octets : Bytes), octets.foldl (fun (n : Int) octet => n * 256 + octet.toNat) start =
      start * 256 ^ octets.length + natural octets := by
    intro start octets
    induction octets generalizing start with
    | nil => simp [natural]
    | cons octet octets ih =>
      rw [foldl_cons, ih, natural_cons, length_cons]
      push_cast
      ring
  rw [signed, from_start]
  split <;> ring

theorem negative_cons (octet : UInt8) (octets : Bytes) : negative (octet :: octets) = decide (128 ≤ octet.toNat) := by
  simp [negative, top_bit_clear]

theorem signed_range (octets : Bytes) (filled : octets ≠ []) :
    -(256 ^ octets.length : Int) ≤ 2 * signed octets ∧ 2 * signed octets < 256 ^ octets.length := by
  cases octets with
  | nil => exact absurd rfl filled
  | cons octet octets =>
    have low := natural_lt octets
    have high := octet.toNat_lt
    have positive : 0 < 256 ^ octets.length := Nat.pow_pos (by decide)
    rw [signed_eq, negative_cons, natural_cons, length_cons, pow_succ']
    generalize hp : 256 ^ octets.length = unit at *
    have unit_int : ((256 : Int) ^ octets.length) = unit := by rw [← hp]; norm_cast
    by_cases top : 128 ≤ octet.toNat
    · have least := Nat.mul_le_mul_right unit top
      have most := Nat.mul_le_mul_right unit (Nat.le_of_lt_succ high)
      simp only [top, decide_true, if_true]
      push_cast
      constructor <;> linarith
    · have most := Nat.mul_le_mul_right unit (Nat.le_of_lt_succ (Nat.not_le.mp top))
      simp only [top, decide_false, Bool.false_eq_true, if_false]
      have natural_value : (0 : Int) ≤ octet.toNat * unit := by positivity
      push_cast
      constructor <;> linarith

theorem signed_needs_first {first second : UInt8} {rest : Bytes} (needed : ¬ Redundant (first :: second :: rest)) :
    (256 ^ (rest.length + 1) : Int) ≤ 2 * signed (first :: second :: rest) ∨
      2 * signed (first :: second :: rest) < -(256 ^ (rest.length + 1) : Int) := by
  simp only [Redundant, top_bit_clear, not_or, not_and, Nat.not_lt, ne_eq, Nat.not_le] at needed
  have low := natural_lt rest
  have high := first.toNat_lt
  have high' := second.toNat_lt
  simp only [signed_eq, negative_cons, natural_cons, length_cons, pow_succ']
  generalize hp : 256 ^ rest.length = unit at *
  have unit_int : ((256 : Int) ^ rest.length) = unit := by rw [← hp]; norm_cast
  by_cases top : 128 ≤ first.toNat
  · right
    simp only [top, decide_true, if_true]
    by_cases full : first = 0xFF
    · have most := Nat.mul_le_mul_right unit (Nat.le_of_lt_succ (needed.2 full))
      rw [show first.toNat = 255 by rw [full]; rfl]
      push_cast
      linarith
    · have value : first.toNat ≤ 254 := by
        have other : first.toNat ≠ 255 := fun same => full (UInt8.toNat_inj.mp same)
        omega
      have most := Nat.mul_le_mul_right (256 * unit) value
      have most' := Nat.mul_le_mul_right unit (Nat.le_of_lt_succ high')
      push_cast
      linarith
  · left
    simp only [top, decide_false, Bool.false_eq_true, if_false]
    by_cases zero : first = 0x00
    · have least := Nat.mul_le_mul_right unit (needed.1 zero)
      rw [show first.toNat = 0 by rw [zero]; rfl]
      push_cast
      linarith
    · have value : 1 ≤ first.toNat := by
        have other : first.toNat ≠ 0 := fun same => zero (UInt8.toNat_inj.mp same)
        omega
      have least := Nat.mul_le_mul_right (256 * unit) value
      have natural_value : (0 : Int) ≤ second.toNat * unit := by positivity
      push_cast
      linarith

theorem longer_not_same {shorter longer : Bytes} (filled : shorter ≠ []) (needed : ¬ Redundant longer)
    (less : shorter.length < longer.length) : signed shorter ≠ signed longer := by
  have range := signed_range shorter filled
  obtain ⟨first, second, rest, rfl⟩ : ∃ first second rest, longer = first :: second :: rest := by
    have some_octet := length_pos_iff.mpr filled
    match longer, less with
    | [], less => simp at less
    | [_], less => simp only [length_singleton] at less; omega
    | first :: second :: rest, _ => exact ⟨first, second, rest, rfl⟩
  have within : (256 : Int) ^ shorter.length ≤ 256 ^ (rest.length + 1) :=
    pow_le_pow_right₀ (by norm_num) (by simp only [length_cons] at less; omega)
  rcases signed_needs_first needed with large | small
  · omega
  · omega

theorem signed_unique {octets others : Bytes} (filled : octets ≠ []) (filled' : others ≠ []) (needed : ¬ Redundant octets)
    (needed' : ¬ Redundant others) (same : signed octets = signed others) : octets = others := by
  have length : octets.length = others.length := by
    rcases Nat.lt_trichotomy octets.length others.length with less | equal | more
    · exact absurd same (longer_not_same filled needed' less)
    · exact equal
    · exact absurd same.symm (longer_not_same filled' needed more)
  refine natural_injective length ?_
  have low := natural_lt octets
  have low' := natural_lt others
  rw [signed_eq, signed_eq, length] at same
  rw [length] at low
  have unit : ((256 : Int) ^ others.length) = (256 ^ others.length : Nat) := by norm_cast
  split at same <;> split at same <;> omega

theorem negative_iff {octets : Bytes} (filled : octets ≠ []) : negative octets ↔ 256 ^ octets.length ≤ 2 * natural octets := by
  cases octets with
  | nil => exact absurd rfl filled
  | cons octet octets =>
    have low := natural_lt octets
    rw [negative_cons, natural_cons, length_cons, decide_eq_true_eq]
    constructor
    · intro top
      have least := Nat.mul_le_mul_right (256 ^ octets.length) top
      omega
    · intro large
      by_contra top
      have most := Nat.mul_le_mul_right (256 ^ octets.length) (Nat.le_of_lt_succ (Nat.not_le.mp top))
      omega

theorem signed_redundant {first second : UInt8} {rest : Bytes} (redundant : Redundant (first :: second :: rest)) :
    signed (first :: second :: rest) = signed (second :: rest) := by
  rcases redundant with ⟨rfl, clear⟩ | ⟨rfl, set⟩
  · have small := top_bit_clear.mp clear
    rw [signed_eq, signed_eq, negative_cons, negative_cons, natural_cons]
    simp [Nat.not_le.mpr small]
  · have large : 128 ≤ second.toNat := Nat.not_lt.mp fun small => set (top_bit_clear.mpr small)
    rw [signed_eq, signed_eq, negative_cons, negative_cons, natural_cons 0xFF]
    have top : decide (128 ≤ (0xFF : UInt8).toNat) = true := rfl
    rw [top, decide_eq_true large]
    simp only [length_cons, pow_succ']
    push_cast
    ring

end Lib.Signed
