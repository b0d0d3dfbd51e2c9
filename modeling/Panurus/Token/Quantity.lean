import Panurus.Lib.Outcome
import Panurus.Lib.Text

namespace Panurus.Token

open Lib Outcome Text

def underscore : UInt8 := 0x5F

def digitOf (ch : UInt8) : Option Nat :=
  if 0x30 ≤ ch ∧ ch ≤ 0x39 then some (ch.toNat - 0x30)
  else if 0x61 ≤ ch ∧ ch ≤ 0x7A then some (ch.toNat - 0x61 + 10)
  else if 0x41 ≤ ch ∧ ch ≤ 0x5A then some (ch.toNat - 0x41 + 10)
  else none

-- The digits of a number up to the end of the text. A separator stands after a digit or the base prefix and before a
-- digit; the first argument after the base says whether the last character was one of those.
def scanDigits (base : Nat) : Bool → Nat → Nat → Bytes → Option Nat
  | afterDigit, count, value, [] => if afterDigit ∧ count ≠ 0 then some value else none
  | afterDigit, count, value, ch :: rest =>
    if ch = underscore then
      if afterDigit then scanDigits base false count value rest else none
    else
      match digitOf ch with
      | some digit => if digit < base then scanDigits base true (count + 1) (value * base + digit) rest else none
      | none => none

-- Base 0: the base is told by a prefix, a leading 0 alone meaning octal.
def scanNat : Bytes → Option Nat
  | [0x30] => some 0
  | 0x30 :: ch :: rest =>
    if ch = 0x62 ∨ ch = 0x42 then scanDigits 2 true 0 0 rest
    else if ch = 0x6F ∨ ch = 0x4F then scanDigits 8 true 0 0 rest
    else if ch = 0x78 ∨ ch = 0x58 then scanDigits 16 true 0 0 rest
    else scanDigits 8 true 0 0 (ch :: rest)
  | text => scanDigits 10 false 0 0 text

-- SetString with base 0 of the arbitrary precision integers.
def setString : Bytes → Option Int
  | 0x2D :: rest => (scanNat rest).map fun value => -(value : Int)
  | 0x2B :: rest => (scanNat rest).map fun value => (value : Int)
  | text => (scanNat text).map fun value => (value : Int)

def bitLen (value : Nat) : Nat := if value = 0 then 0 else value.log2 + 1

def toInt (precision : UInt64) : Int := precision.toInt64.toInt

-- A quantity of 64 bits is a machine word, one of any other precision an arbitrary precision integer. The latter is
-- never negative.
inductive Quantity where
  | uint64 (value : UInt64)
  | big (value : Nat) (precision : UInt64)
deriving DecidableEq, Repr

namespace Quantity

def toNat : Quantity → Nat
  | .uint64 value => value.toNat
  | .big value _ => value

def typeName : Quantity → String
  | .uint64 _ => "*token.UInt64Quantity"
  | .big _ _ => "*token.BigQuantity"

def zero (precision : UInt64) : Quantity := if precision = 64 then .uint64 0 else .big 0 precision

def add (q b : Quantity) : Outcome Quantity :=
  match q, b with
  | .uint64 value, .uint64 other => do
    ensure (¬ value + other < value) s!"overflow: {value} + {other} exceeds uint64"
    return .uint64 (value + other)
  | .big value precision, .big other _ => do
    ensure (¬ (bitLen (value + other) : Int) > toInt precision)
      s!"overflow: {value} + {other} exceeds precision {precision}"
    return .big (value + other) precision
  | .uint64 _, .big _ _ => .error s!"expected UInt64Quantity, got [{b.typeName}]"
  | .big _ _, .uint64 _ => .error s!"expected BigQuantity, got [{b.typeName}]"

def sub (q b : Quantity) : Outcome Quantity :=
  match q, b with
  | .uint64 value, .uint64 other => do
    ensure (¬ other > value) s!"underflow: {value} < {other}"
    return .uint64 (value - other)
  | .big value precision, .big other _ => do
    ensure (¬ value < other) s!"underflow: {value} < {other}"
    return .big (value - other) precision
  | .uint64 _, .big _ _ => .error s!"expected UInt64Quantity, got [{b.typeName}]"
  | .big _ _, .uint64 _ => .error s!"expected BigQuantity, got [{b.typeName}]"

def sign (value other : Nat) : Int := if value < other then -1 else if value > other then 1 else 0

def cmp (q b : Quantity) : Int :=
  match q, b with
  | .uint64 value, .uint64 other => if value < other then -1 else if value > other then 1 else 0
  | .big value _, .big other _ => sign value other
  | .uint64 value, .big other _ => if bitLen other > 64 then -1 else sign value.toNat other
  | .big value _, .uint64 other => if bitLen value > 64 then 1 else sign value other.toNat

end Quantity

def toQuantity (q : Bytes) (precision : UInt64) : Outcome Quantity := do
  ensure (precision ≠ 0) "precision must be larger than 0"
  let v ← required (setString q) s!"invalid input [{render q},{precision}]"
  ensure (¬ v < 0) "quantity must be larger than 0"
  ensure (¬ (bitLen v.natAbs : Int) > toInt precision)
    s!"{render q} has precision {bitLen v.natAbs} > {precision}"
  return if precision = 64 then .uint64 (UInt64.ofNat v.natAbs) else .big v.natAbs precision

def uInt64ToQuantity (u precision : UInt64) : Outcome Quantity := do
  ensure (precision ≠ 0) "precision must be larger than 0"
  if precision = 64 then return .uint64 u else do
    ensure (¬ (bitLen u.toNat : Int) > toInt precision) s!"{u} has precision {bitLen u.toNat} > {precision}"
    return .big u.toNat precision

def Quantity.hex (q : Quantity) : Bytes := ascii "0x" ++ hexadecimal q.toNat

theorem bit_len_le_iff (value width : Nat) : bitLen value ≤ width ↔ value < 2 ^ width := by
  by_cases zero : value = 0
  · simp [bitLen, zero]
  · rw [bitLen, if_neg zero, Nat.succ_le_iff, Nat.log2_lt zero]

open Quantity

theorem cmp_eq_sign (q b : Quantity) : q.cmp b = Quantity.sign q.toNat b.toNat := by
  cases q with
  | uint64 value =>
    cases b with
    | uint64 other => simp [Quantity.cmp, Quantity.sign, Quantity.toNat, UInt64.lt_iff_toNat_lt]
    | big other precision =>
      simp only [Quantity.cmp, Quantity.toNat]
      split
      · rename_i large
        have bound := value.toNat_lt
        have wide := mt (bit_len_le_iff other 64).mpr (by omega)
        exact (if_pos (by omega)).symm
      · rfl
  | big value precision =>
    cases b with
    | big other precision => rfl
    | uint64 other =>
      simp only [Quantity.cmp, Quantity.toNat]
      split
      · rename_i large
        have bound := other.toNat_lt
        have wide := mt (bit_len_le_iff value 64).mpr (by omega)
        rw [Quantity.sign, if_neg (by omega), if_pos (by omega)]
      · rfl

theorem cmp_eq_zero_iff (q b : Quantity) : q.cmp b = 0 ↔ q.toNat = b.toNat := by
  rw [cmp_eq_sign, sign]
  split
  · omega
  · split <;> omega

theorem add_ok {q b sum : Quantity} (added : q.add b = .ok sum) : sum.toNat = q.toNat + b.toNat := by
  cases q with
  | uint64 value =>
    cases b with
    | uint64 other =>
      simp only [add, ok_iff] at added
      obtain ⟨_, fits, rfl⟩ := added
      have bound' := other.toNat_lt
      rw [UInt64.lt_iff_toNat_lt, UInt64.toNat_add] at fits
      rw [Quantity.toNat, Quantity.toNat, Quantity.toNat, UInt64.toNat_add]
      omega
    | big other precision => cases added
  | big value precision =>
    cases b with
    | uint64 other => cases added
    | big other precision' =>
      simp only [add, ok_iff] at added
      obtain ⟨_, -, rfl⟩ := added
      rfl

theorem zero_to_nat (precision : UInt64) : (zero precision).toNat = 0 := by
  unfold zero
  split <;> rfl

open List

namespace Quantity

def decimal (q : Quantity) : Bytes := Text.decimal q.toNat

def toBigInt (q : Quantity) : Int := q.toNat

def of (precision : UInt64) (number : Nat) : Quantity :=
  if precision = 64 then .uint64 (UInt64.ofNat number) else .big number precision

def asBig : Quantity → Quantity
  | .uint64 value => .big value.toNat 64
  | .big value precision => .big value precision

end Quantity

variable {value number : Nat} {text : Bytes} {q sum rest b : Quantity} {precision' : UInt64}

section Reading

theorem digit_of_digit (small : value < 16) : digitOf (digit value) = some value ∧ digit value ≠ underscore := by
  have all : ∀ value : Fin 16, digitOf (digit value) = some value.val ∧ digit value ≠ underscore := by decide
  exact all ⟨value, small⟩

theorem scan_digits_read {base : Nat} (bounded : base ≤ 16) {values : List Nat} (small : ∀ value ∈ values, value < base)
    (count number : Nat) (counted : count ≠ 0 ∨ values ≠ []) (afterDigit : Bool) (start : afterDigit = true ∨ values ≠ []) :
    scanDigits base afterDigit count number (values.map digit) = some (values.foldl (fun n value => n * base + value) number) := by
  induction values generalizing count number afterDigit with
  | nil => simp_all [scanDigits]
  | cons value rest ih =>
    have here := small value mem_cons_self
    obtain ⟨read, apart⟩ := digit_of_digit (Nat.lt_of_lt_of_le here bounded)
    rw [map_cons, scanDigits, if_neg apart, read]
    simp only [here, if_true, foldl_cons]
    exact ih (fun value mem => small value (mem_cons_of_mem _ mem)) _ _ (.inl (Nat.succ_ne_zero _)) _ (.inl rfl)

theorem fold_digits (base number : Nat) :
    (Nat.digits base number).reverse.foldl (fun n value => n * base + value) 0 = number := by
  rw [foldl_reverse]
  have same : (fun value n => n * base + value) = fun (value n : Nat) => value + base * n := by
    funext value n
    rw [Nat.mul_comm, Nat.add_comm]
  calc
    _ = (Nat.digits base number).foldr (fun value n => value + base * n) 0 := by rw [same]
    _ = Nat.ofDigits base (Nat.digits base number) := by
      rw [Nat.ofDigits_eq_foldr]
      rfl
    _ = number := Nat.ofDigits_digits base number

theorem scan_hexadecimal (number : Nat) : setString (ascii "0x" ++ hexadecimal number) = some (number : Int) := by
  have read : scanDigits 16 true 0 0 (hexadecimal number) = some number := by
    by_cases zero : number = 0
    · subst zero
      decide
    · have some : (Nat.digits 16 number).reverse ≠ [] := by
        simpa [Nat.digits_eq_nil_iff_eq_zero] using zero
      rw [hexadecimal, if_neg zero, scan_digits_read (by decide) ?_ _ _ (.inr some) _ (.inl rfl), fold_digits]
      intro value mem
      exact Nat.digits_lt_base (by decide) (mem_reverse.mp mem)
  have shape : setString (ascii "0x" ++ hexadecimal number) =
      (scanDigits 16 true 0 0 (hexadecimal number)).map fun value => (value : Int) := rfl
  rw [shape, read]
  rfl

theorem set_string_plain (positive : 0 < value) (small : value < 10) (text : Bytes) :
    setString (digit value :: text) = (scanDigits 10 false 0 0 (digit value :: text)).map fun value => (value : Int) := by
  interval_cases value <;> rfl

theorem scan_decimal (number : Nat) : setString (Text.decimal number) = some (number : Int) := by
  by_cases zero : number = 0
  · subst zero
    decide
  · have some : (Nat.digits 10 number).reverse ≠ [] := by
      simpa [Nat.digits_eq_nil_iff_eq_zero] using zero
    have small : ∀ value ∈ (Nat.digits 10 number).reverse, value < 10 := by
      intro value mem
      exact Nat.digits_lt_base (by decide) (mem_reverse.mp mem)
    have read : scanDigits 10 false 0 0 ((Nat.digits 10 number).reverse.map digit) = Option.some number := by
      rw [scan_digits_read (by decide) small _ _ (.inr some) _ (.inr some), fold_digits]
    have first := Nat.getLast_digit_ne_zero 10 zero
    rw [Text.decimal, if_neg zero]
    cases shape : (Nat.digits 10 number).reverse with
    | nil => exact absurd shape some
    | cons value rest =>
      have last : value = (Nat.digits 10 number).getLast (Nat.digits_ne_nil_iff_ne_zero.mpr zero) := by
        rw [← head_reverse some]
        simp [shape]
      rw [shape] at read small
      rw [map_cons, set_string_plain (Nat.pos_of_ne_zero (last ▸ first)) (small value mem_cons_self), ← map_cons, read]
      rfl

end Reading

section Precision

variable {precision : UInt64} {other : Nat}

structure Precise (precision : UInt64) : Prop where
  positive : precision ≠ 0
  signed : precision.toNat < 2 ^ 63

theorem to_int_of_small (signed : precision.toNat < 2 ^ 63) : toInt precision = precision.toNat := by
  have bits : toInt precision = precision.toBitVec.toInt := rfl
  rw [bits, BitVec.toInt_eq_toNat_of_lt]
  · rfl
  · rw [UInt64.toNat_toBitVec]
    omega

theorem to_int_neg (large : 2 ^ 63 ≤ precision.toNat) : toInt precision < 0 := by
  have bits : toInt precision = precision.toBitVec.toInt := rfl
  have bound := precision.toNat_lt
  rw [bits, BitVec.toInt_eq_toNat_cond, UInt64.toNat_toBitVec]
  split <;> omega

theorem fits_iff (number : Nat) :
    ¬ (bitLen number : Int) > toInt precision ↔ precision.toNat < 2 ^ 63 ∧ number < 2 ^ precision.toNat := by
  rcases Nat.lt_or_ge precision.toNat (2 ^ 63) with signed | large
  · rw [to_int_of_small signed, ← bit_len_le_iff number precision.toNat]
    omega
  · have negative := to_int_neg large
    omega

theorem to_quantity_ok_iff :
    toQuantity text precision = .ok q ↔
      Precise precision ∧ ∃ number : Nat, setString text = some (number : Int) ∧ number < 2 ^ precision.toNat ∧
        of precision number = q := by
  simp only [toQuantity, ok_iff, fits_iff, exists_const]
  constructor
  · rintro ⟨positive, v, read, natural, ⟨signed, fits⟩, rfl⟩
    obtain ⟨number, rfl⟩ := Int.eq_ofNat_of_zero_le (Int.not_lt.mp natural)
    exact ⟨⟨positive, signed⟩, number, read, fits, rfl⟩
  · rintro ⟨precise, number, read, fits, rfl⟩
    exact ⟨precise.positive, number, read, by omega, ⟨precise.signed, fits⟩, rfl⟩

theorem of_to_nat (fits : number < 2 ^ precision.toNat) : (of precision number).toNat = number := by
  unfold of
  split
  · rename_i word
    subst word
    exact UInt64.toNat_ofNat_of_lt' fits
  · rfl

theorem of_zero (precision : UInt64) : of precision 0 = zero precision := rfl

theorem word_add_ok_iff {value other : UInt64} :
    (uint64 value).add (.uint64 other) = .ok sum ↔ value.toNat + other.toNat < 2 ^ 64 ∧ uint64 (value + other) = sum := by
  have bound' := other.toNat_lt
  simp only [add, ok_iff, exists_const, UInt64.lt_iff_toNat_lt, UInt64.toNat_add]
  refine and_congr_left fun _ => ?_
  omega

theorem word_sub_ok_iff {value other : UInt64} :
    (uint64 value).sub (.uint64 other) = .ok rest ↔ other.toNat ≤ value.toNat ∧ uint64 (value - other) = rest := by
  simp only [sub, ok_iff, exists_const, gt_iff_lt, UInt64.lt_iff_toNat_lt, Nat.not_lt]

theorem big_add_ok_iff :
    (big value precision).add (.big other precision') = .ok sum ↔
      (precision.toNat < 2 ^ 63 ∧ value + other < 2 ^ precision.toNat) ∧ big (value + other) precision = sum := by
  simp only [add, ok_iff, exists_const, fits_iff]

theorem big_sub_ok_iff :
    (big value precision).sub (.big other precision') = .ok rest ↔ other ≤ value ∧ big (value - other) precision = rest := by
  simp only [sub, ok_iff, exists_const, Nat.not_lt]

theorem sub_ok (made : q.sub b = .ok rest) : rest.toNat + b.toNat = q.toNat := by
  cases q with
  | uint64 value =>
    cases b with
    | uint64 other =>
      obtain ⟨enough, rfl⟩ := word_sub_ok_iff.mp made
      rw [Quantity.toNat, UInt64.toNat_sub_of_le _ _ (UInt64.le_iff_toNat_le.mpr enough)]
      exact Nat.sub_add_cancel enough
    | big other precision => cases made
  | big value precision =>
    cases b with
    | uint64 other => cases made
    | big other precision' =>
      obtain ⟨enough, rfl⟩ := big_sub_ok_iff.mp made
      exact Nat.sub_add_cancel enough

theorem converted_to_nat {value : UInt64} (made : uInt64ToQuantity value precision = .ok q) : q.toNat = value.toNat := by
  simp only [uInt64ToQuantity, ok_iff, exists_const] at made
  obtain ⟨_, made⟩ := made
  split at made
  · cases made
    rfl
  · simp only [ok_iff, exists_const] at made
    obtain ⟨_, rfl⟩ := made
    rfl

theorem add_of (precise : Precise precision) (fits : number < 2 ^ precision.toNat) (fits' : other < 2 ^ precision.toNat) :
    (of precision number).add (of precision other) = .ok sum ↔
      number + other < 2 ^ precision.toNat ∧ of precision (number + other) = sum := by
  by_cases word : precision = 64
  · subst word
    rw [of, of, of, if_pos rfl, if_pos rfl, if_pos rfl, word_add_ok_iff,
      UInt64.toNat_ofNat_of_lt' fits, UInt64.toNat_ofNat_of_lt' fits', UInt64.ofNat_add]
    exact Iff.rfl
  · rw [of, of, of, if_neg word, if_neg word, if_neg word, big_add_ok_iff]
    exact and_congr_left fun _ => and_iff_right precise.signed

end Precision

inductive Obtained : UInt64 → Quantity → Prop
  | parsed {text : Bytes} {precision : UInt64} {q : Quantity} (made : toQuantity text precision = .ok q) : Obtained precision q
  | converted {u precision : UInt64} {q : Quantity} (made : uInt64ToQuantity u precision = .ok q) : Obtained precision q
  | added {precision precision' : UInt64} {q b sum : Quantity} (left : Obtained precision q) (right : Obtained precision' b)
      (made : q.add b = .ok sum) : Obtained precision sum
  | subtracted {precision precision' : UInt64} {q b rest : Quantity} (left : Obtained precision q)
      (right : Obtained precision' b) (made : q.sub b = .ok rest) : Obtained precision rest

section Algebra

structure InRange (precision : UInt64) (q : Quantity) : Prop where
  precise : Precise precision
  fits : q.toNat < 2 ^ precision.toNat
  same : q = of precision q.toNat

theorem word_in_range (value : UInt64) : InRange 64 (.uint64 value) :=
  ⟨⟨by decide, by decide⟩, value.toNat_lt, by simp [of, Quantity.toNat]⟩

theorem in_range_cases {precision : UInt64} (range : InRange precision q) :
    (precision = 64 ∧ ∃ value, q = .uint64 value) ∨ (precision ≠ 64 ∧ ∃ value, q = .big value precision) := by
  by_cases word : precision = 64
  · exact .inl ⟨word, _, range.same.trans (if_pos word)⟩
  · exact .inr ⟨word, _, range.same.trans (if_neg word)⟩

theorem big_in_range {precision : UInt64} (precise : Precise precision) (wide : precision ≠ 64)
    (fits : value < 2 ^ precision.toNat) : InRange precision (.big value precision) :=
  ⟨precise, fits, (if_neg wide).symm⟩

theorem added_in_range {precision : UInt64} (range : InRange precision q) (made : q.add b = .ok sum) : InRange precision sum := by
  rcases in_range_cases range with ⟨rfl, value, rfl⟩ | ⟨wide, value, rfl⟩
  · cases b with
    | uint64 =>
      obtain ⟨_, rfl⟩ := word_add_ok_iff.mp made
      exact word_in_range _
    | big => cases made
  · cases b with
    | uint64 => cases made
    | big =>
      obtain ⟨⟨_, fits⟩, rfl⟩ := big_add_ok_iff.mp made
      exact big_in_range range.precise wide fits

theorem subtracted_in_range {precision : UInt64} (range : InRange precision q) (made : q.sub b = .ok rest) :
    InRange precision rest := by
  rcases in_range_cases range with ⟨rfl, value, rfl⟩ | ⟨wide, value, rfl⟩
  · cases b with
    | uint64 =>
      obtain ⟨_, rfl⟩ := word_sub_ok_iff.mp made
      exact word_in_range _
    | big => cases made
  · cases b with
    | uint64 => cases made
    | big =>
      obtain ⟨_, rfl⟩ := big_sub_ok_iff.mp made
      exact big_in_range range.precise wide (Nat.lt_of_le_of_lt (Nat.sub_le _ _) range.fits)

theorem converted_in_range {u precision : UInt64} (made : uInt64ToQuantity u precision = .ok q) : InRange precision q := by
  simp only [uInt64ToQuantity, ok_iff, exists_const] at made
  obtain ⟨positive, made⟩ := made
  split at made
  · rename_i word
    subst word
    cases made
    exact word_in_range u
  · rename_i wide
    simp only [ok_iff, exists_const, fits_iff] at made
    obtain ⟨⟨signed, fits⟩, rfl⟩ := made
    exact big_in_range ⟨positive, signed⟩ wide fits

theorem obtained_in_range {precision : UInt64} (obtained : Obtained precision q) : InRange precision q := by
  induction obtained with
  | parsed made =>
    obtain ⟨precise, number, _, fits, rfl⟩ := to_quantity_ok_iff.mp made
    exact ⟨precise, by rwa [of_to_nat fits], by rw [of_to_nat fits]⟩
  | converted made => exact converted_in_range made
  | added _ _ made left _ => exact added_in_range left made
  | subtracted _ _ made left _ => exact subtracted_in_range left made

theorem read_back {precision : UInt64} (range : InRange precision q)
    (read : setString text = some (q.toNat : Int)) : toQuantity text precision = .ok q :=
  to_quantity_ok_iff.mpr ⟨range.precise, q.toNat, read, range.fits, range.same.symm⟩

end Algebra

structure OneAlgebra : Prop where
  add : ∀ value other : UInt64, ((uint64 value).add (.uint64 other)).toOption.map asBig =
    ((uint64 value).asBig.add (uint64 other).asBig).toOption
  sub : ∀ value other : UInt64, ((uint64 value).sub (.uint64 other)).toOption.map asBig =
    ((uint64 value).asBig.sub (uint64 other).asBig).toOption
  cmp : ∀ q b : Quantity, q.asBig.cmp b.asBig = q.cmp b
  texts : ∀ q : Quantity, q.asBig.hex = q.hex ∧ q.asBig.decimal = q.decimal ∧ q.asBig.toBigInt = q.toBigInt
  order : ∀ q b : Quantity, (q.cmp b < 0 ↔ q.toBigInt < b.toBigInt) ∧ (q.cmp b = 0 ↔ q.toBigInt = b.toBigInt) ∧
    (0 < q.cmp b ↔ b.toBigInt < q.toBigInt)
  antisymmetric : ∀ q b : Quantity, q.cmp b = - b.cmp q
  transitive : ∀ q b c : Quantity, q.cmp b ≤ 0 → b.cmp c ≤ 0 → q.cmp c ≤ 0
  texts_read : ∀ precision q, Obtained precision q →
    toQuantity q.hex precision = .ok q ∧ toQuantity q.decimal precision = .ok q ∧ q.cmp q = 0

theorem as_big_to_nat (q : Quantity) : q.asBig.toNat = q.toNat := by
  cases q <;> rfl

theorem same_outcomes {outcome other : Outcome Quantity} {change : Quantity → Quantity}
    (same : ∀ result, other = .ok result ↔ ∃ value, outcome = .ok value ∧ change value = result) :
    outcome.toOption.map change = other.toOption := by
  ext result
  rw [Option.map_eq_some_iff, to_option_eq_some_iff, same]
  simp [to_option_eq_some_iff]

theorem as_big_word (value : UInt64) : (uint64 value).asBig = .big value.toNat 64 := rfl

theorem add_as_big (value other : UInt64) : ((uint64 value).add (.uint64 other)).toOption.map asBig =
    ((uint64 value).asBig.add (uint64 other).asBig).toOption := by
  refine same_outcomes fun result => ?_
  simp only [as_big_word, big_add_ok_iff, word_add_ok_iff]
  constructor
  · rintro ⟨⟨_, fits⟩, rfl⟩
    have word : value.toNat + other.toNat < 2 ^ 64 := fits
    refine ⟨_, ⟨word, rfl⟩, ?_⟩
    rw [as_big_word, UInt64.toNat_add, Nat.mod_eq_of_lt word]
  · rintro ⟨_, ⟨fits, rfl⟩, rfl⟩
    refine ⟨⟨by decide, fits⟩, ?_⟩
    rw [as_big_word, UInt64.toNat_add, Nat.mod_eq_of_lt fits]

theorem sub_as_big (value other : UInt64) : ((uint64 value).sub (.uint64 other)).toOption.map asBig =
    ((uint64 value).asBig.sub (uint64 other).asBig).toOption := by
  refine same_outcomes fun result => ?_
  simp only [as_big_word, big_sub_ok_iff, word_sub_ok_iff]
  constructor
  · rintro ⟨enough, rfl⟩
    refine ⟨_, ⟨enough, rfl⟩, ?_⟩
    rw [as_big_word, UInt64.toNat_sub_of_le _ _ (UInt64.le_iff_toNat_le.mpr enough)]
  · rintro ⟨_, ⟨enough, rfl⟩, rfl⟩
    refine ⟨enough, ?_⟩
    rw [as_big_word, UInt64.toNat_sub_of_le _ _ (UInt64.le_iff_toNat_le.mpr enough)]

theorem sign_cases (value other : Nat) : (value < other ∧ sign value other = -1) ∨
    (value = other ∧ sign value other = 0) ∨ (other < value ∧ sign value other = 1) := by
  rcases Nat.lt_trichotomy value other with less | same | more
  · exact .inl ⟨less, if_pos less⟩
  · exact .inr (.inl ⟨same, by simp [sign, same]⟩)
  · exact .inr (.inr ⟨more, by rw [sign, if_neg (Nat.not_lt.mpr (Nat.le_of_lt more)), if_pos more]⟩)

theorem not_greater_iff (q b : Quantity) : ¬ q.cmp b = 1 ↔ q.toNat ≤ b.toNat := by
  rw [cmp_eq_sign]
  have cases := sign_cases q.toNat b.toNat
  omega

theorem quantities_one_algebra : OneAlgebra where
  add := add_as_big
  sub := sub_as_big
  cmp q b := by rw [cmp_eq_sign, cmp_eq_sign, as_big_to_nat, as_big_to_nat]
  texts q := by simp [Quantity.hex, Quantity.decimal, Quantity.toBigInt, as_big_to_nat]
  order q b := by
    rw [cmp_eq_sign, toBigInt, toBigInt]
    have cases := sign_cases q.toNat b.toNat
    omega
  antisymmetric q b := by
    rw [cmp_eq_sign, cmp_eq_sign]
    have cases := sign_cases q.toNat b.toNat
    have cases' := sign_cases b.toNat q.toNat
    omega
  transitive q b c := by
    rw [cmp_eq_sign, cmp_eq_sign, cmp_eq_sign]
    have first := sign_cases q.toNat b.toNat
    have second := sign_cases b.toNat c.toNat
    have third := sign_cases q.toNat c.toNat
    omega
  texts_read precision q obtained := by
    have range := obtained_in_range obtained
    exact ⟨read_back range (scan_hexadecimal _), read_back range (scan_decimal _), (cmp_eq_zero_iff q q).mpr rfl⟩

end Panurus.Token
