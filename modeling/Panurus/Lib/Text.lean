import Panurus.Lib.Der

namespace Lib.Text

open List

def ascii (text : String) : Bytes := text.toList.map fun char => UInt8.ofNat char.toNat
def render (octets : Bytes) : String := String.ofList (octets.map fun octet => Char.ofNat octet.toNat)

def digit (value : Nat) : UInt8 := if value < 10 then UInt8.ofNat (48 + value) else UInt8.ofNat (87 + value)

def hexOctet (octet : UInt8) : Bytes := [digit (octet.toNat / 16), digit (octet.toNat % 16)]
def hex (octets : Bytes) : Bytes := octets.flatMap hexOctet

def decimal (number : Nat) : Bytes :=
  if number = 0 then [digit 0] else ((Nat.digits 10 number).reverse).map digit

def hexadecimal (number : Nat) : Bytes :=
  if number = 0 then [digit 0] else ((Nat.digits 16 number).reverse).map digit

def hexValue (octet : UInt8) : Option Nat :=
  if 48 ≤ octet.toNat ∧ octet.toNat ≤ 57 then some (octet.toNat - 48)
  else if 97 ≤ octet.toNat ∧ octet.toNat ≤ 102 then some (octet.toNat - 87)
  else if 65 ≤ octet.toNat ∧ octet.toNat ≤ 70 then some (octet.toNat - 55)
  else none

-- Both cases of letters are read; what is wrong with other texts is left out.
def decodeHex : Bytes → Option Bytes
  | [] => some []
  | [_] => none
  | high :: low :: rest => do
    let first ← hexValue high
    let second ← hexValue low
    let octets ← decodeHex rest
    return UInt8.ofNat (16 * first + second) :: octets

theorem decode_hex_length {text octets : Bytes} (decoded : decodeHex text = some octets) : text.length = 2 * octets.length := by
  fun_induction decodeHex text generalizing octets with
  | case1 => simp [← Option.some.inj decoded]
  | case2 => cases decoded
  | case3 high low rest ih =>
    simp only [Option.bind_eq_bind, Option.bind_eq_some_iff, Option.pure_def, Option.some.injEq] at decoded
    obtain ⟨first, _, second, _, tail, read, rfl⟩ := decoded
    simp only [length_cons, ih read]
    omega

def digitValue (octet : UInt8) : Nat := if octet.toNat < 58 then octet.toNat - 48 else octet.toNat - 87

theorem digit_value {value : Nat} (bounded : value < 16) : digitValue (digit value) = value := by
  have all : ∀ value : Fin 16, digitValue (digit value) = value := by decide
  exact all ⟨value, bounded⟩

theorem digit_ne_zero {value : Nat} (bounded : value < 16) : digit value ≠ 0 := by
  have all : ∀ value : Fin 16, digit value ≠ 0 := by decide
  exact all ⟨value, bounded⟩

theorem digit_injective {first second : Nat} (bounded : first < 16) (bounded' : second < 16)
    (same : digit first = digit second) : first = second := by
  rw [← digit_value bounded, same, digit_value bounded']

theorem hex_injective : Function.Injective hex := by
  intro first second same
  induction first generalizing second with
  | nil =>
    cases second with
    | nil => rfl
    | cons octet tail => simp [hex, hexOctet] at same
  | cons head tail ih =>
    cases second with
    | nil => simp [hex, hexOctet] at same
    | cons octet rest =>
      simp only [hex, flatMap_cons, hexOctet, cons_append, nil_append, cons.injEq] at same
      obtain ⟨high, low, others⟩ := same
      have bound := head.toNat_lt
      have bound' := octet.toNat_lt
      have highs := digit_injective (by omega) (by omega) high
      have lows := digit_injective (by omega) (by omega) low
      have octets : head = octet := UInt8.toNat_inj.mp (by omega)
      rw [octets, ih others]

theorem hex_no_nul (octets : Bytes) : 0 ∉ hex octets := by
  intro mem
  obtain ⟨octet, -, inside⟩ := mem_flatMap.mp mem
  have bound := octet.toNat_lt
  rw [hexOctet, mem_cons, mem_singleton] at inside
  cases inside with
  | inl high => exact digit_ne_zero (by omega) high.symm
  | inr low => exact digit_ne_zero (by omega) low.symm

theorem digits_value {values : List Nat} (small : ∀ value ∈ values, value < 16) : (values.map digit).map digitValue = values := by
  induction values with
  | nil => rfl
  | cons head tail ih =>
    rw [map_cons, map_cons, digit_value (small head mem_cons_self), ih fun value mem => small value (mem_cons_of_mem _ mem)]

theorem decimal_digits (number : Nat) :
    (decimal number).map digitValue = if number = 0 then [0] else (Nat.digits 10 number).reverse := by
  by_cases zero : number = 0
  · simp [decimal, zero]
    rfl
  · rw [decimal, if_neg zero, if_neg zero, digits_value]
    intro value mem
    have small := Nat.digits_lt_base (by decide : 1 < 10) (mem_reverse.mp mem)
    omega

theorem decimal_injective : Function.Injective decimal := by
  intro first second same
  have digits : Nat.ofDigits 10 ((decimal first).map digitValue).reverse =
      Nat.ofDigits 10 ((decimal second).map digitValue).reverse := by rw [same]
  have read : ∀ number, Nat.ofDigits 10 ((decimal number).map digitValue).reverse = number := by
    intro number
    rw [decimal_digits]
    by_cases zero : number = 0
    · simp [zero]
    · rw [if_neg zero, reverse_reverse, Nat.ofDigits_digits]
  rwa [read, read] at digits

theorem decimal_no_nul (number : Nat) : 0 ∉ decimal number := by
  intro mem
  rw [decimal] at mem
  by_cases zero : number = 0
  · rw [if_pos zero, mem_singleton] at mem
    exact digit_ne_zero (by decide) mem.symm
  · rw [if_neg zero, mem_map] at mem
    obtain ⟨value, inside, equal⟩ := mem
    have small := Nat.digits_lt_base (by decide : 1 < 10) (mem_reverse.mp inside)
    exact digit_ne_zero (by omega) equal

def IsDecimalDigit (octet : UInt8) : Prop := 48 ≤ octet ∧ octet ≤ 57

instance (octet : UInt8) : Decidable (IsDecimalDigit octet) := inferInstanceAs (Decidable (_ ∧ _))

def decimalFrom (number : Nat) (digits : Bytes) : Nat := digits.foldl (fun n octet => n * 10 + (octet.toNat - 48)) number

theorem decimal_from_append (number : Nat) (digits : Bytes) (octet : UInt8) :
    decimalFrom number (digits ++ [octet]) = decimalFrom number digits * 10 + (octet.toNat - 48) := by
  simp [decimalFrom]

theorem le_decimal_from (number : Nat) (digits : Bytes) : number ≤ decimalFrom number digits := by
  induction digits generalizing number with
  | nil => exact Nat.le_refl number
  | cons octet digits ih =>
    have rest := ih (number * 10 + (octet.toNat - 48))
    simp only [decimalFrom, foldl_cons] at rest ⊢
    omega

theorem decimal_small {number : Nat} (small : number < 10) : decimal number = [digit number] := by
  rcases Nat.eq_zero_or_pos number with rfl | positive
  · rfl
  · rw [decimal, if_neg (by omega), Nat.digits_of_lt 10 number (by omega) small]
    rfl

theorem decimal_step {number : Nat} (large : 10 ≤ number) : decimal number = decimal (number / 10) ++ [digit (number % 10)] := by
  rw [decimal, decimal, if_neg (by omega), if_neg (by omega), Nat.digits_def' (by decide) (by omega)]
  simp

theorem decimal_digit {value : Nat} (small : value < 10) : IsDecimalDigit (digit value) ∧ (digit value).toNat - 48 = value := by
  interval_cases value <;> decide

theorem decimal_read (number : Nat) :
    decimalFrom 0 (decimal number) = number ∧ (∀ octet ∈ decimal number, IsDecimalDigit octet) ∧ decimal number ≠ [] := by
  induction number using Nat.strong_induction_on with
  | _ number ih =>
    by_cases small : number < 10
    · have digit := decimal_digit small
      rw [decimal_small small]
      exact ⟨by simp [decimalFrom, digit.2], by simp [digit.1], by simp⟩
    · obtain ⟨value, digits, _⟩ := ih (number / 10) (by omega)
      have last := decimal_digit (Nat.mod_lt number (by decide : 0 < 10))
      rw [decimal_step (by omega), decimal_from_append]
      refine ⟨by omega, ?_, by simp⟩
      intro octet mem
      rcases mem_append.mp mem with front | back
      · exact digits octet front
      · exact mem_singleton.mp back ▸ last.1

end Lib.Text
