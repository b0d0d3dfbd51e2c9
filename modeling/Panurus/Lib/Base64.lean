import Panurus.Lib.Der

namespace Lib.Base64

def symbol (value : Nat) : UInt8 :=
  if value < 26 then UInt8.ofNat (65 + value)
  else if value < 52 then UInt8.ofNat (71 + value)
  else if value < 62 then UInt8.ofNat (value - 4)
  else if value = 62 then 43
  else 47

def pad : UInt8 := 61

def first (a : UInt8) : UInt8 := symbol (a.toNat / 4)
def second (a b : UInt8) : UInt8 := symbol (a.toNat % 4 * 16 + b.toNat / 16)
def third (b c : UInt8) : UInt8 := symbol (b.toNat % 16 * 4 + c.toNat / 64)
def fourth (c : UInt8) : UInt8 := symbol (c.toNat % 64)

def encode : Bytes → Bytes
  | [] => []
  | [a] => [first a, second a 0, pad, pad]
  | [a, b] => [first a, second a b, third b 0, pad]
  | a :: b :: c :: rest => first a :: second a b :: third b c :: fourth c :: encode rest

def value (octet : UInt8) : Nat :=
  if octet = 43 then 62
  else if octet = 47 then 63
  else if octet.toNat < 58 then octet.toNat + 4
  else if octet.toNat < 91 then octet.toNat - 65
  else octet.toNat - 71

theorem symbol_value {number : Nat} (bounded : number < 64) : value (symbol number) = number := by
  have all : ∀ number : Fin 64, value (symbol number) = number := by decide
  exact all ⟨number, bounded⟩

theorem symbol_injective {number other : Nat} (bounded : number < 64) (bounded' : other < 64)
    (same : symbol number = symbol other) : number = other := by
  rw [← symbol_value bounded, same, symbol_value bounded']

theorem symbol_ne_pad {number : Nat} (bounded : number < 64) : symbol number ≠ pad := by
  have all : ∀ number : Fin 64, symbol number ≠ pad := by decide
  exact all ⟨number, bounded⟩

theorem symbol_ne_quote {number : Nat} (bounded : number < 64) : symbol number ≠ 34 := by
  have all : ∀ number : Fin 64, symbol number ≠ 34 := by decide
  exact all ⟨number, bounded⟩

section Groups

variable {a b c a' b' c' : UInt8}

theorem first_bound (a : UInt8) : a.toNat / 4 < 64 := by
  have bound := a.toNat_lt
  omega

theorem second_bound (a b : UInt8) : a.toNat % 4 * 16 + b.toNat / 16 < 64 := by
  have bound := b.toNat_lt
  omega

theorem third_bound (b c : UInt8) : b.toNat % 16 * 4 + c.toNat / 64 < 64 := by
  have bound := c.toNat_lt
  omega

theorem fourth_bound (c : UInt8) : c.toNat % 64 < 64 := Nat.mod_lt _ (by decide)

theorem first_octet (high : first a = first a') (low : second a b = second a' b') : a = a' ∧ b.toNat / 16 = b'.toNat / 16 := by
  have highs := symbol_injective (first_bound a) (first_bound a') high
  have lows := symbol_injective (second_bound a b) (second_bound a' b') low
  have bound := b.toNat_lt
  have bound' := b'.toNat_lt
  refine ⟨UInt8.toNat_inj.mp ?_, ?_⟩ <;> omega

theorem second_octet (high : b.toNat / 16 = b'.toNat / 16) (low : third b c = third b' c') :
    b = b' ∧ c.toNat / 64 = c'.toNat / 64 := by
  have lows := symbol_injective (third_bound b c) (third_bound b' c') low
  have bound := c.toNat_lt
  have bound' := c'.toNat_lt
  refine ⟨UInt8.toNat_inj.mp ?_, ?_⟩ <;> omega

theorem third_octet (high : c.toNat / 64 = c'.toNat / 64) (low : fourth c = fourth c') : c = c' := by
  have lows := symbol_injective (fourth_bound c) (fourth_bound c') low
  exact UInt8.toNat_inj.mp (by omega)

end Groups

theorem third_ne_pad (b c : UInt8) : third b c ≠ pad := symbol_ne_pad (third_bound b c)
theorem fourth_ne_pad (c : UInt8) : fourth c ≠ pad := symbol_ne_pad (fourth_bound c)

theorem encode_injective : ∀ {octets others : Bytes}, encode octets = encode others → octets = others
  | [], [], _ => rfl
  | [a], [a'], same => by
    simp only [encode, List.cons.injEq] at same
    rw [(first_octet same.1 same.2.1).1]
  | [a, b], [a', b'], same => by
    simp only [encode, List.cons.injEq] at same
    obtain ⟨octet, half⟩ := first_octet same.1 same.2.1
    rw [octet, (second_octet half same.2.2.1).1]
  | a :: b :: c :: rest, a' :: b' :: c' :: rest', same => by
    simp only [encode, List.cons.injEq] at same
    obtain ⟨high, low, middle, last, others⟩ := same
    obtain ⟨rfl, half⟩ := first_octet high low
    obtain ⟨rfl, quarter⟩ := second_octet half middle
    rw [third_octet quarter last, encode_injective others]
  -- The two are padded in different ways, or one is empty.
  | [], [_], same | [], [_, _], same | [], _ :: _ :: _ :: _, same | [_], [], same | [_, _], [], same
  | _ :: _ :: _ :: _, [], same | [_], [_, _], same | [_, _], [_], same | [_], _ :: _ :: _ :: _, same
  | _ :: _ :: _ :: _, [_], same | [_, _], _ :: _ :: _ :: _, same | _ :: _ :: _ :: _, [_, _], same => by
    simp [encode, eq_comm (a := pad), third_ne_pad, fourth_ne_pad] at same

theorem first_ne_quote (a : UInt8) : 34 ≠ first a := (symbol_ne_quote (first_bound a)).symm
theorem second_ne_quote (a b : UInt8) : 34 ≠ second a b := (symbol_ne_quote (second_bound a b)).symm
theorem third_ne_quote (b c : UInt8) : 34 ≠ third b c := (symbol_ne_quote (third_bound b c)).symm
theorem fourth_ne_quote (c : UInt8) : 34 ≠ fourth c := (symbol_ne_quote (fourth_bound c)).symm

theorem encode_no_quote : ∀ octets : Bytes, 34 ∉ encode octets
  | [] => List.not_mem_nil
  | [a] => by simp [encode, pad, first_ne_quote, second_ne_quote]
  | [a, b] => by simp [encode, pad, first_ne_quote, second_ne_quote, third_ne_quote]
  | a :: b :: c :: rest => by
    simp [encode, first_ne_quote, second_ne_quote, third_ne_quote, fourth_ne_quote, encode_no_quote rest]

end Lib.Base64
