import Mathlib.Data.Nat.Digits.Lemmas
import Panurus.Lib.Codec

namespace Lib

abbrev Bytes := List UInt8

abbrev Entries := List (Bytes × Bytes)

instance lawfulBytes : LawfulBEq Bytes := inferInstanceAs (LawfulBEq (List UInt8))

end Lib

namespace Lib.Der

open List Lib.Codec

-- Big-endian base 256 without a leading zero; zero is the empty string.
def bigEndian (n : Nat) : Bytes := (Nat.digits 256 n).reverse.map UInt8.ofNat

def width (n : Nat) : Nat := (Nat.digits 256 n).length

-- X.690 8.1.3, minimal as DER asks: short form below 128, long form otherwise.
def lengthOctets (n : Nat) : Bytes :=
  if n < 128 then [UInt8.ofNat n] else UInt8.ofNat (0x80 + width n) :: bigEndian n

def tlv (tag : UInt8) (content : Bytes) : Bytes := tag :: (lengthOctets content.length ++ content)

def sequence (elements : List Bytes) : Bytes := tlv 0x30 elements.flatten
def octetString (content : Bytes) : Bytes := tlv 0x04 content

-- The two's complement octets of a natural number: a zero octet is put in front when the top
-- bit is taken, and zero itself has one octet.
def naturalOctets (n : Nat) : Bytes :=
  match bigEndian n with
  | [] => [0]
  | top :: rest => if top < 0x80 then top :: rest else 0 :: top :: rest

def integer (n : Nat) : Bytes := tlv 0x02 (naturalOctets n)

theorem digit_lt {n d : Nat} (mem : d ∈ Nat.digits 256 n) : d < 256 :=
  Nat.digits_lt_base (by decide) mem

theorem big_endian_length (n : Nat) : (bigEndian n).length = width n := by
  simp [bigEndian, width]

theorem big_endian_step {n : Nat} (positive : 0 < n) : bigEndian n = bigEndian (n / 256) ++ [UInt8.ofNat n] := by
  have low : UInt8.ofNat (n % 256) = UInt8.ofNat n := by
    apply UInt8.toNat.inj
    simp
  simp [bigEndian, Nat.digits_def' (by decide : 1 < 256) positive, low]

theorem big_endian_single {n : Nat} (positive : 0 < n) (small : n < 256) : bigEndian n = [UInt8.ofNat n] := by
  rw [big_endian_step positive, Nat.div_eq_of_lt small]
  rfl

theorem big_endian_injective : Function.Injective bigEndian := by
  intro a b same
  have back : ∀ n, (bigEndian n).reverse.map UInt8.toNat = Nat.digits 256 n := by
    intro n
    rw [bigEndian, ← map_reverse, reverse_reverse, map_map]
    refine (map_congr_left fun d mem => ?_).trans (map_id _)
    exact UInt8.toNat_ofNat_of_lt' (digit_lt mem)
  apply Nat.digits_inj_iff.mp
  rw [← back a, ← back b, same]

theorem width_monotone : Monotone width := by
  intro a b less
  exact Nat.le_length_digits_le 256 a b less

theorem width_le_iff (n k : Nat) : width n ≤ k ↔ n < 256 ^ k :=
  Nat.digits_length_le_iff (by decide) n

theorem tlv_length_le (tag : UInt8) (content : Bytes) : (tlv tag content).length ≤ 2 * content.length + 2 := by
  have wide : width content.length ≤ content.length := by
    rw [width_le_iff]
    exact Nat.lt_pow_self (by decide)
  rw [tlv, lengthOctets]
  split <;> simp only [length_cons, length_append, length_nil, big_endian_length] <;> omega

theorem length_octets_size_monotone : Monotone fun n => (lengthOctets n).length := by
  intro a b less
  simp only [lengthOctets]
  split <;> split
  · simp
  · simp
  · omega
  · simpa only [length_cons, big_endian_length, Nat.add_le_add_iff_right] using width_monotone less

theorem tlv_injective (tag : UInt8) : Function.Injective (tlv tag) := by
  intro a b same
  exact body_injective_of_monotone length_octets_size_monotone (cons.inj same).2

-- The first long-form octet carries the width in seven bits; 0xFF is reserved.
def lengthBound : Nat := 256 ^ 126

theorem width_of_bounded {n : Nat} (bounded : n < lengthBound) : width n ≤ 126 :=
  (width_le_iff n 126).mpr bounded

theorem long_head_injective {a b : Nat} (boundA : a ≤ 126) (boundB : b ≤ 126)
    (same : UInt8.ofNat (0x80 + a) = UInt8.ofNat (0x80 + b)) : a = b := by
  have values := congrArg UInt8.toNat same
  rw [UInt8.toNat_ofNat_of_lt' (by show _ < 256; omega), UInt8.toNat_ofNat_of_lt' (by show _ < 256; omega)] at values
  omega

theorem short_head_ne_long {a b : Nat} (short : a < 128) (bound : b ≤ 126) : UInt8.ofNat a ≠ UInt8.ofNat (0x80 + b) := by
  intro same
  have values := congrArg UInt8.toNat same
  rw [UInt8.toNat_ofNat_of_lt' (by show _ < 256; omega), UInt8.toNat_ofNat_of_lt' (by show _ < 256; omega)] at values
  omega

theorem length_octets_prefix_free : PrefixFreeOn {n | n < lengthBound} lengthOctets := by
  intro a boundA b boundB rest more same
  have wideA := width_of_bounded boundA
  have wideB := width_of_bounded boundB
  simp only [lengthOctets] at same
  by_cases shortA : a < 128 <;> by_cases shortB : b < 128 <;>
    simp only [shortA, shortB, if_true, if_false, cons_append, nil_append, cons.injEq] at same
  · have values := congrArg UInt8.toNat same.1
    rw [UInt8.toNat_ofNat_of_lt' (by show _ < 256; omega), UInt8.toNat_ofNat_of_lt' (by show _ < 256; omega)] at values
    exact ⟨values, same.2⟩
  · exact absurd same.1 (short_head_ne_long shortA wideB)
  · exact absurd same.1.symm (short_head_ne_long shortB wideA)
  · have widths := long_head_injective wideA wideB same.1
    have digits := append_inj same.2 (by rw [big_endian_length, big_endian_length, widths])
    exact ⟨big_endian_injective digits.1, digits.2⟩

theorem tlv_prefix_free (tag : UInt8) : PrefixFreeOn {content | content.length < lengthBound} (tlv tag) :=
  prefix_free_const_append [tag] (prefix_free_length_prefixed length_octets_prefix_free)

theorem tlv_ne_nil (tag : UInt8) (content : Bytes) : tlv tag content ≠ [] := by
  simp [tlv]

end Lib.Der
