import Panurus.Lib.Der

namespace Lib.FixedWidth

open List

def littleEndian : Nat → Nat → Bytes
  | 0, _ => []
  | width + 1, n => UInt8.ofNat n :: littleEndian width (n / 256)

def bigEndian (width n : Nat) : Bytes := (littleEndian width n).reverse

-- Stands for a hash function where one is evaluated: no two texts of up to thirty octets have the same.
def checksum (text : Bytes) : Nat := text.foldl (fun total octet => total * 257 + octet.toNat + 1) 0

def checksum32 (text : Bytes) : Bytes := bigEndian 32 (checksum text)

def checksum256 (text : Bytes) : BitVec 256 := BitVec.ofNat 256 (checksum text)

@[simp] theorem little_endian_length (width n : Nat) : (littleEndian width n).length = width := by
  induction width generalizing n with
  | zero => rfl
  | succ width ih => simp [littleEndian, ih]

@[simp] theorem big_endian_length (width n : Nat) : (bigEndian width n).length = width := by
  simp [bigEndian]

variable {width a b n : Nat}

theorem little_endian_injective (fitsA : a < 256 ^ width) (fitsB : b < 256 ^ width)
    (same : littleEndian width a = littleEndian width b) : a = b := by
  induction width generalizing a b with
  | zero => simp at fitsA fitsB; omega
  | succ width ih =>
    simp only [littleEndian, cons.injEq] at same
    have low := congrArg UInt8.toNat same.1
    simp only [UInt8.toNat_ofNat'] at low
    have high := ih (Nat.div_lt_of_lt_mul (by omega)) (Nat.div_lt_of_lt_mul (by omega)) same.2
    omega

theorem big_endian_injective (fitsA : a < 256 ^ width) (fitsB : b < 256 ^ width)
    (same : bigEndian width a = bigEndian width b) : a = b :=
  little_endian_injective fitsA fitsB (reverse_injective same)

def ofLittleEndian : Bytes → Nat
  | [] => 0
  | octet :: rest => octet.toNat + 256 * ofLittleEndian rest

def ofBigEndian (octets : Bytes) : Nat := ofLittleEndian octets.reverse

theorem of_little_endian (fits : n < 256 ^ width) : ofLittleEndian (littleEndian width n) = n := by
  induction width generalizing n with
  | zero => simp at fits; simp [littleEndian, ofLittleEndian, fits]
  | succ width ih =>
    rw [littleEndian, ofLittleEndian, ih (Nat.div_lt_of_lt_mul (by omega)), UInt8.toNat_ofNat']
    omega

theorem of_big_endian (fits : n < 256 ^ width) : ofBigEndian (bigEndian width n) = n := by
  rw [ofBigEndian, bigEndian, reverse_reverse, of_little_endian fits]

theorem little_endian_of (octets : Bytes) : littleEndian octets.length (ofLittleEndian octets) = octets := by
  induction octets with
  | nil => rfl
  | cons octet rest ih =>
    have small := octet.toNat_lt
    have high : (octet.toNat + 256 * ofLittleEndian rest) / 256 = ofLittleEndian rest := by omega
    rw [length_cons, littleEndian, ofLittleEndian, high]
    congr 1
    exact UInt8.toNat.inj (by rw [UInt8.toNat_ofNat']; omega)

theorem big_endian_of {octets : Bytes} (length : octets.length = width) : bigEndian width (ofBigEndian octets) = octets := by
  rw [bigEndian, ofBigEndian, ← length, ← length_reverse, little_endian_of, reverse_reverse]

theorem little_endian_pad (fits : n < 256 ^ width) (more : Nat) :
    littleEndian (width + more) n = littleEndian width n ++ replicate more 0 := by
  induction width generalizing n with
  | zero =>
    obtain rfl : n = 0 := by simpa using fits
    induction more with
    | zero => rfl
    | succ more ih => simpa [littleEndian, replicate_succ] using ih
  | succ width ih =>
    rw [Nat.succ_add, littleEndian, littleEndian, ih (Nat.div_lt_of_lt_mul (by omega)), cons_append]

theorem big_endian_pad (fits : n < 256 ^ width) (more : Nat) :
    bigEndian (width + more) n = replicate more 0 ++ bigEndian width n := by
  rw [bigEndian, bigEndian, little_endian_pad fits, reverse_append, reverse_replicate]

theorem little_endian_mod (width n : Nat) : littleEndian width (n % 256 ^ width) = littleEndian width n := by
  induction width generalizing n with
  | zero => rfl
  | succ width ih =>
    have low : UInt8.ofNat (n % 256 ^ (width + 1)) = UInt8.ofNat n := by
      apply UInt8.toNat_inj.mp
      exact Nat.mod_mod_of_dvd n (Dvd.intro_left (256 ^ width) rfl)
    rw [littleEndian, littleEndian, low, pow_succ', Nat.mod_mul_right_div_self, ih]

theorem big_endian_mod (width n : Nat) : bigEndian width (n % 256 ^ width) = bigEndian width n := by
  rw [bigEndian, little_endian_mod, bigEndian]

end Lib.FixedWidth
