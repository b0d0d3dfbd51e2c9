import Panurus.Lib.Signed

namespace Lib.Asn1

open List Lib.Der

-- A reader of DER values that keeps lengths in 31 bits: a length that a further octet could
-- carry past them is refused, and so is one that is not written in the fewest octets.
def readLengthFrom : Nat → Nat → Bytes → Option (Nat × Bytes)
  | 0, length, rest => some (length, rest)
  | _ + 1, _, [] => none
  | count + 1, length, octet :: rest =>
    if 2 ^ 23 ≤ length ∨ length * 256 + octet.toNat = 0 then none
    else readLengthFrom count (length * 256 + octet.toNat) rest

def readLength : Bytes → Option (Nat × Bytes)
  | [] => none
  | octet :: rest =>
    if octet < 0x80 then some (octet.toNat, rest)
    else if octet = 0x80 then none
    else match readLengthFrom (octet.toNat - 0x80) 0 rest with
      | some (length, rest) => if length < 0x80 then none else some (length, rest)
      | none => none

def readTlv (tag : UInt8) : Bytes → Option (Bytes × Bytes)
  | [] => none
  | octet :: rest =>
    if octet = tag then
      match readLength rest with
      | some (length, rest) => if length ≤ rest.length then some (rest.take length, rest.drop length) else none
      | none => none
    else none

def lengthLimit : Nat := 2 ^ 31

-- A run of values of one tag up to the end; none of them is empty, so as many steps as octets do.
def readRun (tag : UInt8) : Nat → Bytes → Option (List Bytes)
  | _, [] => some []
  | 0, _ :: _ => none
  | steps + 1, octet :: rest =>
    match readTlv tag (octet :: rest) with
    | some (content, rest) => (readRun tag steps rest).map (content :: ·)
    | none => none

def readOctetStrings (data : Bytes) : Option (List Bytes × Bytes) := do
  let (elements, rest) ← readTlv 0x30 data
  let strings ← readRun 0x04 elements.length elements
  return (strings, rest)

def octetStrings (strings : List Bytes) : Bytes := sequence (strings.map octetString)

variable {count start length n : Nat} {contents : List Bytes} {content data rest : Bytes}

theorem read_length_snoc {octets : Bytes} (octet : UInt8)
    (read : ∀ rest, readLengthFrom count start (octets ++ rest) = some (length, rest))
    (small : length < 2 ^ 23) (positive : length * 256 + octet.toNat ≠ 0) (rest : Bytes) :
    readLengthFrom (count + 1) start (octets ++ [octet] ++ rest) = some (length * 256 + octet.toNat, rest) := by
  induction count generalizing start octets with
  | zero =>
    have same := read []
    simp only [readLengthFrom, append_nil, Option.some.injEq, Prod.mk.injEq] at same
    obtain ⟨rfl, rfl⟩ := same
    simp only [nil_append, cons_append, readLengthFrom]
    rw [if_neg (by omega)]
  | succ count ih =>
    cases octets with
    | nil => exact absurd (read []) (by simp [readLengthFrom])
    | cons first octets =>
      simp only [cons_append, readLengthFrom] at read ⊢
      split at read
      · exact absurd (read []) (by simp)
      · rename_i fits
        rw [if_neg fits]
        exact ih read

theorem read_length_from (positive : 0 < n) (bounded : n < lengthLimit) (rest : Bytes) :
    readLengthFrom (width n) 0 (bigEndian n ++ rest) = some (n, rest) := by
  induction n using Nat.strong_induction_on generalizing rest with
  | _ n ih =>
    have digits : width n = width (n / 256) + 1 := by
      simp [width, Nat.digits_def' (by decide : 1 < 256) positive]
    have low : (UInt8.ofNat n).toNat = n % 256 := UInt8.toNat_ofNat'
    have value : n / 256 * 256 + (UInt8.ofNat n).toNat = n := by omega
    have high : ∀ rest, readLengthFrom (width (n / 256)) 0 (bigEndian (n / 256) ++ rest) = some (n / 256, rest) := by
      intro rest
      by_cases zero : n / 256 = 0
      · rw [zero]
        simp [width, bigEndian, readLengthFrom]
      · exact ih (n / 256) (by omega) (by omega) (by simp only [lengthLimit] at *; omega) rest
    have appended := read_length_snoc (UInt8.ofNat n) high (by simp only [lengthLimit] at bounded; omega)
      (by omega) rest
    rw [digits, big_endian_step positive, appended, value]

theorem long_head (long : ¬ n < 128) (wide : width n ≤ 8) : (UInt8.ofNat (0x80 + width n)).toNat = 0x80 + width n ∧
    ¬ UInt8.ofNat (0x80 + width n) < 0x80 ∧ UInt8.ofNat (0x80 + width n) ≠ 0x80 := by
  have some_digit := width_le_iff n 0
  have head : (UInt8.ofNat (0x80 + width n)).toNat = 0x80 + width n :=
    UInt8.toNat_ofNat_of_lt' (by show _ < 256; omega)
  refine ⟨head, ?_, fun same => ?_⟩
  · rw [UInt8.lt_iff_toNat_lt]
    show ¬ _ < 128
    omega
  · have values := congrArg UInt8.toNat same
    rw [show (0x80 : UInt8).toNat = 128 from rfl] at values
    omega

theorem read_length (bounded : n < lengthLimit) (rest : Bytes) : readLength (lengthOctets n ++ rest) = some (n, rest) := by
  by_cases short : n < 128
  · have head : (UInt8.ofNat n).toNat = n := UInt8.toNat_ofNat_of_lt' (by show _ < 256; omega)
    have below : UInt8.ofNat n < 0x80 := by
      rw [UInt8.lt_iff_toNat_lt, head]
      exact short
    simp [lengthOctets, short, readLength, below, head]
  · obtain ⟨head, long, definite⟩ := long_head short ((width_le_iff n 8).mpr (by simp only [lengthLimit] at bounded; omega))
    rw [lengthOctets, if_neg short, cons_append, readLength, if_neg long, if_neg definite, head,
      Nat.add_sub_cancel_left, read_length_from (by omega) bounded]
    simp [short]

theorem read_tlv (tag : UInt8) {content : Bytes} (bounded : content.length < lengthLimit) (rest : Bytes) :
    readTlv tag (tlv tag content ++ rest) = some (content, rest) := by
  rw [tlv, cons_append, readTlv, append_assoc, read_length bounded]
  simp

theorem read_run (tag : UInt8) (bounded : ∀ content ∈ contents, content.length < lengthLimit)
    {steps : Nat} (enough : contents.length ≤ steps) : readRun tag steps (contents.map (tlv tag)).flatten = some contents := by
  induction contents generalizing steps with
  | nil => cases steps <;> rfl
  | cons content contents ih =>
    obtain ⟨steps, rfl⟩ : ∃ fewer, steps = fewer + 1 := ⟨steps - 1, by simp only [length_cons] at enough; omega⟩
    have first := read_tlv tag (bounded content mem_cons_self) (contents.map (tlv tag)).flatten
    have others := ih (fun content mem => bounded content (mem_cons_of_mem _ mem)) (Nat.le_of_succ_le_succ enough)
    simp only [tlv, cons_append] at first others
    simp only [map_cons, flatten_cons, tlv, cons_append, readRun, first, others, Option.map_some]

theorem run_length (tag : UInt8) (contents : List Bytes) : contents.length ≤ (contents.map (tlv tag)).flatten.length := by
  induction contents with
  | nil => exact Nat.zero_le _
  | cons content contents ih =>
    simp only [map_cons, flatten_cons, length_append, length_cons, tlv]
    omega

theorem run_content_length (tag : UInt8) (mem : content ∈ contents) :
    content.length ≤ (contents.map (tlv tag)).flatten.length := by
  induction mem with
  | head others =>
    simp only [map_cons, flatten_cons, length_append, length_cons, tlv]
    omega
  | tail _ _ ih =>
    simp only [map_cons, flatten_cons, length_append]
    omega

theorem read_octet_strings {strings : List Bytes} (bounded : (strings.map octetString).flatten.length < lengthLimit)
    (rest : Bytes) : readOctetStrings (octetStrings strings ++ rest) = some (strings, rest) := by
  have elements : readRun 0x04 (strings.map octetString).flatten.length (strings.map octetString).flatten = some strings :=
    read_run 0x04 (fun content mem => (run_content_length 0x04 mem).trans_lt bounded) (run_length 0x04 strings)
  rw [octetStrings, Der.sequence]
  simp only [readOctetStrings, read_tlv 0x30 bounded, elements, Option.bind_eq_bind, Option.bind_some]
  rfl

open Lib.Signed

instance redundant_decidable : DecidablePred Redundant
  | [] | [_] => isFalse id
  | first :: second :: _ =>
    inferInstanceAs (Decidable ((first = 0x00 ∧ second &&& 0x80 = 0) ∨ (first = 0xFF ∧ second &&& 0x80 ≠ 0)))

def readInteger (data : Bytes) : Option (Int × Bytes) := do
  let (octets, rest) ← readTlv 0x02 data
  guard (octets ≠ [] ∧ ¬ Redundant octets ∧ octets.length ≤ 8)
  return (signed octets, rest)

theorem natural_digits (n : Nat) : natural (bigEndian n) = n := by
  induction n using Nat.strong_induction_on with
  | _ n ih =>
    by_cases zero : n = 0
    · rw [zero]
      rfl
    · have low : (UInt8.ofNat n).toNat = n % 256 := UInt8.toNat_ofNat'
      have high := ih (n / 256) (by omega)
      rw [natural] at high
      rw [big_endian_step (Nat.pos_of_ne_zero zero), natural, foldl_append, foldl_cons, foldl_nil]
      omega

theorem top_digit_positive {top : UInt8} (digits : bigEndian n = top :: rest) : top ≠ 0 := by
  rintro rfl
  have value := natural_digits n
  have below := natural_lt rest
  have wide : width n = rest.length + 1 := by
    rw [← big_endian_length, digits, length_cons]
  rw [digits, natural_cons] at value
  have least := (width_le_iff n rest.length).mpr (by simpa [← value] using below)
  omega

theorem natural_octets_value (n : Nat) : signed (naturalOctets n) = n := by
  have value := natural_digits n
  rw [naturalOctets]
  cases digits : bigEndian n with
  | nil =>
    rw [digits] at value
    rw [← value]
    rfl
  | cons top rest =>
    rw [digits] at value
    by_cases small : top < 0x80
    · have below : ¬ 128 ≤ top.toNat := Nat.not_le.mpr (UInt8.lt_iff_toNat_lt.mp small)
      simp only [if_pos small, signed_eq, negative_cons, below, value]
      rfl
    · simp only [if_neg small, signed_eq, negative_cons]
      rw [natural_cons, value]
      simp

theorem natural_octets_needed (n : Nat) : ¬ Redundant (naturalOctets n) := by
  rw [naturalOctets]
  cases digits : bigEndian n with
  | nil => exact id
  | cons top rest =>
    have positive := top_digit_positive digits
    by_cases small : top < 0x80
    · simp only [if_pos small]
      cases rest with
      | nil => exact id
      | cons second rest =>
        rintro (⟨zero, -⟩ | ⟨rfl, -⟩)
        · exact positive zero
        · exact absurd small (by decide)
    · simp only [if_neg small]
      rintro (⟨-, clear⟩ | ⟨top, -⟩)
      · exact small (UInt8.lt_iff_toNat_lt.mpr (top_bit_clear.mp clear))
      · exact absurd top (by decide)

theorem natural_octets_short (bounded : n < 2 ^ 63) : (naturalOctets n).length ≤ 8 := by
  have wide : width n ≤ 8 := (width_le_iff n 8).mpr (by omega)
  have value := natural_digits n
  rw [← big_endian_length] at wide
  rw [naturalOctets]
  cases digits : bigEndian n with
  | nil => decide
  | cons top rest =>
    rw [digits] at value wide
    by_cases small : top < 0x80
    · simpa only [if_pos small] using wide
    · have large : 128 ≤ top.toNat := Nat.not_lt.mp fun less => small (UInt8.lt_iff_toNat_lt.mpr less)
      simp only [if_neg small, length_cons] at wide ⊢
      by_contra long
      have seven : rest.length = 7 := by omega
      rw [natural_cons, seven] at value
      omega

theorem read_integer (bounded : n < 2 ^ 63) (rest : Bytes) : readInteger (integer n ++ rest) = some ((n : Int), rest) := by
  have short := natural_octets_short bounded
  have filled : naturalOctets n ≠ [] := by
    rw [naturalOctets]
    split
    · exact cons_ne_nil _ _
    · split <;> exact cons_ne_nil _ _
  have read := @read_tlv 0x02 (naturalOctets n) (by rw [lengthLimit]; omega) rest
  simp only [readInteger, integer, read, Option.bind_eq_bind, Option.bind_some]
  rw [guard, if_pos ⟨filled, natural_octets_needed n, short⟩, natural_octets_value]
  rfl

theorem read_length_from_value {octets left : Bytes} (small : start < lengthLimit)
    (read : readLengthFrom octets.length start (octets ++ rest) = some (length, left)) :
    length = octets.foldl (fun n octet => n * 256 + octet.toNat) start ∧ length < lengthLimit := by
  induction octets generalizing start with
  | nil =>
    simp only [length_nil, readLengthFrom, Option.some.injEq, Prod.mk.injEq] at read
    exact ⟨read.1.symm, read.1 ▸ small⟩
  | cons octet octets ih =>
    simp only [length_cons, cons_append, readLengthFrom] at read
    split at read
    · cases read
    · have below := octet.toNat_lt
      exact ih (by simp only [lengthLimit]; omega) read

theorem long_length_not_read (long : lengthLimit ≤ n) (written : n < 2 ^ 64) (rest : Bytes) :
    readLength (lengthOctets n ++ rest) = none := by
  rw [lengthLimit] at long
  obtain ⟨head, high, -⟩ := long_head (by omega) ((width_le_iff n 8).mpr (by omega))
  rw [lengthOctets, if_neg (by omega), cons_append, readLength, if_neg high, head, Nat.add_sub_cancel_left, ← big_endian_length]
  cases read : readLengthFrom (bigEndian n).length 0 (bigEndian n ++ rest) with
  | none => simp
  | some found =>
    obtain ⟨value, bounded⟩ := read_length_from_value (by decide) read
    rw [← natural, natural_digits] at value
    rw [lengthLimit] at bounded
    omega

theorem long_value_not_read {tag : UInt8} {content : Bytes} (long : lengthLimit ≤ content.length)
    (written : content.length < 2 ^ 64) (rest : Bytes) : readTlv tag (tlv tag content ++ rest) = none := by
  rw [tlv, cons_append, readTlv, if_pos rfl, append_assoc, long_length_not_read long written]

end Lib.Asn1
