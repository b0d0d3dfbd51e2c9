import Panurus.Identity.Envelopes

namespace Panurus.Identity

open List Lib Outcome Text FixedWidth Signed

def lengthOctets (l : Nat) : Bytes :=
  if l < 0x80 then [UInt8.ofNat l]
  else if l < 0x100 then [0x81, UInt8.ofNat l]
  else if l < 0x10000 then [0x82, UInt8.ofNat (l >>> 8), UInt8.ofNat l]
  else if l < 0x1000000 then [0x83, UInt8.ofNat (l >>> 16), UInt8.ofNat (l >>> 8), UInt8.ofNat l]
  else [0x84, UInt8.ofNat (l >>> 24), UInt8.ofNat (l >>> 16), UInt8.ofNat (l >>> 8), UInt8.ofNat l]

def appendTLV (dst : Bytes) (tag : UInt8) (val : Bytes) : Bytes := dst ++ tag :: (lengthOctets val.length ++ val)

-- Octets are dropped from the front as long as the next one says the same; the last one stays.
def dropFront (redundant : UInt8 → UInt8 → Bool) : List UInt8 → Bytes
  | first :: second :: rest => if redundant first second then dropFront redundant (second :: rest) else first :: second :: rest
  | octets => octets

def zeroFront (first second : UInt8) : Bool := first = 0x00 ∧ second &&& 0x80 = 0

def onesFront (first second : UInt8) : Bool := first = 0xFF ∧ second &&& 0x80 ≠ 0

def encodeInt32 (v : Int32) : Bytes :=
  let bits := v.toUInt32
  dropFront onesFront (dropFront zeroFront [(bits >>> 24).toUInt8, (bits >>> 16).toUInt8, (bits >>> 8).toUInt8, bits.toUInt8])

def encodeIdentity (t : Int32) (data : Bytes) : Bytes :=
  appendTLV [] tagSequence (appendTLV (appendTLV [] tagInteger (encodeInt32 t)) tagOctetString data)

theorem long_first : ∀ octet : UInt8, ¬ octet < 0x80 → octet = UInt8.ofNat (0x80 + (octet &&& 0x7F).toNat) :=
  octet_forall (by decide +kernel)

structure LongForm (l width : Nat) : Prop where
  some_octet : 1 ≤ width
  few : width ≤ 4
  form : lengthOctets l = UInt8.ofNat (0x80 + width) :: bigEndian width l
  fits : l < 2 ^ 32 → l < 256 ^ width
  needed : 256 ^ (width - 1) ≤ l

variable {l pos next : Nat} {octets b rest content data : Bytes} {tag : UInt8} {label : Label} {res : Result} {t : Int32}

theorem long_form (long : 128 ≤ l) : ∃ width, LongForm l width := by
  have shifts : l >>> 8 = l / 256 ∧ l >>> 16 = l / 256 / 256 ∧ l >>> 24 = l / 256 / 256 / 256 := by
    simp [Nat.shiftRight_eq_div_pow, Nat.div_div_eq_div_mul]
  by_cases one : l < 0x100
  · refine ⟨1, by decide, by decide, ?_, fun _ => one, by omega⟩
    rw [lengthOctets, if_neg (by omega), if_pos one]
    rfl
  · by_cases two : l < 0x10000
    · refine ⟨2, by decide, by decide, ?_, fun _ => two, by omega⟩
      rw [lengthOctets, if_neg (by omega), if_neg one, if_pos two, shifts.1]
      rfl
    · by_cases three : l < 0x1000000
      · refine ⟨3, by decide, by decide, ?_, fun _ => three, by omega⟩
        rw [lengthOctets, if_neg (by omega), if_neg one, if_neg two, if_pos three, shifts.1, shifts.2.1]
        rfl
      · refine ⟨4, by decide, by decide, ?_, fun bounded => by omega, by omega⟩
        rw [lengthOctets, if_neg (by omega), if_neg one, if_neg two, if_neg three, shifts.1, shifts.2.1, shifts.2.2]
        rfl

theorem width_unique {width other : Nat} (bounded : l < 2 ^ 32) (long : LongForm l width) (some_octet : 1 ≤ other)
    (fits : l < 256 ^ other) (needed : 256 ^ (other - 1) ≤ l) : width = other := by
  have below := long.fits bounded
  have least := long.needed
  rcases Nat.lt_trichotomy width other with less | same | more
  · have grows : 256 ^ width ≤ 256 ^ (other - 1) := Nat.pow_le_pow_right (by decide) (by omega)
    omega
  · exact same
  · have grows : 256 ^ other ≤ 256 ^ (width - 1) := Nat.pow_le_pow_right (by decide) (by omega)
    omega

theorem length_octets_natural (few : octets.length ≤ 4) (head : octets.head? ≠ some 0x00)
    (long : 128 ≤ natural octets) : lengthOctets (natural octets) = UInt8.ofNat (0x80 + octets.length) :: octets := by
  obtain ⟨width, form⟩ := long_form long
  have fits := natural_lt octets
  have filled : 1 ≤ octets.length := by
    cases octets with
    | nil => exact absurd long (by decide)
    | cons octet octets => simp
  have bounded : natural octets < 2 ^ 32 :=
    lt_of_lt_of_le fits (Nat.pow_le_pow_right (by decide) few : 256 ^ octets.length ≤ 256 ^ 4)
  have needed : 256 ^ (octets.length - 1) ≤ natural octets := by
    cases octets with
    | nil => exact absurd long (by decide)
    | cons octet octets =>
      have nonzero : 1 ≤ octet.toNat := by
        have other : octet.toNat ≠ 0 := fun zero => head (congrArg some (UInt8.toNat_inj.mp zero))
        omega
      have least := Nat.mul_le_mul_right (256 ^ octets.length) nonzero
      rw [natural_cons, length_cons, Nat.add_sub_cancel]
      omega
  have same := width_unique bounded form filled fits needed
  rw [form.form, same, big_endian_natural]

theorem head_nonzero (needed : 256 ^ (octets.length - 1) ≤ natural octets) : octets.head? ≠ some 0x00 := by
  intro zero
  cases octets with
  | nil => cases zero
  | cons octet octets =>
    cases zero
    have low := natural_lt octets
    rw [natural_cons, length_cons, Nat.add_sub_cancel, show (0x00 : UInt8).toNat = 0 from rfl] at needed
    omega

theorem long_width : ∀ width ≤ 4, ¬ UInt8.ofNat (0x80 + width) < 0x80 ∧ (UInt8.ofNat (0x80 + width) &&& 0x7F).toNat = width := by
  decide

theorem read_len_ok_iff : readLen b pos = .ok (l, next) ↔ ∃ rest, b.drop pos = lengthOctets l ++ rest ∧
    next = pos + (lengthOctets l).length ∧ l < 2 ^ 32 ∧ (128 ≤ l → l ≤ rest.length) := by
  constructor
  · intro read
    simp only [readLen, ok_iff] at read
    obtain ⟨first, here, read⟩ := read
    obtain ⟨inside, rfl⟩ := List.getElem?_eq_some_iff.mp here
    have starts : b.drop pos = b[pos] :: b.drop (pos + 1) := List.drop_eq_getElem_cons inside
    split at read
    · rename_i short
      obtain ⟨rfl, rfl⟩ := read
      have small : b[pos].toNat < 128 := UInt8.lt_iff_toNat_lt.mp short
      have single : lengthOctets b[pos].toNat = [b[pos]] := by rw [lengthOctets, if_pos small, UInt8.ofNat_toNat]
      rw [single]
      exact ⟨b.drop (pos + 1), starts, rfl, by omega, fun long => by omega⟩
    · rename_i long
      simp only [ok_iff, exists_const, Prod.mk.injEq] at read
      obtain ⟨size, head, least, fits, rfl, rfl⟩ := read
      generalize width_eq : (b[pos] &&& 0x7F).toNat = width at *
      have split := take_append_drop width (b.drop (pos + 1))
      have count : ((b.drop (pos + 1)).take width).length = width := by
        rw [length_take, length_drop]
        omega
      rw [drop_drop] at split
      generalize (b.drop (pos + 1)).take width = octets at *
      have form := length_octets_natural (by omega) head (Nat.not_lt.mp least)
      rw [count, ← width_eq, ← long_first _ long] at form
      refine ⟨b.drop (pos + 1 + width), ?_, ?_, ?_, fun _ => ?_⟩
      · rw [starts, ← split, ← cons_append]
        exact congrArg (· ++ b.drop (pos + 1 + width)) form.symm
      · show _ = pos + (lengthOctets (natural octets)).length
        rw [form, length_cons]
        omega
      · have below := natural_lt octets
        rw [count] at below
        exact lt_of_lt_of_le below (Nat.pow_le_pow_right (by decide) (by omega) : 256 ^ width ≤ 256 ^ 4)
      · rw [length_drop]
        exact Nat.not_lt.mp fits
  · rintro ⟨rest, text, rfl, bounded, covered⟩
    have found : ∀ first others, lengthOctets l = first :: others → b[pos]? = some first ∧ b.drop (pos + 1) = others ++ rest := by
      intro first others form
      rw [form] at text
      constructor
      · have at_head := congrArg head? text
        rwa [head?_drop] at at_head
      · rw [← drop_drop, text]
        rfl
    have sizes := congrArg List.length text
    rw [length_drop, length_append] at sizes
    by_cases short : l < 128
    · have form : lengthOctets l = [UInt8.ofNat l] := by rw [lengthOctets, if_pos short]
      have value : (UInt8.ofNat l).toNat = l := UInt8.toNat_ofNat_of_lt' (by show _ < 256; omega)
      have low : UInt8.ofNat l < 0x80 := by
        rw [UInt8.lt_iff_toNat_lt, value]
        exact short
      simp only [readLen, (found _ _ form).1, form, ok_iff]
      exact ⟨UInt8.ofNat l, rfl, by rw [if_pos low, value]; rfl⟩
    · obtain ⟨width, form⟩ := long_form (Nat.not_lt.mp short)
      obtain ⟨here, octets⟩ := found _ _ form.form
      obtain ⟨high, count⟩ := long_width width form.few
      have some_octet := form.some_octet
      have few := form.few
      have value : natural (bigEndian width l) = l := natural_big_endian (form.fits bounded)
      have size : (lengthOctets l).length = width + 1 := by rw [form.form, length_cons, big_endian_length]
      have taken : (b.drop (pos + 1)).take width = bigEndian width l := by
        rw [octets, take_append_of_le_length (by rw [big_endian_length]), take_of_length_le (by rw [big_endian_length])]
      have nonzero : (bigEndian width l).head? ≠ some 0x00 := by
        refine head_nonzero ?_
        rw [big_endian_length, value]
        exact form.needed
      simp only [readLen, here, ok_iff]
      refine ⟨_, rfl, ?_⟩
      simp only [if_neg high, count, taken, ok_iff, exists_const, Prod.mk.injEq]
      change _ ∧ _ ∧ ¬ natural _ < 128 ∧ ¬ natural _ > _ ∧ natural _ = l ∧ _
      rw [value]
      exact ⟨by omega, nonzero, short, by omega, rfl, by omega⟩

theorem drop_front {front : Bytes} (text : b.drop pos = front ++ rest) : b.drop (pos + front.length) = rest := by
  rw [← drop_drop, text, drop_left]

theorem length_octets_ne_nil (l : Nat) : lengthOctets l ≠ [] := by
  by_cases short : l < 128
  · simp [lengthOctets, short]
  · obtain ⟨width, form⟩ := long_form (Nat.not_lt.mp short)
    simp [form.form]

theorem read_content_ok_iff : readContent b pos = .ok (content, next) ↔
    b.drop pos = lengthOctets content.length ++ (content ++ b.drop next) ∧
      next = pos + (lengthOctets content.length).length + content.length ∧
      content.length < 2 ^ 32 := by
  simp only [readContent, ok_iff, Prod.exists, exists_const, Prod.mk.injEq]
  constructor
  · rintro ⟨l, start, length, within, rfl, rfl⟩
    obtain ⟨rest, text, rfl, bounded, -⟩ := read_len_ok_iff.mp length
    have after := drop_front text
    have sizes := congrArg List.length after
    have count : ((b.drop (pos + (lengthOctets l).length)).take l).length = l := by
      rw [length_take, length_drop]
      omega
    rw [count]
    refine ⟨?_, rfl, bounded⟩
    have beyond : b.drop (pos + (lengthOctets l).length + l) = rest.drop l := by rw [← after, drop_drop]
    rw [text, after, beyond, take_append_drop]
  · rintro ⟨text, rfl, bounded⟩
    have after := drop_front text
    have sizes := congrArg List.length text
    simp only [length_append, length_drop] at sizes
    have filled := length_pos_iff.mpr (length_octets_ne_nil content.length)
    refine ⟨content.length, pos + (lengthOctets content.length).length, ?_, by omega, ?_, rfl⟩
    · exact read_len_ok_iff.mpr ⟨_, text, rfl, bounded, fun _ => by simp⟩
    · rw [after, take_left]

structure Stands (b : Bytes) (pos : Nat) (tag : UInt8) (content : Bytes) (next : Nat) : Prop where
  text : b.drop pos = appendTLV [] tag content ++ b.drop next
  next_eq : next = pos + (appendTLV [] tag content).length
  bounded : content.length < 2 ^ 32

theorem stands_iff : b[pos]? = some tag ∧ readContent b (pos + 1) = .ok (content, next) ↔ Stands b pos tag content next := by
  rw [read_content_ok_iff]
  constructor
  · rintro ⟨here, text, rfl, bounded⟩
    obtain ⟨inside, rfl⟩ := List.getElem?_eq_some_iff.mp here
    refine ⟨?_, ?_, bounded⟩
    · rw [List.drop_eq_getElem_cons inside, text]
      simp [appendTLV]
    · simp only [appendTLV, nil_append, length_cons, length_append]
      omega
  · rintro ⟨text, rfl, bounded⟩
    have starts : b.drop pos = tag :: (lengthOctets content.length ++ (content ++ b.drop (pos + (appendTLV [] tag content).length))) := by
      rw [text]
      simp [appendTLV]
    refine ⟨?_, ?_, ?_, bounded⟩
    · have at_head := congrArg head? starts
      rwa [head?_drop] at at_head
    · rw [← drop_drop, starts]
      rfl
    · simp only [appendTLV, nil_append, length_cons, length_append]
      omega

inductive LabelOf : UInt8 → Bytes → Label → Prop where
  | int {content : Bytes} {value : Int32} (parsed : parseInt32 content = .ok value) : LabelOf tagInteger content (.int value)
  | str {tag : UInt8} {content : Bytes} (string : tag = tagUTF8String ∨ tag = tagPrintableString) : LabelOf tag content (.str content)

theorem read_label_ok_iff :
    readLabel b pos = .ok (label, next) ↔ ∃ tag content, Stands b pos tag content next ∧ LabelOf tag content label := by
  simp only [← stands_iff, readLabel, ok_iff]
  constructor
  · rintro ⟨tag, here, read⟩
    split at read
    · rename_i integer
      simp only [ok_iff, Prod.exists, Prod.mk.injEq] at read
      obtain ⟨content, stop, found, value, parsed, rfl, rfl⟩ := read
      exact ⟨tag, content, ⟨here, found⟩, integer ▸ .int parsed⟩
    · split at read
      · rename_i string
        simp only [ok_iff, Prod.exists, Prod.mk.injEq] at read
        obtain ⟨content, stop, found, rfl, rfl⟩ := read
        exact ⟨tag, content, ⟨here, found⟩, .str string⟩
      · cases read
  · rintro ⟨tag, content, ⟨here, found⟩, label_of⟩
    refine ⟨tag, here, ?_⟩
    cases label_of with
    | int parsed =>
      rw [if_pos rfl]
      simp only [ok_iff, Prod.exists, Prod.mk.injEq]
      exact ⟨content, next, found, _, parsed, rfl, rfl⟩
    | str string =>
      have other : tag ≠ tagInteger := by rcases string with rfl | rfl <;> decide
      rw [if_neg other, if_pos string]
      simp only [ok_iff, Prod.exists, Prod.mk.injEq]
      exact ⟨content, next, found, rfl, rfl⟩

def fields (tag : UInt8) (content data : Bytes) : Bytes := appendTLV (appendTLV [] tag content) tagOctetString data

theorem fields_eq (tag : UInt8) (content data : Bytes) :
    fields tag content data = appendTLV [] tag content ++ appendTLV [] tagOctetString data := by
  simp [fields, appendTLV]

theorem fields_stand (text : b.drop pos = fields tag content data) (bounded : (fields tag content data).length < 2 ^ 32) :
    ∃ middle, Stands b pos tag content middle ∧ Stands b middle tagOctetString data (pos + (fields tag content data).length) := by
  rw [fields_eq] at text bounded ⊢
  have after := drop_front text
  have ended : b.drop (pos + (appendTLV [] tag content ++ appendTLV [] tagOctetString data).length) = [] := by
    rw [← drop_drop, text, drop_length]
  refine ⟨pos + (appendTLV [] tag content).length, ⟨by rw [text, after], rfl, ?_⟩, ⟨by rw [after, ended, append_nil], ?_, ?_⟩⟩
  · simp only [appendTLV, nil_append, length_append, length_cons] at bounded
    omega
  · rw [length_append, Nat.add_assoc]
  · simp only [appendTLV, nil_append, length_append, length_cons] at bounded
    omega

theorem decode_identity_ok_iff : decodeIdentity b = .ok res ↔ ∃ tag content label,
    b = appendTLV [] tagSequence (fields tag content res.data) ∧ (fields tag content res.data).length < 2 ^ 32 ∧
      LabelOf tag content label ∧ res.label = legacyLabel label := by
  simp only [decodeIdentity, ok_iff, Prod.exists, exists_const]
  constructor
  · rintro ⟨head, seqLen, pos, length, within, exact_, label, middle, labelled, tag, here, rfl, data, next, read, ended, rfl⟩
    obtain ⟨field, content, first, label_of⟩ := read_label_ok_iff.mp labelled
    have second := stands_iff.mp ⟨here, read⟩
    obtain ⟨rest, text, rfl, bounded, -⟩ := read_len_ok_iff.mp length
    have after := drop_front text
    have whole : rest = fields field content data := by
      rw [fields_eq, ← after, first.text, second.text, ended, drop_length, append_nil]
    have sizes := congrArg List.length after
    rw [length_drop] at sizes
    have count : seqLen = (fields field content data).length := by
      rw [← whole]
      omega
    refine ⟨field, content, label, ?_, count ▸ bounded, label_of, rfl⟩
    cases b with
    | nil => cases head
    | cons octet b =>
      cases head
      rw [drop_succ_cons, drop_zero] at text
      rw [text, whole, count, appendTLV, nil_append]
  · rintro ⟨field, content, label, spelled, bounded, label_of, labelled⟩
    obtain ⟨resLabel, data⟩ := res
    obtain rfl : resLabel = legacyLabel label := labelled
    have starts : b = tagSequence :: (lengthOctets (fields field content data).length ++ fields field content data) := by
      rw [spelled, appendTLV, nil_append]
    have text : b.drop 1 = lengthOctets (fields field content data).length ++ fields field content data := by
      rw [starts, drop_succ_cons, drop_zero]
    have total : 1 + (lengthOctets (fields field content data).length).length + (fields field content data).length = b.length := by
      rw [starts, length_cons, length_append]
      omega
    have length : readLen b 1 = .ok ((fields field content data).length, 1 + (lengthOctets (fields field content data).length).length) :=
      read_len_ok_iff.mpr ⟨_, text, rfl, bounded, fun _ => le_rfl⟩
    obtain ⟨middle, first, second⟩ := fields_stand (drop_front text) bounded
    have read := stands_iff.mpr second
    refine ⟨by rw [starts]; rfl, _, _, length, by omega, by omega, label, middle, ?_, tagOctetString, read.1, rfl, data, _, read.2,
      total, rfl⟩
    exact read_label_ok_iff.mpr ⟨field, content, first, label_of⟩

theorem redundant_iff : Redundant b ↔ (b.length > 1 ∧ b[0]? = some 0x00 ∧ b[1]?.any (· &&& 0x80 = 0)) ∨
    (b.length > 1 ∧ b[0]? = some 0xFF ∧ b[1]?.any (· &&& 0x80 ≠ 0)) := by
  match b with
  | [] | [_] | first :: second :: rest => simp [Redundant]

theorem parse_int32_ok_iff {value : Int32} :
    parseInt32 b = .ok value ↔ b ≠ [] ∧ b.length ≤ 5 ∧ ¬ Redundant b ∧ signed b = value.toInt := by
  have first : b[0]? = b.head? := head?_eq_getElem?.symm
  have number : b.foldl (fun (v : Int) octet => v * 256 + octet.toNat) (if b[0]?.any (· &&& 0x80 ≠ 0) then -1 else 0) = signed b := by
    rw [first]
    rfl
  have least := value.le_toInt
  have most := value.toInt_lt
  simp only [parseInt32, ok_iff, exists_const, number, redundant_iff, ← length_pos_iff]
  constructor
  · rintro ⟨size, zeros, ones, range, rfl⟩
    rw [Int32.toInt_ofInt_of_le (by omega) (by omega)]
    exact ⟨by omega, by omega, not_or.mpr ⟨zeros, ones⟩, rfl⟩
  · rintro ⟨filled, few, needed, same⟩
    obtain ⟨zeros, ones⟩ := not_or.mp needed
    rw [same, Int32.ofInt_toInt]
    exact ⟨by omega, zeros, ones, by omega, rfl⟩

section DropFront

variable {redundant : UInt8 → UInt8 → Bool}

theorem drop_front_short (short : ∀ first second rest, octets = first :: second :: rest → False) :
    dropFront redundant octets = octets := by
  unfold dropFront
  split
  · exact absurd rfl (short _ _ _)
  · rfl

variable (redundant) in
theorem drop_front_cases (octets : Bytes) : dropFront redundant octets = octets ∨
    ∃ first second rest, redundant first second ∧ dropFront redundant octets = second :: rest := by
  induction octets using dropFront.induct redundant with
  | case1 first second rest drops ih =>
    rw [dropFront, if_pos drops]
    rcases ih with same | ⟨first', second', rest', drops', result⟩
    · exact .inr ⟨first, second, rest, drops, same⟩
    · exact .inr ⟨first', second', rest', drops', result⟩
  | case2 first second rest stays => exact .inl (by rw [dropFront, if_neg stays])
  | case3 octets short => exact .inl (drop_front_short short)

theorem drop_front_filled (filled : octets ≠ []) : dropFront redundant octets ≠ [] := by
  rcases drop_front_cases redundant octets with same | ⟨first, second, rest, -, result⟩
  · rwa [same]
  · rw [result]
    exact cons_ne_nil _ _

theorem drop_front_front {first second : UInt8} (result : dropFront redundant octets = first :: second :: rest) :
    ¬ redundant first second := by
  induction octets using dropFront.induct redundant with
  | case1 first' second' rest' drops ih =>
    rw [dropFront, if_pos drops] at result
    exact ih result
  | case2 first' second' rest' stays =>
    rw [dropFront, if_neg stays] at result
    cases result
    exact stays
  | case3 octets short =>
    rw [drop_front_short short] at result
    exact absurd result (short _ _ _)

theorem drop_front_signed (unneeded : ∀ first second rest, redundant first second → Redundant (first :: second :: rest))
    (octets : Bytes) :
    signed (dropFront redundant octets) = signed octets ∧ (dropFront redundant octets).length ≤ octets.length := by
  induction octets using dropFront.induct redundant with
  | case1 first second rest drops ih =>
    rw [dropFront, if_pos drops, signed_redundant (unneeded _ _ _ drops)]
    exact ⟨ih.1, ih.2.trans (Nat.le_succ _)⟩
  | case2 first second rest stays =>
    rw [dropFront, if_neg stays]
    exact ⟨rfl, le_rfl⟩
  | case3 octets short =>
    rw [drop_front_short short]
    exact ⟨rfl, le_rfl⟩

end DropFront

theorem shifted_octet (bits : UInt32) {shift : UInt32} {power : Nat} (shifted : 2 ^ (shift.toNat % 32) = power) :
    (bits >>> shift).toUInt8 = UInt8.ofNat (bits.toNat / power) := by
  apply UInt8.toNat_inj.mp
  rw [UInt32.toNat_toUInt8, UInt8.toNat_ofNat', UInt32.toNat_shiftRight, Nat.shiftRight_eq_div_pow, shifted]

theorem int32_octets (v : Int32) :
    [(v.toUInt32 >>> 24).toUInt8, (v.toUInt32 >>> 16).toUInt8, (v.toUInt32 >>> 8).toUInt8, v.toUInt32.toUInt8] =
      bigEndian 4 v.toUInt32.toNat := by
  have last : v.toUInt32.toUInt8 = UInt8.ofNat v.toUInt32.toNat := by
    apply UInt8.toNat_inj.mp
    rw [UInt32.toNat_toUInt8, UInt8.toNat_ofNat']
  rw [shifted_octet _ (show _ = 256 * 256 * 256 from rfl), shifted_octet _ (show _ = 256 * 256 from rfl),
    shifted_octet _ (show _ = 256 from rfl), last, ← Nat.div_div_eq_div_mul, ← Nat.div_div_eq_div_mul]
  rfl

theorem signed_int32 (v : Int32) : signed (bigEndian 4 v.toUInt32.toNat) = v.toInt := by
  have fits : v.toUInt32.toNat < 256 ^ 4 := v.toUInt32.toNat_lt
  have value : v.toInt = if 2 * v.toUInt32.toNat < 2 ^ 32 then (v.toUInt32.toNat : Int) else v.toUInt32.toNat - (2 ^ 32 : Nat) :=
    BitVec.toInt_eq_toNat_cond v.toUInt32.toBitVec
  have filled : bigEndian 4 v.toUInt32.toNat ≠ [] := ne_nil_of_length_eq_add_one (big_endian_length 4 _)
  simp only [signed_eq, negative_iff filled, natural_big_endian fits, big_endian_length, value]
  split <;> split <;> omega

theorem encode_int32 (v : Int32) :
    encodeInt32 v ≠ [] ∧ (encodeInt32 v).length ≤ 4 ∧ ¬ Redundant (encodeInt32 v) ∧ signed (encodeInt32 v) = v.toInt := by
  simp only [encodeInt32, int32_octets]
  have filled : bigEndian 4 v.toUInt32.toNat ≠ [] := ne_nil_of_length_eq_add_one (big_endian_length 4 _)
  obtain ⟨zeros, fewer⟩ := drop_front_signed (fun _ _ _ drops => .inl (of_decide_eq_true drops)) (bigEndian 4 v.toUInt32.toNat)
  obtain ⟨ones, fewest⟩ := drop_front_signed (fun _ _ _ drops => .inr (of_decide_eq_true drops))
    (dropFront zeroFront (bigEndian 4 v.toUInt32.toNat))
  refine ⟨drop_front_filled (drop_front_filled filled), fewest.trans fewer, ?_, ones.trans (zeros.trans (signed_int32 v))⟩
  intro redundant
  match result : dropFront onesFront (dropFront zeroFront (bigEndian 4 v.toUInt32.toNat)), redundant with
  | first :: second :: rest, .inr drops => exact drop_front_front result (decide_eq_true drops)
  | first :: second :: rest, .inl drops =>
    -- Once an octet of ones is dropped the next one has its top bit set.
    rcases drop_front_cases onesFront (dropFront zeroFront (bigEndian 4 v.toUInt32.toNat)) with
      same | ⟨before, next, rest', ones, result'⟩
    · exact drop_front_front (same.symm.trans result) (decide_eq_true drops)
    · obtain ⟨rfl, -⟩ := cons.inj (result.symm.trans result')
      rw [drops.1] at ones
      exact absurd ones (by simp [onesFront])

def typeTag (b : Bytes) : Option UInt8 :=
  match readLen b 1 with
  | .ok (_, pos) => b[pos]?
  | .error _ => none

theorem type_tag_fields (bounded : (fields tag content data).length < 2 ^ 32) :
    typeTag (appendTLV [] tagSequence (fields tag content data)) = some tag := by
  have length : readLen (appendTLV [] tagSequence (fields tag content data)) 1 =
      .ok ((fields tag content data).length, 1 + (lengthOctets (fields tag content data).length).length) :=
    read_len_ok_iff.mpr ⟨_, rfl, rfl, bounded, fun _ => le_rfl⟩
  simp only [typeTag, length, ← head?_drop, ← drop_drop]
  simp [appendTLV, fields]

theorem length_octets_length (l : Nat) : (lengthOctets l).length ≤ 5 ∧ (2 ^ 32 ≤ l → (lengthOctets l).length = 5) := by
  unfold lengthOctets
  split_ifs <;> simp <;> omega

theorem encode_identity_eq (t : Int32) (data : Bytes) :
    encodeIdentity t data = appendTLV [] tagSequence (fields tagInteger (encodeInt32 t) data) := rfl

theorem parse_encoded (t : Int32) : parseInt32 (encodeInt32 t) = .ok t := by
  obtain ⟨filled, few, needed, value⟩ := encode_int32 t
  exact parse_int32_ok_iff.mpr ⟨filled, by omega, needed, value⟩

theorem parsed_is_encoded (parsed : parseInt32 content = .ok t) : content = encodeInt32 t := by
  obtain ⟨filled, -, needed, value⟩ := parse_int32_ok_iff.mp parsed
  obtain ⟨filled', -, needed', value'⟩ := encode_int32 t
  exact signed_unique filled filled' needed needed' (value.trans value'.symm)

theorem accepted_length (accepted : decodeIdentity b = .ok res) : b.length < 2 ^ 32 + 6 := by
  obtain ⟨tag, content, label, rfl, bounded, -⟩ := decode_identity_ok_iff.mp accepted
  have short := (length_octets_length (fields tag content res.data).length).1
  rw [appendTLV, nil_append, length_cons, length_append]
  omega

theorem encoded_length (large : 2 ^ 32 ≤ (fields tagInteger (encodeInt32 t) data).length) :
    2 ^ 32 + 6 ≤ (encodeIdentity t data).length := by
  have long := (length_octets_length _).2 large
  rw [encode_identity_eq, appendTLV, nil_append, length_cons, length_append]
  omega

theorem decode_encoded_iff (t : Int32) (data : Bytes) :
    decodeIdentity (encodeIdentity t data) = .ok { label := .int t, data } ↔
      (fields tagInteger (encodeInt32 t) data).length < 2 ^ 32 := by
  constructor
  · intro accepted
    by_contra large
    have total := accepted_length accepted
    have least := encoded_length (Nat.not_lt.mp large)
    omega
  · intro bounded
    exact decode_identity_ok_iff.mpr ⟨_, _, _, encode_identity_eq t data, bounded, .int (parse_encoded t), rfl⟩

theorem integer_form (accepted : decodeIdentity b = .ok res) (integer : typeTag b = some tagInteger) :
    ∃ t, res.label = .int t ∧ encodeIdentity t res.data = b := by
  obtain ⟨tag, content, label, rfl, bounded, label_of, labelled⟩ := decode_identity_ok_iff.mp accepted
  rw [type_tag_fields bounded] at integer
  cases label_of with
  | int parsed => exact ⟨_, labelled, by rw [encode_identity_eq, ← parsed_is_encoded parsed]⟩
  | str string => exact absurd integer (by rcases string with rfl | rfl <;> decide)

theorem integer_identities_canonical :
    (∀ (t : Int32) (d : Bytes), decodeIdentity (encodeIdentity t d) = .ok { label := .int t, data := d } ↔
      (fields tagInteger (encodeInt32 t) d).length < 2 ^ 32) ∧
    (∀ (b : Bytes) (res : Result), decodeIdentity b = .ok res → typeTag b = some tagInteger →
      ∃ t, res.label = .int t ∧ encodeIdentity t res.data = b) ∧
    ∀ (b b' : Bytes) (res : Result), decodeIdentity b = .ok res → decodeIdentity b' = .ok res →
      typeTag b = some tagInteger → typeTag b' = some tagInteger → b = b' := by
  refine ⟨decode_encoded_iff, fun _ _ => integer_form, fun b b' res accepted accepted' integer integer' => ?_⟩
  obtain ⟨t, labelled, encoded⟩ := integer_form accepted integer
  obtain ⟨t', labelled', encoded'⟩ := integer_form accepted' integer'
  obtain rfl : t = t' := Label.int.inj (labelled.symm.trans labelled')
  exact encoded.symm.trans encoded'

theorem x509_identity_canonical : encodeIdentity x509IdentityType [0x50] = [0x30, 0x06, 0x02, 0x01, 0x02, 0x04, 0x01, 0x50] ∧
    decodeIdentity (encodeIdentity x509IdentityType [0x50]) = .ok { label := .int x509IdentityType, data := [0x50] } :=
  ⟨by decide, (integer_identities_canonical.1 x509IdentityType [0x50]).mpr (by decide)⟩

def oversizedData : Bytes := List.replicate (2 ^ 32) 0

-- The length of the data is cut to its four low octets.
theorem oversized_data_unreadable : ¬ ∃ res, decodeIdentity (encodeIdentity x509IdentityType oversizedData) = .ok res := by
  rintro ⟨res, accepted⟩
  have total := accepted_length accepted
  have size : oversizedData.length = 2 ^ 32 := length_replicate
  have large : 2 ^ 32 ≤ (fields tagInteger (encodeInt32 x509IdentityType) oversizedData).length := by
    rw [fields, appendTLV, length_append, length_cons, length_append]
    omega
  have least := encoded_length large
  omega

def legacyName : Label → Bytes
  | .int value =>
    if value = x509IdentityType then ascii "x509"
    else if value = idemixIdentityType then ascii "idemix"
    else if value = idemixNymIdentityType then ascii "idemixnym"
    else if value = multiSigIdentityType then ascii "multisig"
    else ascii "htlc"
  | .str name => name

theorem legacy_name (name : Bytes) : legacyName (legacyLabel (.str name)) = name := by
  rw [legacyLabel]
  split_ifs with x509 idemix nym multisig htlc
  · exact x509.symm
  · exact idemix.symm
  · exact nym.symm
  · exact multisig.symm
  · exact htlc.symm
  · rfl

theorem label_spelled_once {content' : Bytes} {label' : Label} (spelled : LabelOf tag content label)
    (spelled' : LabelOf tag content' label') (same : legacyLabel label = legacyLabel label') : content = content' := by
  cases spelled with
  | int parsed =>
    cases spelled' with
    | int parsed' =>
      obtain rfl := Label.int.inj same
      rw [parsed_is_encoded parsed, parsed_is_encoded parsed']
    | str string => exact absurd string (by decide)
  | str string =>
    cases spelled' with
    | int parsed' => exact absurd string (by decide)
    | str string' => rw [← legacy_name content, same, legacy_name]

theorem identity_spelled_per_tag (b1 b2 : Bytes) (res : Result) (accepted1 : decodeIdentity b1 = .ok res)
    (accepted2 : decodeIdentity b2 = .ok res) :
    (b1 = b2 ↔ typeTag b1 = typeTag b2) ∧ ∀ tag ∈ typeTag b1, tag = tagInteger ∨ tag = tagUTF8String ∨ tag = tagPrintableString := by
  obtain ⟨tag1, content1, label1, rfl, bounded1, spelled1, labelled1⟩ := decode_identity_ok_iff.mp accepted1
  obtain ⟨tag2, content2, label2, rfl, bounded2, spelled2, labelled2⟩ := decode_identity_ok_iff.mp accepted2
  refine ⟨⟨congrArg typeTag, fun same => ?_⟩, fun tag here => ?_⟩
  · rw [type_tag_fields bounded1, type_tag_fields bounded2, Option.some.injEq] at same
    subst same
    rw [label_spelled_once spelled1 spelled2 (labelled1.symm.trans labelled2)]
  · rw [type_tag_fields bounded1, Option.mem_some_iff] at here
    subst here
    cases spelled1 with
    | int parsed => exact .inl rfl
    | str string => exact .inr string

namespace ThreeSpellings

def number : Bytes := [0x30, 0x06, 0x02, 0x01, 0x02, 0x04, 0x01, 0x50]
def utf8Name : Bytes := [0x30, 0x09, 0x0C, 0x04, 0x78, 0x35, 0x30, 0x39, 0x04, 0x01, 0x50]
def printableName : Bytes := [0x30, 0x09, 0x13, 0x04, 0x78, 0x35, 0x30, 0x39, 0x04, 0x01, 0x50]

def x509 : Result := { label := .int x509IdentityType, data := [0x50] }

theorem names_and_number_read_alike : decodeIdentity number = .ok x509 ∧ decodeIdentity utf8Name = .ok x509 ∧
    decodeIdentity printableName = .ok x509 ∧ number ≠ utf8Name ∧ number ≠ printableName ∧ utf8Name ≠ printableName := by
  decide

theorem number_and_name_tagged_apart : decodeIdentity number = .ok x509 ∧ decodeIdentity utf8Name = .ok x509 ∧
    typeTag number ≠ typeTag utf8Name :=
  ⟨by decide, by decide, fun same => absurd ((identity_spelled_per_tag number utf8Name x509 (by decide) (by decide)).1.mpr same)
    (by decide)⟩

end ThreeSpellings

end Panurus.Identity
