import Panurus.Evm.Abi

namespace Panurus.Evm.Abi

open Lib Lib.Abi FixedWidth Outcome Value

inductive Failure where
  | panic (text : String)
  | error (text : String)
deriving DecidableEq, Repr

abbrev Decoded (α : Type) := Except Failure α

def wrapped (n : Int) : Int := (n + 2 ^ 63) % 2 ^ 64 - 2 ^ 63

def maxInt : Nat := 2 ^ 63 - 1

-- A slice expression. What stands behind the length of the data is never read.
def slice (data : Bytes) (low high : Int) : Decoded Bytes := do
  ensure (0 ≤ low ∧ low ≤ high ∧ high ≤ data.length) (.panic "slice bounds out of range")
  return (data.drop low.toNat).take (high - low).toNat

section Decoders

-- The number of elements the runtime can still allocate.
variable (limit : Nat)

def makeSlice (length : Int) : Decoded Unit := ensure (0 ≤ length ∧ length ≤ limit) (.panic "makeslice: len out of range")

def readWordAsLength (word : Bytes) (what : String) : Decoded Int := do
  ensure (¬ word.length < wordLength) (.error s!"abi: {what} word too short: {word.length} bytes")
  let high ← slice word 0 24
  ensure (high.all (· = 0)) (.error s!"abi: {what} word too large to be a valid length")
  let low ← slice word 24 32
  let v := ofBigEndian low
  ensure (¬ v > maxInt) (.error s!"abi: {what} {v} exceeds max int")
  return (v : Int)

def decodeBytes (ret : Bytes) : Decoded Bytes := do
  ensure (¬ ret.length < wordLength) (.error s!"abi: bytes return too short for offset word: {ret.length} bytes")
  let word ← slice ret 0 32
  let offset ← readWordAsLength word "offset"
  ensure (¬ offset > wrapped (ret.length - 32)) (.error s!"abi: bytes offset {offset} out of bounds (len {ret.length})")
  let lengthWord ← slice ret offset (wrapped (offset + 32))
  let length ← readWordAsLength lengthWord "length"
  let dataStart := wrapped (offset + 32)
  ensure (¬ length > wrapped (ret.length - dataStart))
    (.error s!"abi: bytes length {length} out of bounds (offset {offset}, len {ret.length})")
  makeSlice limit length
  slice ret dataStart (wrapped (dataStart + length))

def decodeUint64 (ret : Bytes) : Decoded UInt64 := do
  ensure (¬ ret.length < wordLength) (.error s!"abi: uint64 return too short: {ret.length} bytes")
  let high ← slice ret 0 24
  ensure (high.all (· = 0)) (.error "abi: value does not fit in uint64 (high bytes set)")
  let low ← slice ret 24 32
  return UInt64.ofNat (ofBigEndian low)

def boolAt (body : Bytes) (i : Nat) : Decoded Bool := do
  let word ← slice body (wrapped (i * 32)) (wrapped (wrapped (i + 1) * 32))
  return word.any (· ≠ 0)

def decodeBoolArray (ret : Bytes) : Decoded (List Bool) := do
  ensure (¬ ret.length < wordLength) (.error s!"abi: bool array return too short for offset word: {ret.length} bytes")
  let word ← slice ret 0 32
  let offset ← readWordAsLength word "offset"
  ensure (¬ offset > wrapped (ret.length - 32)) (.error s!"abi: bool array offset {offset} out of bounds (len {ret.length})")
  let lengthWord ← slice ret offset (wrapped (offset + 32))
  let length ← readWordAsLength lengthWord "length"
  let body ← slice ret (wrapped (offset + 32)) ret.length
  ensure (¬ length > body.length / 32)
    (.error s!"abi: bool array length {length} exceeds the {body.length / 32} available words")
  makeSlice limit length
  (List.range length.toNat).mapM (boolAt body)

end Decoders

variable {data : Bytes} {low high : Int} {i : Nat} {bools : List Bool}

section Reading

theorem slice_ok_iff {data part : Bytes} {low high : Int} : slice data low high = .ok part ↔
    (0 ≤ low ∧ low ≤ high ∧ high ≤ data.length) ∧ (data.drop low.toNat).take (high - low).toNat = part := by
  simp only [slice, ok_iff, exists_const]

theorem slice_length {part : Bytes} (cut : slice data low high = .ok part) : (part.length : Int) = high - low := by
  obtain ⟨⟨least, order, most⟩, rfl⟩ := slice_ok_iff.mp cut
  rw [List.length_take, List.length_drop]
  omega

variable {n : Int}

theorem wrapped_eq (least : -2 ^ 63 ≤ n) (most : n < 2 ^ 63) : wrapped n = n := by
  rw [wrapped]
  omega

theorem bool_at_ok {body : Bytes} (inside : (i + 1) * 32 ≤ body.length) (possible : body.length < maxSliceLength) :
    boolAt body i = .ok (((body.drop (i * 32)).take 32).any (· ≠ 0)) := by
  rw [maxSliceLength] at possible
  have low : wrapped (i * 32) = i * 32 := wrapped_eq (by omega) (by omega)
  have next : wrapped (i + 1) = i + 1 := wrapped_eq (by omega) (by omega)
  have high : wrapped ((i + 1) * 32) = (i + 1) * 32 := wrapped_eq (by omega) (by omega)
  have start : ((i : Int) * 32).toNat = i * 32 := by omega
  have width : (((i : Int) + 1) * 32 - i * 32).toNat = 32 := by omega
  have cut := @slice_ok_iff body _ (i * 32) ((i + 1) * 32) |>.mpr ⟨by omega, rfl⟩
  rw [width] at cut
  rw [boolAt, low, next, high, cut]
  rfl

theorem read_word_ok {word : Bytes} {what : String} (read : readWordAsLength word what = .ok n) : 0 ≤ n ∧ n < 2 ^ 63 := by
  simp only [readWordAsLength, ok_iff] at read
  obtain ⟨_, -, _, -, _, -, low, -, _, most, rfl⟩ := read
  rw [maxInt] at most
  omega

end Reading

section Safe

def NoPanic {α : Type} (decoded : Decoded α) : Prop := ∀ text, decoded ≠ .error (.panic text)

variable {α β : Type} {condition : Prop}

theorem no_panic_ok (value : α) : NoPanic (.ok value) := fun _ same => by cases same

theorem no_panic_bind {decoded : Decoded α} {next : α → Decoded β} (first : NoPanic decoded)
    (later : ∀ value, decoded = .ok value → NoPanic (next value)) : NoPanic (decoded >>= next) := by
  intro text failed
  rcases bind_error_iff.mp failed with early | ⟨value, done, late⟩
  · exact first text early
  · exact later value done text late

theorem no_panic_check [Decidable condition] (text : String) : NoPanic (ensure condition (Failure.error text)) := by
  intro other failed
  cases ensure_error failed

theorem no_panic_then [Decidable condition] {text : String} {next : Decoded β}
    (later : condition → NoPanic next) : NoPanic (ensure condition (Failure.error text) >>= fun _ => next) :=
  no_panic_bind (no_panic_check text) fun _ passed => later (ensure_ok_iff.mp passed)

theorem slice_no_panic (within : 0 ≤ low ∧ low ≤ high ∧ high ≤ data.length) : NoPanic (slice data low high) := by
  have cut := slice_ok_iff.mpr ⟨within, rfl⟩
  rw [cut]
  exact no_panic_ok _

theorem make_slice_no_panic {limit : Nat} {length : Int} (within : 0 ≤ length ∧ length ≤ limit) :
    NoPanic (makeSlice limit length) := by
  rw [makeSlice, ensure, if_pos within]
  exact no_panic_ok _

theorem mapM_no_panic {step : α → Decoded β} {items : List α} (each : ∀ item ∈ items, NoPanic (step item)) :
    NoPanic (items.mapM step) := by
  induction items with
  | nil => exact no_panic_ok []
  | cons item items ih =>
    obtain ⟨first, others⟩ := List.forall_mem_cons.mp each
    rw [List.mapM_cons]
    exact no_panic_bind first fun _ _ => no_panic_bind (ih others) fun _ _ => no_panic_ok _

theorem read_word_no_panic (word : Bytes) (what : String) : NoPanic (readWordAsLength word what) := by
  refine no_panic_then fun long => ?_
  rw [wordLength] at long
  refine no_panic_bind (slice_no_panic (by omega)) fun high _ => no_panic_then fun _ => ?_
  exact no_panic_bind (slice_no_panic (by omega)) fun low _ => no_panic_then fun _ => no_panic_ok _

theorem decode_uint64_no_panic (ret : Bytes) : NoPanic (decodeUint64 ret) := by
  refine no_panic_then fun long => ?_
  rw [wordLength] at long
  refine no_panic_bind (slice_no_panic (by omega)) fun high _ => no_panic_then fun _ => ?_
  exact no_panic_bind (slice_no_panic (by omega)) fun low _ => no_panic_ok _

variable {ret : Bytes} {limit : Nat} (possible : ret.length < maxSliceLength)

include possible

theorem decode_bytes_no_panic (enough : ret.length - wordLength ≤ limit) : NoPanic (decodeBytes limit ret) := by
  rw [wordLength] at enough
  rw [maxSliceLength] at possible
  refine no_panic_then fun long => ?_
  rw [wordLength] at long
  refine no_panic_bind (slice_no_panic (by omega)) fun word _ => no_panic_bind (read_word_no_panic _ _) fun offset found => ?_
  obtain ⟨least, most⟩ := read_word_ok found
  refine no_panic_then fun inside => ?_
  simp only [wrapped] at inside ⊢
  refine no_panic_bind (slice_no_panic (by omega)) fun word' _ => no_panic_bind (read_word_no_panic _ _) fun length found' => ?_
  obtain ⟨least', most'⟩ := read_word_ok found'
  refine no_panic_then fun inside' => no_panic_bind (make_slice_no_panic (by omega)) fun _ _ => slice_no_panic (by omega)

theorem decode_bool_array_no_panic (enough : ret.length / wordLength ≤ limit) : NoPanic (decodeBoolArray limit ret) := by
  rw [wordLength] at enough
  rw [maxSliceLength] at possible
  refine no_panic_then fun long => ?_
  rw [wordLength] at long
  refine no_panic_bind (slice_no_panic (by omega)) fun word _ => no_panic_bind (read_word_no_panic _ _) fun offset found => ?_
  obtain ⟨least, most⟩ := read_word_ok found
  refine no_panic_then fun inside => ?_
  simp only [wrapped] at inside ⊢
  refine no_panic_bind (slice_no_panic (by omega)) fun word' _ => no_panic_bind (read_word_no_panic _ _) fun length found' => ?_
  obtain ⟨least', most'⟩ := read_word_ok found'
  refine no_panic_bind (slice_no_panic (by omega)) fun body cut => no_panic_then fun inside' => ?_
  have size := slice_length cut
  refine no_panic_bind (make_slice_no_panic (by omega)) fun _ _ => mapM_no_panic fun i mem => ?_
  have below := List.mem_range.mp mem
  rw [bool_at_ok (by omega) (by rw [maxSliceLength]; omega)]
  exact no_panic_ok _

end Safe

section Exact

theorem slice_middle (front middle back : Bytes) {low high : Int} (starts : low = front.length)
    (ends : high = front.length + middle.length) : slice (front ++ (middle ++ back)) low high = .ok middle := by
  refine slice_ok_iff.mpr ⟨⟨by omega, by omega, by simp only [List.length_append]; omega⟩, ?_⟩
  have start : low.toNat = front.length := by omega
  have width : (high - low).toNat = middle.length := by omega
  rw [start, width, List.drop_left, List.take_left]

theorem length_word_halves (n : Nat) : slice (lengthWord n) 0 24 = .ok (List.replicate 24 0) ∧
    slice (lengthWord n) 24 32 = .ok (bigEndian 8 n) := by
  constructor
  · exact slice_middle [] (List.replicate 24 0) (bigEndian 8 n) rfl (by simp)
  · have cut := @slice_middle (List.replicate 24 0) (bigEndian 8 n) [] 24 32 (by simp) (by simp)
    rwa [List.append_nil] at cut

theorem read_length_word_ok {n : Nat} (small : n < maxSliceLength) (what : String) :
    readWordAsLength (lengthWord n) what = .ok (n : Int) := by
  obtain ⟨zeros, number⟩ := length_word_halves n
  have value : ofBigEndian (bigEndian 8 n) = n := of_big_endian (by rw [maxSliceLength] at small; norm_num; omega)
  have size := length_word_length n
  simp only [readWordAsLength, ok_iff]
  refine ⟨(), by rw [size]; omega, _, zeros, (), ?_, _, number, (), ?_, ?_⟩
  · rfl
  · rw [value, maxInt]
    rw [maxSliceLength] at small
    omega
  · rw [value]

theorem encode_single {value : Value} (dynamic : value.isDynamic = true) :
    encodeValues [value] = lengthWord 32 ++ value.encode := by
  rw [encodeValues, assemble_eq, parts_eq]
  simp [layout, heads, headSizes, tails, part, Part.headSize, Part.tail, dynamic, wordLength]

theorem decode_bytes_exact {content : Bytes} {limit : Nat} (possible : (encodeValues [.bytes content]).length < maxSliceLength)
    (enough : content.length ≤ limit) : decodeBytes limit (encodeValues [.bytes content]) = .ok content := by
  rw [encode_single rfl, encode, List.append_assoc] at possible ⊢
  generalize List.replicate ((wordLength - content.length % wordLength) % wordLength) (0 : UInt8) = padding at possible ⊢
  have size : ∀ n, (lengthWord n).length = 32 := length_word_length
  have total : (lengthWord 32 ++ (lengthWord content.length ++ (content ++ padding))).length =
      64 + content.length + padding.length := by
    simp only [List.length_append, size]
    omega
  rw [maxSliceLength] at possible
  have offset := @slice_middle [] (lengthWord 32) (lengthWord content.length ++ (content ++ padding)) 0 32 rfl (by simp [size])
  have length := @slice_middle (lengthWord 32) (lengthWord content.length) (content ++ padding) 32 64 (by simp [size]) (by simp [size])
  have body := @slice_middle (lengthWord 32 ++ lengthWord content.length) content padding 64 (64 + content.length)
    (by simp [size]) (by simp [size])
  have next : wrapped ((32 : Nat) + 32) = 64 := by decide
  have last : wrapped (64 + content.length) = 64 + content.length := wrapped_eq (by omega) (by omega)
  simp only [decodeBytes, ok_iff, total]
  refine ⟨(), by rw [wordLength]; omega, _, offset, _, read_length_word_ok (by decide) "offset", (), ?_,
    lengthWord content.length, ?_, _, read_length_word_ok (by rw [maxSliceLength]; omega) "length", (), ?_, (), ?_, ?_⟩
  · simp only [wrapped]
    omega
  · rw [next]
    exact length
  · rw [next]
    simp only [wrapped]
    omega
  · rw [makeSlice, ensure_ok_iff]
    omega
  · rw [next, last]
    exact body

theorem decode_uint64_exact (x : UInt64) : decodeUint64 (encodeValues [.uint64 x]) = .ok x := by
  have single : encodeValues [.uint64 x] = lengthWord x.toNat := by
    rw [encodeValues, assemble_eq, parts_eq]
    simp [layout, heads, tails, part, Part.tail, uint64, isDynamic, encode, uint64_word]
  obtain ⟨zeros, number⟩ := length_word_halves x.toNat
  have value : ofBigEndian (bigEndian 8 x.toNat) = x.toNat := of_big_endian (by simpa using x.toNat_lt)
  have size := length_word_length x.toNat
  rw [single]
  simp only [decodeUint64, ok_iff]
  refine ⟨(), by rw [size]; omega, _, zeros, (), rfl, _, number, ?_⟩
  rw [value, UInt64.ofNat_toNat]

def boolWords (bools : List Bool) : Bytes := bools.flatMap fun b => (bool b).encode

theorem bool_word_length (b : Bool) : (bool b).encode.length = 32 := bytes32_length _

theorem bool_word_any (b : Bool) : (bool b).encode.any (· ≠ 0) = b := by
  cases b <;> decide +kernel

theorem bool_words_cons (b : Bool) (bools : List Bool) : boolWords (b :: bools) = (bool b).encode ++ boolWords bools :=
  List.flatMap_cons

theorem bool_words_append (front back : List Bool) : boolWords (front ++ back) = boolWords front ++ boolWords back :=
  List.flatMap_append

theorem bool_words_length (bools : List Bool) : (boolWords bools).length = bools.length * 32 := by
  induction bools with
  | nil => rfl
  | cons b bools ih =>
    rw [bool_words_cons, List.length_append, bool_word_length, List.length_cons]
    omega

theorem bool_words_at (inside : i < bools.length) : ((boolWords bools).drop (i * 32)).take 32 = (bool bools[i]).encode := by
  have split : bools = bools.take i ++ bools[i] :: bools.drop (i + 1) := by
    rw [List.getElem_cons_drop, List.take_append_drop]
  have before : (boolWords (bools.take i)).length = i * 32 := by
    rw [bool_words_length, List.length_take, Nat.min_eq_left inside.le]
  conv_lhs => rw [split]
  rw [bool_words_append, List.drop_left' before, bool_words_cons, List.take_left' (bool_word_length _)]

theorem encode_bools (bools : List Bool) : (array (bools.map bool)).encode = lengthWord bools.length ++ boolWords bools := by
  have static : ∀ offset, heads offset ((bools.map bool).map part) = boolWords bools ∧
      tails ((bools.map bool).map part) = [] := by
    induction bools with
    | nil => exact fun _ => ⟨rfl, rfl⟩
    | cons b bools ih =>
      intro offset
      obtain ⟨first, last⟩ := ih offset
      have word : (bool b).part = ⟨false, (bool b).encode⟩ := by
        rfl
      simp only [List.map_cons, bool_words_cons, heads, tails, word, Part.tail, Bool.false_eq_true, if_false,
        List.length_nil, Nat.add_zero, List.append_cancel_left_eq]
      exact ⟨first, last⟩
  obtain ⟨first, last⟩ := static (headSizes ((bools.map bool).map part))
  rw [encode, assemble_eq, parts_eq, layout, first, last, List.append_nil, List.length_map]

theorem decode_bool_array_exact {limit : Nat} (possible : (encodeValues [.array (bools.map bool)]).length < maxSliceLength)
    (enough : bools.length ≤ limit) : decodeBoolArray limit (encodeValues [.array (bools.map bool)]) = .ok bools := by
  rw [encode_single rfl, encode_bools] at possible ⊢
  have size : ∀ n, (lengthWord n).length = 32 := length_word_length
  have words := bool_words_length bools
  have total : (lengthWord 32 ++ (lengthWord bools.length ++ boolWords bools)).length = 64 + bools.length * 32 := by
    simp only [List.length_append, size, words]
    omega
  rw [maxSliceLength] at possible
  have offset := @slice_middle [] (lengthWord 32) (lengthWord bools.length ++ boolWords bools) 0 32 rfl (by simp [size])
  have length := @slice_middle (lengthWord 32) (lengthWord bools.length) (boolWords bools) 32 64 (by simp [size])
    (by simp [size])
  have body := @slice_middle (lengthWord 32 ++ lengthWord bools.length) (boolWords bools) [] 64
    ((64 + bools.length * 32 : Nat) : Int) (by simp [size]) (by rw [List.length_append, size, size, words]; omega)
  rw [List.append_nil] at body
  have next : wrapped ((32 : Nat) + 32) = 64 := by decide
  have all : (List.range bools.length).mapM (boolAt (boolWords bools)) = .ok bools := by
    rw [mapM_ok_iff, List.forall₂_iff_get]
    refine ⟨by simp, fun i bound bound' => ?_⟩
    simp only [List.get_eq_getElem, List.getElem_range]
    rw [bool_at_ok (by omega) (by rw [words, maxSliceLength]; omega), bool_words_at bound', bool_word_any]
  simp only [decodeBoolArray, ok_iff, total]
  refine ⟨(), by rw [wordLength]; omega, _, offset, _, read_length_word_ok (by decide) "offset", (), ?_,
    lengthWord bools.length, ?_, _, read_length_word_ok (by rw [maxSliceLength]; omega) "length",
    boolWords bools, ?_, (), ?_, (), ?_, ?_⟩
  · simp only [wrapped]
    omega
  · rw [next]
    exact length
  · rw [next]
    exact body
  · rw [words]
    omega
  · rw [makeSlice, ensure_ok_iff]
    omega
  · rw [Int.toNat_natCast]
    exact all

end Exact

-- No decoder reads outside its input. DecodeUint64 allocates nothing; with a limit of as many elements as the input has
-- words DecodeBoolArray is never refused, nor DecodeBytes with one of as many as the input has bytes after its first word.
theorem abi_decoding_safe_and_exact :
    (∀ (ret : Bytes) (limit : Nat), ret.length < maxSliceLength →
      NoPanic (decodeUint64 ret) ∧ (ret.length / wordLength ≤ limit → NoPanic (decodeBoolArray limit ret)) ∧
      (ret.length - wordLength ≤ limit → NoPanic (decodeBytes limit ret))) ∧
    (∀ (content : Bytes) (limit : Nat), (encodeValues [.bytes content]).length < maxSliceLength → content.length ≤ limit →
      decodeBytes limit (encodeValues [.bytes content]) = .ok content) ∧
    (∀ (bools : List Bool) (limit : Nat), (encodeValues [.array (bools.map bool)]).length < maxSliceLength →
      bools.length ≤ limit → decodeBoolArray limit (encodeValues [.array (bools.map bool)]) = .ok bools) ∧
    ∀ x : UInt64, decodeUint64 (encodeValues [.uint64 x]) = .ok x := by
  refine ⟨fun ret limit possible => ?_, fun _ _ => decode_bytes_exact, fun _ _ => decode_bool_array_exact, decode_uint64_exact⟩
  exact ⟨decode_uint64_no_panic ret, decode_bool_array_no_panic possible, decode_bytes_no_panic possible⟩

-- A length of 2^63 - 1 in two words asks for nothing; two elements are decoded with room for two.
theorem hostile_results_fail : NoPanic (decodeBoolArray 2 (lengthWord 32 ++ lengthWord (2 ^ 63 - 1))) ∧
    decodeBoolArray 2 (encodeValues [.array [.bool true, .bool false]]) = .ok [true, false] :=
  ⟨(abi_decoding_safe_and_exact.1 _ 2 (by decide +kernel)).2.1 (by decide +kernel),
    abi_decoding_safe_and_exact.2.2.1 [true, false] 2 (by decide +kernel) (by decide)⟩

-- Three words hold 32 bytes, and DecodeBytes allocates them: more elements than there are words.
theorem more_bytes_than_words :
    let ret := encodeValues [.bytes (List.replicate 32 7)]
    ret.length / wordLength = 3 ∧ decodeBytes 3 ret = .error (.panic "makeslice: len out of range") ∧
      decodeBytes 31 ret = .error (.panic "makeslice: len out of range") ∧ decodeBytes 32 ret = .ok (List.replicate 32 7) := by
  decide +kernel

end Panurus.Evm.Abi
