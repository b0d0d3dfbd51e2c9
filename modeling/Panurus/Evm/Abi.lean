import Panurus.Evm.TokenState
import Panurus.Lib.Abi

namespace Panurus.Evm.Abi

open Lib Lib.Abi FixedWidth Text

inductive Value where
  | word (octets : Bytes32)
  | bytes (octets : Bytes)
  | array (elems : List Value)
  | tuple (fields : List Value)

namespace Value

def uint64 (x : UInt64) : Value := .word (BitVec.ofNat 256 x.toNat)
def bool (b : Bool) : Value := .word (if b then 1 else 0)
def bytes32Array (items : List Bytes32) : Value := .array (items.map .word)
def bytesArray (items : List Bytes) : Value := .array (items.map .bytes)

mutual

def isDynamic : Value → Bool
  | .word _ => false
  | .bytes _ | .array _ => true
  | .tuple fields => anyDynamic fields

def anyDynamic : List Value → Bool
  | [] => false
  | field :: rest => field.isDynamic || anyDynamic rest

end

end Value

-- The two loops that lay out a sequence: the first adds up the head, the second appends to head and tail.
def headSizeOf (parts : List Part) : Nat :=
  parts.foldl (fun size part => if part.dynamic then size + wordLength else size + part.octets.length) 0

def assemble (parts : List Part) : Bytes :=
  let headSize := headSizeOf parts
  let written := parts.foldl (fun (written : Bytes × Bytes) part =>
    if part.dynamic then (written.1 ++ lengthWord (headSize + written.2.length), written.2 ++ part.octets)
    else (written.1 ++ part.octets, written.2)) ([], [])
  written.1 ++ written.2

namespace Value

mutual

def encode : Value → Bytes
  | .word octets => bytes32 octets
  | .bytes octets =>
    lengthWord octets.length ++ octets ++ List.replicate ((wordLength - octets.length % wordLength) % wordLength) 0
  | .array elems => lengthWord elems.length ++ assemble (parts elems)
  | .tuple fields => assemble (parts fields)

def parts : List Value → List Part
  | [] => []
  | value :: rest => ⟨value.isDynamic, value.encode⟩ :: parts rest

end

end Value

open Value

def encodeValues (values : List Value) : Bytes := assemble (parts values)

def selectorLength : Nat := 4

section Call

variable (keccak256 : Hash)

def methodID (signature : String) : Bytes := (bytes32 (keccak256 (ascii signature))).take selectorLength

def encodeCall (signature : String) (args : List Value) : Bytes := methodID keccak256 signature ++ encodeValues args

def applyStateDeltaMethod : String :=
  "applyStateDelta((bytes32,bytes32[],(bytes32,bytes32,bytes)[],bytes32[],bytes[],bytes32,bytes32,uint64,bool,bytes),bytes[])"

def outputTokenValue (o : OutputToken) : Value := .tuple [.word o.tokenID, .word o.snMarker, .bytes o.tokenData]

def stateDeltaValue (delta : StateDelta) : Value :=
  .tuple [.word delta.anchor, .bytes32Array delta.spentRefs, .array (delta.outputs.map outputTokenValue),
    .bytes32Array delta.metadataKeys, .bytesArray delta.metadataVals, .word delta.tokenRequestHash,
    .word delta.publicParamsHash, .uint64 delta.publicParamsVersion, .bool delta.isSetup, .bytes delta.setupParameters]

def encodeApplyStateDelta (delta : StateDelta) (signatures : List Bytes) : Bytes :=
  encodeCall keccak256 applyStateDeltaMethod [stateDeltaValue delta, .bytesArray signatures]

end Call

-- What the contract reads from its call data. Words of narrower types are checked.
namespace Contract

def bytes32 : Layout Bytes32 := static wordLength fun octets => some (ofBytes32 octets)

def uint64 : Layout UInt64 := static wordLength fun octets => (readLength octets).map UInt64.ofNat

def bool : Layout Bool := static wordLength fun octets =>
  if ofBytes32 octets = 0 then some false else if ofBytes32 octets = 1 then some true else none

def outputToken : Layout OutputToken where
  inline := none
  decode data := do
    let tokenID ← bytes32.field data 0
    let snMarker ← bytes32.field data 32
    let tokenData ← bytes.field data 64
    return { tokenID, snMarker, tokenData }

def stateDelta : Layout StateDelta where
  inline := none
  decode data := do
    let anchor ← bytes32.field data 0
    let spentRefs ← (array bytes32).field data 32
    let outputs ← (array outputToken).field data 64
    let metadataKeys ← (array bytes32).field data 96
    let metadataVals ← (array bytes).field data 128
    let tokenRequestHash ← bytes32.field data 160
    let publicParamsHash ← bytes32.field data 192
    let publicParamsVersion ← uint64.field data 224
    let isSetup ← bool.field data 256
    let setupParameters ← bytes.field data 288
    return { anchor, spentRefs, outputs, metadataKeys, metadataVals, tokenRequestHash, publicParamsHash, publicParamsVersion,
             isSetup, setupParameters }

def applyStateDeltaArguments (keccak256 : Hash) (calldata : Bytes) : Option (StateDelta × List Bytes) :=
  if calldata.take selectorLength = methodID keccak256 applyStateDeltaMethod then do
    let arguments := calldata.drop selectorLength
    let delta ← stateDelta.field arguments 0
    let signatures ← (array bytes).field arguments 32
    return (delta, signatures)
  else none

end Contract

section Layout

def Value.part (value : Value) : Part := ⟨value.isDynamic, value.encode⟩

theorem parts_eq (values : List Value) : parts values = values.map part := by
  induction values with
  | nil => rfl
  | cons value rest ih => rw [parts, ih, List.map_cons, part]

theorem head_size_of_eq (parts : List Part) : headSizeOf parts = headSizes parts := by
  have general : ∀ start : Nat, parts.foldl (fun size part => if part.dynamic then size + wordLength else size + part.octets.length)
      start = start + headSizes parts := by
    induction parts with
    | nil => exact fun start => rfl
    | cons part rest ih =>
      intro start
      rw [List.foldl_cons, ih, headSizes, headSizes, List.map_cons, Part.headSize]
      split <;> exact Nat.add_assoc _ _ _
  rw [headSizeOf, general, Nat.zero_add]

theorem assemble_eq (parts : List Part) : assemble parts = layout parts := by
  have general : ∀ (size : Nat) (head tail : Bytes), parts.foldl (fun (written : Bytes × Bytes) part =>
      if part.dynamic then (written.1 ++ lengthWord (size + written.2.length), written.2 ++ part.octets)
      else (written.1 ++ part.octets, written.2)) (head, tail) = (head ++ heads (size + tail.length) parts, tail ++ tails parts) := by
    induction parts with
    | nil => simp [heads, tails]
    | cons part rest ih =>
      intro size head tail
      obtain ⟨dynamic, octets⟩ := part
      rw [heads]
      cases dynamic with
      | false => simp [ih, tails, Part.tail]
      | true => simp [ih, tails, Part.tail, Nat.add_assoc]
  rw [assemble, general, head_size_of_eq, layout]
  simp

end Layout

section RoundTrip

theorem of_bytes32 (word : Bytes32) : ofBytes32 (Evm.bytes32 word) = word := by
  have fits : word.toNat < 256 ^ 32 := by have := word.isLt; norm_num at this ⊢; exact this
  rw [ofBytes32, Evm.bytes32, of_big_endian fits, BitVec.ofNat_toNat, BitVec.setWidth_eq]

theorem uint64_word (x : UInt64) : Evm.bytes32 (BitVec.ofNat 256 x.toNat) = lengthWord x.toNat := by
  have fits : x.toNat < 256 ^ 8 := by have := x.toNat_lt; norm_num at this ⊢; exact this
  have whole : (BitVec.ofNat 256 x.toNat).toNat = x.toNat := by
    exact Nat.mod_eq_of_lt (Nat.lt_trans fits (by norm_num))
  rw [Evm.bytes32, whole]
  exact big_endian_pad fits 24

theorem word_reads (word : Bytes32) : Contract.bytes32.Reads (Value.word word).part word :=
  static_reads (bytes32_length word) (congrArg some (of_bytes32 word))

theorem uint64_reads (x : UInt64) : Contract.uint64.Reads (uint64 x).part x := by
  refine static_reads (bytes32_length _) ?_
  have number := read_length_word x.toNat_lt []
  rw [List.append_nil] at number
  rw [uint64, encode, uint64_word, number, Option.map_some, UInt64.ofNat_toNat]

theorem bool_reads (b : Bool) : Contract.bool.Reads (bool b).part b := by
  refine static_reads (bytes32_length _) ?_
  cases b <;> rfl

theorem content_reads (content : Bytes) : bytes.Reads (bytes content).part content := bytes_reads content _

theorem list_reads {α : Type} {l : Layout α} {value : α → Value} (reads : ∀ item, l.Reads (value item).part item)
    (positive : 0 < l.headSize) (items : List α) : (array l).Reads (array (items.map value)).part items := by
  have all : List.Forall₂ l.Reads ((items.map value).map part) items := by
    rw [List.map_map, List.forall₂_map_left_iff, List.forall₂_same]
    exact fun item _ => reads item
  have whole := array_reads all positive
  rw [part, encode, parts_eq, assemble_eq]
  rw [List.length_map] at whole
  exact whole

theorem tuple_octets (fields : List Value) : (tuple fields).part.octets = layout (fields.map part) := by
  rw [part, encode, parts_eq, assemble_eq]

theorem output_token_reads (o : OutputToken) : Contract.outputToken.Reads (outputTokenValue o).part o := by
  refine ⟨rfl, fun _ same => (by cases same), fun fits rest => ?_⟩
  rw [outputTokenValue, tuple_octets] at fits ⊢
  have words : ∀ part ∈ ([.word o.tokenID, .word o.snMarker, .bytes o.tokenData] : List Value).map Value.part,
      part.headSize = wordLength := by
    simp [Value.part, Part.headSize, Value.isDynamic, Value.encode, bytes32_length, wordLength]
  refine read_then (word_field_reads words fits rest 0 rfl rfl (word_reads _)) ?_
  refine read_then (word_field_reads words fits rest 1 rfl rfl (word_reads _)) ?_
  exact read_then (word_field_reads words fits rest 2 rfl rfl (content_reads _)) rfl

theorem state_delta_reads (delta : StateDelta) : Contract.stateDelta.Reads (stateDeltaValue delta).part delta := by
  refine ⟨rfl, fun _ same => (by cases same), fun fits rest => ?_⟩
  rw [stateDeltaValue, tuple_octets] at fits ⊢
  have words : ∀ part ∈ ([.word delta.anchor, .bytes32Array delta.spentRefs, .array (delta.outputs.map outputTokenValue),
      .bytes32Array delta.metadataKeys, .bytesArray delta.metadataVals, .word delta.tokenRequestHash, .word delta.publicParamsHash,
      .uint64 delta.publicParamsVersion, .bool delta.isSetup, .bytes delta.setupParameters] : List Value).map Value.part,
      part.headSize = wordLength := by
    simp [Value.part, Part.headSize, Value.isDynamic, Value.encode, bytes32_length, wordLength, Value.bytes32Array,
      Value.bytesArray, Value.uint64, Value.bool]
  have refs : ∀ items, (array Contract.bytes32).Reads (Value.bytes32Array items).part items := list_reads word_reads (by decide)
  refine read_then (word_field_reads words fits rest 0 rfl rfl (word_reads _)) ?_
  refine read_then (word_field_reads words fits rest 1 rfl rfl (refs _)) ?_
  refine read_then (word_field_reads words fits rest 2 rfl rfl (list_reads output_token_reads (by decide) _)) ?_
  refine read_then (word_field_reads words fits rest 3 rfl rfl (refs _)) ?_
  refine read_then (word_field_reads words fits rest 4 rfl rfl (list_reads content_reads (by decide) _)) ?_
  refine read_then (word_field_reads words fits rest 5 rfl rfl (word_reads _)) ?_
  refine read_then (word_field_reads words fits rest 6 rfl rfl (word_reads _)) ?_
  refine read_then (word_field_reads words fits rest 7 rfl rfl (uint64_reads _)) ?_
  refine read_then (word_field_reads words fits rest 8 rfl rfl (bool_reads _)) ?_
  exact read_then (word_field_reads words fits rest 9 rfl rfl (content_reads _)) rfl

theorem method_id_length (keccak256 : Hash) (signature : String) : (methodID keccak256 signature).length = selectorLength := by
  simp [methodID, bytes32_length, selectorLength]

theorem apply_state_delta_arguments (keccak256 : Hash) (delta : StateDelta) (signatures : List Bytes)
    (fits : (encodeApplyStateDelta keccak256 delta signatures).length < 2 ^ 64) :
    Contract.applyStateDeltaArguments keccak256 (encodeApplyStateDelta keccak256 delta signatures) = some (delta, signatures) := by
  rw [encodeApplyStateDelta, encodeCall, encodeValues, assemble_eq] at fits ⊢
  have words : ∀ part ∈ ([stateDeltaValue delta, .bytesArray signatures] : List Value).map Value.part,
      part.headSize = wordLength := by
    simp [Value.part, Part.headSize, Value.isDynamic, Value.bytesArray, stateDeltaValue, Value.anyDynamic]
  have small := Nat.lt_of_le_of_lt (Nat.le_add_left _ _) (List.length_append ▸ fits)
  rw [Contract.applyStateDeltaArguments, if_pos (List.take_left' (method_id_length _ _))]
  rw [← List.append_nil (layout _)]
  refine read_then (word_field_reads words small [] 0 rfl rfl (state_delta_reads delta)) ?_
  exact read_then (word_field_reads words small [] 1 rfl rfl (list_reads content_reads (by decide) _)) rfl

end RoundTrip

def maxSliceLength : Nat := 2 ^ 63

section WholeWords

theorem padded_whole_words (octets : Bytes) : wordLength ∣ (bytes octets).encode.length := by
  simp only [encode, List.length_append, length_word_length, List.length_replicate, wordLength]
  omega

mutual

theorem encode_whole_words : ∀ value : Value, wordLength ∣ value.encode.length
  | .word octets => by
    rw [encode, bytes32_length]
    exact dvd_refl _
  | .bytes octets => padded_whole_words octets
  | .array elems => by
    have all := layout_whole_words (parts_whole_words elems)
    rw [encode, assemble_eq, List.length_append, length_word_length]
    exact (Nat.dvd_add_right (dvd_refl _)).mpr all
  | .tuple fields => by
    have all := layout_whole_words (parts_whole_words fields)
    rw [encode, assemble_eq]
    exact all

theorem parts_whole_words : ∀ values : List Value, ∀ part ∈ parts values, wordLength ∣ part.octets.length
  | [] => fun _ mem => absurd mem List.not_mem_nil
  | value :: rest => by
    rw [parts]
    intro part mem
    cases mem with
    | head => exact encode_whole_words value
    | tail _ later => exact parts_whole_words rest part later

end

end WholeWords

section Offsets

def tailPosition (front : List Value) (value : Value) (back : List Value) : Nat :=
  headSizeOf (parts (front ++ value :: back)) + (tails (parts front)).length

theorem offset_names_tail {front back : List Value} {value : Value} (dynamic : value.isDynamic = true)
    (fits : (encodeValues (front ++ value :: back)).length < maxSliceLength) :
    readLength ((encodeValues (front ++ value :: back)).drop (headSizeOf (parts front))) = some (tailPosition front value back) ∧
      ∃ rest, (encodeValues (front ++ value :: back)).drop (tailPosition front value back) = value.encode ++ rest := by
  have split : parts (front ++ value :: back) = parts front ++ value.part :: parts back := by
    simp [parts_eq]
  rw [encodeValues, assemble_eq, split] at fits
  have small := offset_lt (fits.trans_le (show maxSliceLength ≤ 2 ^ 64 by decide))
  obtain ⟨more, head⟩ := layout_head (parts front) (parts back) value.part []
  have placed : value.part.dynamic = true := dynamic
  obtain ⟨rest, tail⟩ := layout_tail (parts front) (parts back) placed []
  rw [List.append_nil] at head tail
  rw [encodeValues, assemble_eq, tailPosition, head_size_of_eq, head_size_of_eq, split, head, if_pos placed]
  exact ⟨read_length_word small more, rest, tail⟩

theorem call_data_injective (keccak256 : Hash) {delta delta' : StateDelta} {signatures signatures' : List Bytes}
    (fits : (encodeApplyStateDelta keccak256 delta signatures).length < maxSliceLength)
    (same : encodeApplyStateDelta keccak256 delta signatures = encodeApplyStateDelta keccak256 delta' signatures') :
    delta = delta' ∧ signatures = signatures' := by
  have bound : maxSliceLength ≤ 2 ^ 64 := by decide
  have first := apply_state_delta_arguments keccak256 delta signatures (fits.trans_le bound)
  rw [same] at fits first
  have second := apply_state_delta_arguments keccak256 delta' signatures' (fits.trans_le bound)
  exact Prod.mk.inj (Option.some.inj (first.symm.trans second))

theorem abi_encoding_correct (keccak256 : Hash) :
    (∀ (delta : StateDelta) (signatures : List Bytes),
      (encodeApplyStateDelta keccak256 delta signatures).length < maxSliceLength →
      (encodeApplyStateDelta keccak256 delta signatures).take selectorLength = methodID keccak256 applyStateDeltaMethod ∧
      Contract.applyStateDeltaArguments keccak256 (encodeApplyStateDelta keccak256 delta signatures) = some (delta, signatures) ∧
      ∀ (delta' : StateDelta) (signatures' : List Bytes), (delta, signatures) ≠ (delta', signatures') →
        encodeApplyStateDelta keccak256 delta signatures ≠ encodeApplyStateDelta keccak256 delta' signatures') ∧
    ∀ (front back : List Value) (value : Value), value.isDynamic = true →
      (encodeValues (front ++ value :: back)).length < maxSliceLength →
      readLength ((encodeValues (front ++ value :: back)).drop (headSizeOf (parts front))) =
        some (tailPosition front value back) ∧
      (∃ rest, (encodeValues (front ++ value :: back)).drop (tailPosition front value back) = value.encode ++ rest) ∧
      wordLength ∣ value.encode.length := by
  constructor
  · intro delta signatures fits
    refine ⟨?_, ?_, ?_⟩
    · rw [encodeApplyStateDelta, encodeCall]
      exact List.take_left' (method_id_length _ _)
    · exact apply_state_delta_arguments keccak256 delta signatures (fits.trans_le (by decide))
    · intro delta' signatures' distinct same
      exact distinct (Prod.ext_iff.mpr (call_data_injective keccak256 fits same))
  · intro front back value dynamic fits
    obtain ⟨offset, tail⟩ := offset_names_tail dynamic fits
    exact ⟨offset, tail, encode_whole_words value⟩

end Offsets

namespace TwoOutputs

def delta : StateDelta :=
  { anchor := 1, spentRefs := [2, 3], outputs := [⟨4, 5, [0x07]⟩, ⟨6, 7, [0x08, 0x09]⟩], metadataKeys := [10],
    metadataVals := [[0x0b]], tokenRequestHash := 12, publicParamsHash := 13, publicParamsVersion := 14, isSetup := false,
    setupParameters := [] }

theorem arguments_and_tail_found :
    Contract.applyStateDeltaArguments checksum256 (encodeApplyStateDelta checksum256 delta [[1], [2, 3]]) =
      some (delta, [[1], [2, 3]]) ∧
    encodeApplyStateDelta checksum256 delta [[1], [2, 3]] ≠ encodeApplyStateDelta checksum256 delta [[1, 2], [3]] ∧
    readLength ((encodeValues [.bytes [1, 2, 3], .bytes [4]]).drop 32) = some 128 ∧
    ∃ rest, (encodeValues [.bytes [1, 2, 3], .bytes [4]]).drop 128 = (bytes [4]).encode ++ rest := by
  obtain ⟨calls, values⟩ := abi_encoding_correct checksum256
  obtain ⟨-, read, apart⟩ := calls delta [[1], [2, 3]] (by decide +kernel)
  obtain ⟨offset, tail, -⟩ := values [.bytes [1, 2, 3]] [] (.bytes [4]) rfl (by decide +kernel)
  exact ⟨read, apart delta [[1, 2], [3]] (by simp), offset, tail⟩

end TwoOutputs

end Panurus.Evm.Abi
