import Panurus.Lib.Utxo
import Panurus.Rws.SerialNumbers

namespace Panurus.Rws

open List Lib Outcome Mapping Text FixedWidth

def Request.stored (request : Request) : List (TokenID × Bytes) := storedFrom request.txID 0 request.actions
def Request.spent (request : Request) : List (TokenID × Bytes) := request.actions.flatMap Action.spent

def snInput (entry : TokenID × Bytes) : Bytes := outputSNInput entry.1.txId entry.1.index entry.2

def Request.hashed (request : Request) : List Bytes := (request.stored ++ request.spent).map snInput

def Action.GraphRevealing : Action → Prop
  | .issue action | .transfer action => action.isGraphHiding = false
  | _ => False

section Outputs

variable {id : TokenID} {entry other : TokenID × Bytes} {sha256 : Bytes → Bytes} {objectType : Bytes}
  {t next : Translator} {action : Action}

theorem output_key_injective {other : TokenID} (closed : 0x00 ∉ id.txId) (closed' : 0x00 ∉ other.txId)
    (same : outputKey id = outputKey other) : id = other := by
  obtain ⟨txIds, indexes⟩ := composite_key_injective closed closed' (decimal_no_nul _) (decimal_no_nul _) same
  have index := UInt64.toNat_inj.mp (decimal_injective indexes)
  cases id
  simp only at txIds index
  rw [txIds, index]

theorem sn_prefix_closed : 0x00 ∉ outputSNKeyPrefix := by decide

theorem sn_input_injective (length : entry.1.txId.length = other.1.txId.length)
    (same : snInput entry = snInput other) : entry = other := by
  simp only [snInput, outputSNInput, append_assoc] at same
  obtain ⟨txIds, rest⟩ := append_inj (append_cancel_left same) length
  obtain ⟨words, outputs⟩ := append_inj rest (by rw [little_endian_length, little_endian_length])
  have index := UInt64.toNat_inj.mp (little_endian_injective entry.1.index.toNat_lt other.1.index.toNat_lt words)
  obtain ⟨⟨txId, idx⟩, output⟩ := entry
  simp only at txIds index outputs
  rw [txIds, index, outputs]

theorem sn_key_injective {hashed : Set Bytes} (collisionFree : Set.InjOn sha256 hashed)
    (known : snInput entry ∈ hashed) (known' : snInput other ∈ hashed) (length : entry.1.txId.length = other.1.txId.length)
    (same : outputSNKey sha256 entry.1 entry.2 = outputSNKey sha256 other.1 other.2) : entry = other := by
  have texts := (composite_key_injective sn_prefix_closed sn_prefix_closed (hex_no_nul _) (hex_no_nul _) same).2
  exact sn_input_injective length (collisionFree known known' (hex_injective texts))

-- The prefixes of keys that are not output keys. A transaction id is longer.
def shortTypes : List Bytes :=
  [outputSNKeyPrefix, inputSerialNumberPrefix, issueActionMetadataPrefix, transferActionMetadataPrefix]

theorem short_types_short : ∀ objectType ∈ shortTypes, objectType.length < 32 ∧ 0x00 ∉ objectType := by decide

theorem output_key_ne_short (long : 32 ≤ id.txId.length) (closed : 0x00 ∉ id.txId)
    (short : objectType ∈ shortTypes) (attributes : List Bytes) : outputKey id ≠ compositeKey objectType attributes := by
  intro same
  have bound := short_types_short objectType short
  rw [composite_key_type closed bound.2 same] at long
  omega

structure Effect (sha256 : Bytes → Bytes) (t next : Translator) (action : Action) : Prop extends
    Performed sha256 t next action where
  parts : ∃ rest : List (Key × Value), next.state = writeAll (writeAll (writeAll t.state
      ((t.stores action).flatMap (storedWrites sha256 false))) (action.spent.flatMap (spentWrites sha256))) rest ∧
    ∀ entry ∈ rest, ∃ objectType part, entry.1 = compositeKey objectType [part] ∧
      objectType ∈ shortTypes ∧ objectType ≠ outputSNKeyPrefix
  spentOnce : (action.spent.map Prod.fst).Nodup

theorem action_effect (revealing : action.GraphRevealing)
    (done : t.write sha256 action = .ok next) : Effect sha256 t next action := by
  have performed := action_performed done
  have shown : action.isGraphHiding = false ∧ action.setupWrites sha256 = [] := by
    cases action with
    | issue action | transfer action => exact ⟨revealing, rfl⟩
    | setup parameters | unknown type => exact absurd revealing id
  have once : (action.spent.map spentKey).Nodup := (nodup_append'.mp performed.fresh.1).1
  refine ⟨performed, ⟨action.serialNumbers.map serialWrite ++ action.metadata.map MetadataEntry.write, ?_, ?_⟩, ?_⟩
  · rw [performed.state, Action.writes, shown.1, shown.2, append_nil, ← write_all_append, ← write_all_append]
    simp
  · intro entry mem
    rcases mem_append.mp mem with serial | extra
    · obtain ⟨serial, -, rfl⟩ := mem_map.mp serial
      exact ⟨_, _, rfl, by decide, by decide⟩
    · obtain ⟨pair, -, rfl⟩ := mem_map.mp extra
      exact ⟨_, _, rfl, by cases pair.kind <;> decide⟩
  · have keys : action.spent.map spentKey = (action.spent.map Prod.fst).map outputKey := by rw [map_map]; rfl
    exact List.Nodup.of_map outputKey (keys ▸ once)

end Outputs

-- The key of a claimed input is the key of a created output: it is this output exactly when the identifiers have one length.
theorem serial_number_binds_iff (sha256 : Bytes → Bytes) (id id' : Bytes) (index index' : UInt64) (output output' : Bytes)
    (collisionFree : Set.InjOn sha256 {outputSNInput id index output, outputSNInput id' index' output'}) (key : Key)
    (made : createOutputSNKey sha256 id index output = .ok key) (made' : createOutputSNKey sha256 id' index' output' = .ok key) :
    (id = id' ∧ index = index' ∧ output = output') ↔ id.length = id'.length := by
  constructor
  · rintro ⟨rfl, _, _⟩
    rfl
  · intro lengths
    have first := create_output_sn_key_ok ⟨id, index⟩ made
    have second := create_output_sn_key_ok ⟨id', index'⟩ made'
    have same : ((⟨id, index⟩, output) : TokenID × Bytes) = (⟨id', index'⟩, output') :=
      sn_key_injective collisionFree (.inl rfl) (.inr rfl) lengths (first.symm.trans second)
    cases same
    exact ⟨rfl, rfl, rfl⟩

namespace Merged

theorem merged_serial_number_unbound :
    ∃ key, createOutputSNKey checksum32 (ascii "tx") 49 [0x00, 1, 2] = .ok key ∧
      createOutputSNKey checksum32 (ascii "tx1") 0 [1, 2] = .ok key ∧
      ((ascii "tx" = ascii "tx1" ∧ (49 : UInt64) = 0 ∧ [0x00, 1, 2] = ([1, 2] : Bytes)) ↔
        (ascii "tx").length = (ascii "tx1").length) := by
  have made : ∃ key, createOutputSNKey checksum32 (ascii "tx") 49 [0x00, 1, 2] = .ok key := ⟨_, rfl⟩
  obtain ⟨key, made⟩ := made
  refine ⟨key, made, made, serial_number_binds_iff checksum32 _ _ _ _ _ _ ?_ key made made⟩
  exact (Set.pair_eq_singleton _).symm ▸ Set.injOn_singleton _ _

-- Output 49 of one transaction and output 0 of another: the digit 1 is the first octet of 49.
theorem outputs_of_two_transactions :
    validateCompositeKeyAttribute (ascii "tx") = .ok () ∧ validateCompositeKeyAttribute (ascii "tx1") = .ok () ∧
      ∀ (sha256 : Bytes → Bytes) (output : Bytes),
        createOutputSNKey sha256 (ascii "tx") 49 (0x00 :: output) = createOutputSNKey sha256 (ascii "tx1") 0 output := by
  refine ⟨by decide, by decide, fun sha256 output => ?_⟩
  have merged : outputSNInput (ascii "tx") 49 (0x00 :: output) = outputSNInput (ascii "tx1") 0 output := by
    rfl
  rw [createOutputSNKey, createOutputSNKey, merged]

end Merged

end Panurus.Rws
