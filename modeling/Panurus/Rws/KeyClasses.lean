import Panurus.Rws.Outputs

namespace Panurus.Rws

open List Lib Codec Text FixedWidth

inductive KeyCall where
  | tokenRequest (id : Bytes)
  | setup
  | setupHash
  | output (id : Bytes) (index : UInt64)
  | outputSN (id : Bytes) (index : UInt64) (token : Bytes)
  | inputSN (id : Bytes)
  | issueActionMetadata (key : Bytes)
  | transferActionMetadata (key : Bytes)
deriving DecidableEq, Repr

namespace KeyCall

def create (sha256 : Bytes → Bytes) : KeyCall → Outcome Key
  | .tokenRequest id => createTokenRequestKey id
  | .setup => createSetupKey
  | .setupHash => createSetupHashKey
  | .output id index => createOutputKey id index
  | .outputSN id index token => createOutputSNKey sha256 id index token
  | .inputSN id => createInputSNKey id
  | .issueActionMetadata key => createIssueActionMetadataKey key
  | .transferActionMetadata key => createTransferActionMetadataKey key

def objectType : KeyCall → Bytes
  | .tokenRequest _ => tokenRequestKeyPrefix
  | .setup => tokenSetupKeyPrefix
  | .setupHash => tokenSetupHashKeyPrefix
  | .output id _ => id
  | .outputSN _ _ _ => outputSNKeyPrefix
  | .inputSN _ => inputSerialNumberPrefix
  | .issueActionMetadata _ => issueActionMetadataPrefix
  | .transferActionMetadata _ => transferActionMetadataPrefix

def attributes (sha256 : Bytes → Bytes) : KeyCall → List Bytes
  | .setup | .setupHash => []
  | .output _ index => [decimal index.toNat]
  | .outputSN id index token => [hex (sha256 (outputSNInput id index token))]
  | .tokenRequest att | .inputSN att | .issueActionMetadata att | .transferActionMetadata att => [att]

def hashed : KeyCall → Set Bytes
  | .outputSN id index token => {outputSNInput id index token}
  | _ => ∅

theorem create_eq (sha256 : Bytes → Bytes) (call : KeyCall) :
    call.create sha256 = createCompositeKey call.objectType (call.attributes sha256) := by
  cases call <;> rfl

end KeyCall

theorem composite_key_parts {objectType objectType' : Bytes} {atts atts' : List Bytes} {key : Key}
    (made : createCompositeKey objectType atts = .ok key) (made' : createCompositeKey objectType' atts' = .ok key) :
    objectType = objectType' ∧ atts = atts' := by
  obtain ⟨rfl, closed, free⟩ := create_composite_key_ok made
  obtain ⟨same, closed', free'⟩ := create_composite_key_ok made'
  obtain ⟨types, rest⟩ := prefix_free_terminated 0x00 objectType closed objectType' closed' _ _ (cons.inj same).2
  exact ⟨types, prefix_free_flatMap (prefix_free_terminated 0x00) (by simp) free free' rest⟩

theorem decimal_length_le (index : UInt64) : (decimal index.toNat).length ≤ 20 := by
  have fits : index.toNat < 10 ^ 20 := lt_trans index.toNat_lt (by decide)
  by_cases zero : index.toNat = 0
  · rw [decimal, if_pos zero]
    decide
  · rw [decimal, if_neg zero, length_map, length_reverse]
    exact (Nat.digits_length_le_iff (by decide) _).mpr fits

theorem hex_length (octets : Bytes) : (hex octets).length = 2 * octets.length := by
  induction octets with
  | nil => rfl
  | cons octet rest ih =>
    rw [hex, flatMap_cons, length_append, ← hex, ih, length_cons]
    change 2 + 2 * rest.length = _
    omega

-- Two calls that are told apart by nothing in the key: an output of a transaction that is called like a class of keys,
-- and two serial numbers whose parts run into each other.
inductive Confused : KeyCall → KeyCall → Prop
  | tokenRequest (index : UInt64) : Confused (.output tokenRequestKeyPrefix index) (.tokenRequest (decimal index.toNat))
  | inputSN (index : UInt64) : Confused (.output inputSerialNumberPrefix index) (.inputSN (decimal index.toNat))
  | issueActionMetadata (index : UInt64) :
      Confused (.output issueActionMetadataPrefix index) (.issueActionMetadata (decimal index.toNat))
  | transferActionMetadata (index : UInt64) :
      Confused (.output transferActionMetadataPrefix index) (.transferActionMetadata (decimal index.toNat))
  | outputSN {id id' token token' : Bytes} {index index' : UInt64}
      (lengths : id.length ≠ id'.length)
      (merged : outputSNInput id index token = outputSNInput id' index' token') :
      Confused (.outputSN id index token) (.outputSN id' index' token')

theorem confused_apart {call other : KeyCall} (confused : Confused call other) : call ≠ other := by
  cases confused with
  | outputSN lengths _ =>
    rintro ⟨⟩
    exact lengths rfl
  | _ => exact KeyCall.noConfusion

section Classes

variable {sha256 : Bytes → Bytes}

theorem output_confused (sized : ∀ octets, (sha256 octets).length = 32) {id : Bytes} {index : UInt64} {other : KeyCall}
    (type : id = other.objectType) (atts : [decimal index.toNat] = other.attributes sha256) :
    KeyCall.output id index = other ∨ Confused (.output id index) other := by
  cases other with
  | output id' index' =>
    obtain rfl : id = id' := type
    obtain rfl : index = index' := UInt64.toNat_inj.mp (decimal_injective (singleton_inj.mp atts))
    exact .inl rfl
  | outputSN id' index' token' =>
    have lengths : (decimal index.toNat).length = (hex (sha256 (outputSNInput id' index' token'))).length := by
      rw [singleton_inj.mp atts]
    have short := decimal_length_le index
    rw [lengths, hex_length, sized] at short
    omega
  | setup | setupHash => cases atts
  | tokenRequest att =>
    subst type
    exact .inr (singleton_inj.mp atts ▸ .tokenRequest index)
  | inputSN att =>
    subst type
    exact .inr (singleton_inj.mp atts ▸ .inputSN index)
  | issueActionMetadata att =>
    subst type
    exact .inr (singleton_inj.mp atts ▸ .issueActionMetadata index)
  | transferActionMetadata att =>
    subst type
    exact .inr (singleton_inj.mp atts ▸ .transferActionMetadata index)

theorem output_sn_confused {id id' token token' : Bytes} {index index' : UInt64}
    (apart : KeyCall.outputSN id index token ≠ .outputSN id' index' token')
    (merged : outputSNInput id index token = outputSNInput id' index' token') :
    Confused (.outputSN id index token) (.outputSN id' index' token') := by
  refine .outputSN (fun lengths => apart ?_) merged
  have same : ((⟨id, index⟩, token) : TokenID × Bytes) = (⟨id', index'⟩, token') := sn_input_injective lengths merged
  cases same
  rfl

theorem class_confused {call other : KeyCall} (free : Set.InjOn sha256 (call.hashed ∪ other.hashed))
    (type : call.objectType = other.objectType) (atts : call.attributes sha256 = other.attributes sha256)
    (fixed : ∀ id index, call ≠ .output id index) (fixed' : ∀ id index, other ≠ .output id index) :
    call = other ∨ Confused call other := by
  by_cases same : call = other
  · exact .inl same
  · cases call <;> cases other <;>
      first
      | exact absurd rfl (fixed _ _)
      | exact absurd rfl (fixed' _ _)
      | exact absurd type (by simp only [KeyCall.objectType]; decide)
      | exact absurd rfl same
      | exact absurd (congrArg _ (singleton_inj.mp atts)) same
      | exact .inr (output_sn_confused same (free (.inl rfl) (.inr rfl) (hex_injective (singleton_inj.mp atts))))

end Classes

theorem ledger_keys_separate (sha256 : Bytes → Bytes) (sized : ∀ octets, (sha256 octets).length = 32) (call other : KeyCall)
    (free : Set.InjOn sha256 (call.hashed ∪ other.hashed)) (key : Key) (made : call.create sha256 = .ok key)
    (made' : other.create sha256 = .ok key) : call = other ↔ ¬ (Confused call other ∨ Confused other call) := by
  rw [KeyCall.create_eq] at made made'
  obtain ⟨type, atts⟩ := composite_key_parts made made'
  constructor
  · intro same confused
    rcases confused with forward | backward
    · exact confused_apart forward same
    · exact confused_apart backward same.symm
  · intro clear
    have either : call = other ∨ Confused call other ∨ Confused other call := by
      by_cases fixed : ∀ id index, call ≠ .output id index
      · by_cases fixed' : ∀ id index, other ≠ .output id index
        · exact (class_confused free type atts fixed fixed').imp_right .inl
        · simp only [not_forall, not_not] at fixed'
          obtain ⟨id, index, rfl⟩ := fixed'
          exact (output_confused sized type.symm atts.symm).imp Eq.symm .inr
      · simp only [not_forall, not_not] at fixed
        obtain ⟨id, index, rfl⟩ := fixed
        exact (output_confused sized type atts).imp_right .inl
    exact either.resolve_right clear

namespace Clashes

def one : KeyCall := .outputSN (ascii "a") 0x6161616161616161 (ascii "aa")
def other : KeyCall := .outputSN (ascii "aa") 0x6161616161616161 (ascii "a")

theorem two_calls_confused : one.create checksum32 = other.create checksum32 ∧
    (one = other ↔ ¬ (Confused one other ∨ Confused other one)) := by
  have made : ∃ key, one.create checksum32 = .ok key := ⟨_, rfl⟩
  obtain ⟨key, made⟩ := made
  have made' : other.create checksum32 = .ok key := made
  refine ⟨made.trans made'.symm, ledger_keys_separate checksum32 ?_ _ _ ?_ key made made'⟩
  · simp [checksum32]
  · have merged : one.hashed ∪ other.hashed = {outputSNInput (ascii "a") 0x6161616161616161 (ascii "aa")} :=
      Set.union_self _
    rw [merged]
    exact Set.injOn_singleton _ _

-- Output 5 of a transaction called tr has the key of the request of a transaction called 5. With letters for an index, a
-- letter of the output may as well be one of the identifier.
theorem keys_of_two_calls :
    (∃ key, createOutputKey (ascii "tr") 5 = .ok key ∧ createTokenRequestKey (ascii "5") = .ok key) ∧
    ∀ sha256, validateCompositeKeyAttribute (ascii "a") = .ok () ∧ validateCompositeKeyAttribute (ascii "aa") = .ok () ∧
      createOutputSNKey sha256 (ascii "a") 0x6161616161616161 (ascii "aa") =
        createOutputSNKey sha256 (ascii "aa") 0x6161616161616161 (ascii "a") := by
  refine ⟨⟨_, rfl, by decide⟩, fun sha256 => ⟨by decide, by decide, ?_⟩⟩
  have merged : outputSNInput (ascii "a") 0x6161616161616161 (ascii "aa") =
      outputSNInput (ascii "aa") 0x6161616161616161 (ascii "a") := by decide
  rw [createOutputSNKey, createOutputSNKey, merged]

end Clashes

end Panurus.Rws
