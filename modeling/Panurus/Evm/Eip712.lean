import Panurus.Evm.Abi

namespace Panurus.Evm.Eip712

open List Lib FixedWidth Text

def outputTokenType : String := "OutputToken(bytes32 tokenID,bytes32 snMarker,bytes tokenData)"

def stateDeltaType : String :=
  "StateDelta(bytes32 anchor,bytes32[] spentRefs,OutputToken[] outputs," ++
    "bytes32[] metadataKeys,bytes[] metadataVals,bytes32 tokenRequestHash," ++
    "bytes32 publicParamsHash,uint64 publicParamsVersion,bool isSetup,bytes setupParameters)" ++ outputTokenType

def domainType : String := "EIP712Domain(string name,string version,uint256 chainId,address verifyingContract)"

def domainName : String := "Panurus"
def domainVersion : String := "1"

def uint64Word (x : UInt64) : Bytes := Lib.Abi.lengthWord x.toNat
def boolWord (b : Bool) : Bytes := List.replicate 31 0 ++ [if b then 1 else 0]

def bigWord (x : Nat) : Bytes := bigEndian 32 x
def addressWord (a : Address) : Bytes := List.replicate 12 0 ++ bigEndian 20 a.toNat

section Digest

variable (keccak256 : Hash)

def bytes32ArrayInput (arr : List Bytes32) : Bytes := arr.flatMap bytes32

def bytesArrayInput (arr : List Bytes) : Bytes := arr.flatMap fun e => bytes32 (keccak256 e)

def outputTokenInput (o : OutputToken) : Bytes :=
  bytes32 (keccak256 (ascii outputTokenType)) ++ bytes32 o.tokenID ++ bytes32 o.snMarker ++ bytes32 (keccak256 o.tokenData)

def hashOutputToken (o : OutputToken) : Bytes32 := keccak256 (outputTokenInput keccak256 o)

def outputTokenArrayInput (arr : List OutputToken) : Bytes := arr.flatMap fun o => bytes32 (hashOutputToken keccak256 o)

def structInput (d : StateDelta) : Bytes :=
  bytes32 (keccak256 (ascii stateDeltaType)) ++ bytes32 d.anchor ++ bytes32 (keccak256 (bytes32ArrayInput d.spentRefs)) ++
    bytes32 (keccak256 (outputTokenArrayInput keccak256 d.outputs)) ++ bytes32 (keccak256 (bytes32ArrayInput d.metadataKeys)) ++
    bytes32 (keccak256 (bytesArrayInput keccak256 d.metadataVals)) ++ bytes32 d.tokenRequestHash ++ bytes32 d.publicParamsHash ++
    uint64Word d.publicParamsVersion ++ boolWord d.isSetup ++ bytes32 (keccak256 d.setupParameters)

def hashStruct (d : StateDelta) : Bytes32 := keccak256 (structInput keccak256 d)

structure Domain where
  chainID : Option Nat
  verifyingContract : Address

def Domain.separator (d : Domain) : Bytes32 :=
  keccak256 (bytes32 (keccak256 (ascii domainType)) ++ bytes32 (keccak256 (ascii domainName)) ++
    bytes32 (keccak256 (ascii domainVersion)) ++ bigWord (d.chainID.getD 0) ++ addressWord d.verifyingContract)

def digestInput (domain : Domain) (d : StateDelta) : Bytes :=
  [0x19, 0x01] ++ bytes32 (domain.separator keccak256) ++ bytes32 (hashStruct keccak256 d)

def digest (domain : Domain) (d : StateDelta) : Bytes32 := keccak256 (digestInput keccak256 domain d)

end Digest

namespace Contract

def abiEncode (words : List Bytes32) : Bytes := words.flatMap bytes32

def outputTokenType : String := "OutputToken(bytes32 tokenID,bytes32 snMarker,bytes tokenData)"

def stateDeltaType : String :=
  "StateDelta(bytes32 anchor,bytes32[] spentRefs,OutputToken[] outputs,bytes32[] metadataKeys,bytes[] metadataVals," ++
    "bytes32 tokenRequestHash,bytes32 publicParamsHash,uint64 publicParamsVersion,bool isSetup,bytes setupParameters)" ++
    "OutputToken(bytes32 tokenID,bytes32 snMarker,bytes tokenData)"

def domainType : String := "EIP712Domain(string name,string version,uint256 chainId,address verifyingContract)"

def uint256 (x : Nat) : Bytes32 := BitVec.ofNat 256 x
def bool (b : Bool) : Bytes32 := if b then 1 else 0
def address (a : Address) : Bytes32 := BitVec.ofNat 256 a.toNat

section Digest

variable (keccak256 : Hash)

def outputTokenTypehash : Bytes32 := keccak256 (ascii outputTokenType)
def stateDeltaTypehash : Bytes32 := keccak256 (ascii stateDeltaType)
def domainTypehash : Bytes32 := keccak256 (ascii domainType)

def domainNameHash : Bytes32 := keccak256 (ascii "Panurus")
def domainVersionHash : Bytes32 := keccak256 (ascii "1")

def domainSeparator (chainId : Bytes32) (verifyingContract : Address) : Bytes32 :=
  keccak256 (abiEncode [domainTypehash keccak256, domainNameHash keccak256, domainVersionHash keccak256, chainId,
    address verifyingContract])

def hashOutputToken (o : OutputToken) : Bytes32 :=
  keccak256 (abiEncode [outputTokenTypehash keccak256, o.tokenID, o.snMarker, keccak256 o.tokenData])

def hashOutputs (outputs : List OutputToken) : Bytes32 :=
  keccak256 (outputs.foldl (fun buf output => buf ++ bytes32 (hashOutputToken keccak256 output)) [])

def hashBytesArray (arr : List Bytes) : Bytes32 := keccak256 (arr.foldl (fun buf e => buf ++ bytes32 (keccak256 e)) [])

def hashStruct (d : StateDelta) : Bytes32 :=
  keccak256 (abiEncode [stateDeltaTypehash keccak256, d.anchor, keccak256 (abiEncode d.spentRefs), hashOutputs keccak256 d.outputs,
    keccak256 (abiEncode d.metadataKeys), hashBytesArray keccak256 d.metadataVals, d.tokenRequestHash, d.publicParamsHash,
    uint256 d.publicParamsVersion.toNat, bool d.isSetup, keccak256 d.setupParameters])

def digest (domainSep structHash : Bytes32) : Bytes32 := keccak256 ([0x19] ++ [0x01] ++ bytes32 domainSep ++ bytes32 structHash)

end Digest

end Contract

section Agreement

variable (keccak256 : Hash)

theorem bool_word (b : Bool) : bytes32 (Contract.bool b) = boolWord b := by
  cases b <;> decide

theorem address_word (a : Address) : bytes32 (Contract.address a) = addressWord a := by
  have fits : a.toNat < 256 ^ 20 := by have := a.isLt; norm_num at this ⊢; exact this
  have whole : (BitVec.ofNat 256 a.toNat).toNat = a.toNat := by
    exact Nat.mod_eq_of_lt (Nat.lt_trans fits (by norm_num))
  rw [Contract.address, bytes32, whole]
  exact big_endian_pad fits 12

theorem type_strings : Contract.outputTokenType = outputTokenType ∧ Contract.stateDeltaType = stateDeltaType ∧
    Contract.domainType = domainType := by
  decide +kernel

theorem hash_struct_eq (d : StateDelta) : Contract.hashStruct keccak256 d = hashStruct keccak256 d := by
  have types := type_strings
  have outputs : Contract.hashOutputs keccak256 d.outputs = keccak256 (outputTokenArrayInput keccak256 d.outputs) := by
    rw [Contract.hashOutputs, ← flatMap_eq_foldl, outputTokenArrayInput]
    have each : ∀ o, Contract.hashOutputToken keccak256 o = hashOutputToken keccak256 o := by
      intro o
      simp [Contract.hashOutputToken, hashOutputToken, outputTokenInput, Contract.abiEncode, Contract.outputTokenTypehash, types.1]
    simp [each]
  have values : Contract.hashBytesArray keccak256 d.metadataVals = keccak256 (bytesArrayInput keccak256 d.metadataVals) := by
    rw [Contract.hashBytesArray, ← flatMap_eq_foldl, bytesArrayInput]
  have version : bytes32 (Contract.uint256 d.publicParamsVersion.toNat) = uint64Word d.publicParamsVersion := Abi.uint64_word _
  rw [Contract.hashStruct, hashStruct, outputs, values, Contract.stateDeltaTypehash, types.2.1, structInput]
  simp [Contract.abiEncode, bool_word, version, bytes32ArrayInput]

theorem big_word (x : Nat) : bytes32 (Contract.uint256 x) = bigWord x := by
  exact big_endian_mod 32 x

theorem digest_eq (domain : Domain) (d : StateDelta) :
    Contract.digest keccak256
      (Contract.domainSeparator keccak256 (Contract.uint256 (domain.chainID.getD 0)) domain.verifyingContract)
      (Contract.hashStruct keccak256 d) = digest keccak256 domain d := by
  have separators : Contract.domainSeparator keccak256 (Contract.uint256 (domain.chainID.getD 0)) domain.verifyingContract =
      domain.separator keccak256 := by
    simp [Contract.domainSeparator, Domain.separator, Contract.abiEncode, Contract.domainTypehash, type_strings.2.2,
      Contract.domainNameHash, Contract.domainVersionHash, domainName, domainVersion, big_word, address_word]
  rw [separators, hash_struct_eq]
  rfl

end Agreement

section Commitment

variable {keccak256 : Hash} {hashed : Set Bytes}

theorem word_append_inj {a b : Bytes32} {x y : Bytes} (same : bytes32 a ++ x = bytes32 b ++ y) : a = b ∧ x = y := by
  obtain ⟨words, rest⟩ := append_inj same (by rw [bytes32_length, bytes32_length])
  exact ⟨bytes32_injective words, rest⟩

theorem words_inj_on {α : Type} {f : α → Bytes32} {s : Set α} (injective : Set.InjOn f s) {xs ys : List α}
    (inside : ∀ x ∈ xs, x ∈ s) (inside' : ∀ y ∈ ys, y ∈ s)
    (same : xs.flatMap (fun x => bytes32 (f x)) = ys.flatMap fun y => bytes32 (f y)) : xs = ys := by
  have nonempty : ∀ (word : Bytes32) (rest : Bytes), bytes32 word ++ rest ≠ [] := by
    intro word rest none
    have length := congrArg length none
    rw [length_append, bytes32_length] at length
    simp at length
  induction xs generalizing ys with
  | nil =>
    cases ys with
    | nil => rfl
    | cons y ys => exact absurd same.symm (nonempty (f y) _)
  | cons x xs ih =>
    cases ys with
    | nil => exact absurd same (nonempty (f x) _)
    | cons y ys =>
      obtain ⟨first, rest⟩ := word_append_inj same
      rw [injective (inside x mem_cons_self) (inside' y mem_cons_self) first,
        ih (fun x mem => inside x (mem_cons_of_mem _ mem)) (fun y mem => inside' y (mem_cons_of_mem _ mem)) rest]

theorem words_injective {xs ys : List Bytes32} (same : xs.flatMap bytes32 = ys.flatMap bytes32) : xs = ys :=
  words_inj_on (Set.injOn_id Set.univ) (fun _ _ => Set.mem_univ _) (fun _ _ => Set.mem_univ _) same

structure Hashed (keccak256 : Hash) (hashed : Set Bytes) (d : StateDelta) : Prop where
  whole : structInput keccak256 d ∈ hashed
  spentRefs : bytes32ArrayInput d.spentRefs ∈ hashed
  outputs : outputTokenArrayInput keccak256 d.outputs ∈ hashed
  output : ∀ o ∈ d.outputs, outputTokenInput keccak256 o ∈ hashed ∧ o.tokenData ∈ hashed
  metadataKeys : bytes32ArrayInput d.metadataKeys ∈ hashed
  metadataVals : bytesArrayInput keccak256 d.metadataVals ∈ hashed
  metadataVal : ∀ value ∈ d.metadataVals, value ∈ hashed
  setupParameters : d.setupParameters ∈ hashed

theorem hash_output_token_inj_on (collisionFree : Set.InjOn keccak256 hashed) : Set.InjOn (hashOutputToken keccak256)
    (fun o => outputTokenInput keccak256 o ∈ hashed ∧ o.tokenData ∈ hashed) := by
  intro o known other known' same
  have inputs := collisionFree known.1 known'.1 same
  simp only [outputTokenInput, append_assoc] at inputs
  obtain ⟨-, inputs⟩ := word_append_inj inputs
  obtain ⟨ids, inputs⟩ := word_append_inj inputs
  obtain ⟨markers, inputs⟩ := word_append_inj inputs
  have data := collisionFree known.2 known'.2 (bytes32_injective inputs)
  cases o
  simp only at ids markers data
  rw [ids, markers, data]

section

variable {d other : StateDelta} (collisionFree : Set.InjOn keccak256 hashed) (known : Hashed keccak256 hashed d)
  (known' : Hashed keccak256 hashed other)

include collisionFree known known'

theorem hash_struct_injective (same : hashStruct keccak256 d = hashStruct keccak256 other) : d = other := by
  have inputs := collisionFree known.whole known'.whole same
  simp only [structInput, append_assoc] at inputs
  obtain ⟨-, inputs⟩ := word_append_inj inputs
  obtain ⟨anchors, inputs⟩ := word_append_inj inputs
  obtain ⟨refs, inputs⟩ := word_append_inj inputs
  obtain ⟨outputs, inputs⟩ := word_append_inj inputs
  obtain ⟨keys, inputs⟩ := word_append_inj inputs
  obtain ⟨vals, inputs⟩ := word_append_inj inputs
  obtain ⟨requests, inputs⟩ := word_append_inj inputs
  obtain ⟨params, inputs⟩ := word_append_inj inputs
  obtain ⟨versions, inputs⟩ := append_inj inputs (by simp only [uint64Word, Lib.Abi.length_word_length])
  obtain ⟨setups, inputs⟩ := append_inj inputs (by simp [boolWord])
  have sameRefs := words_injective (collisionFree known.spentRefs known'.spentRefs refs)
  have sameKeys := words_injective (collisionFree known.metadataKeys known'.metadataKeys keys)
  have sameOutputs : d.outputs = other.outputs := words_inj_on (hash_output_token_inj_on collisionFree) known.output known'.output
    (collisionFree known.outputs known'.outputs outputs)
  have sameVals : d.metadataVals = other.metadataVals := words_inj_on collisionFree known.metadataVal known'.metadataVal
    (collisionFree known.metadataVals known'.metadataVals vals)
  have sameVersion := abi_index_injective versions
  have sameSetup : d.isSetup = other.isSetup := by
    have last := append_cancel_left setups
    revert last
    cases d.isSetup <;> cases other.isSetup <;> decide
  have sameParameters := collisionFree known.setupParameters known'.setupParameters (bytes32_injective inputs)
  cases d
  simp only at anchors requests params sameRefs sameKeys sameOutputs sameVals sameVersion sameSetup sameParameters
  rw [anchors, requests, params, sameRefs, sameKeys, sameOutputs, sameVals, sameVersion, sameSetup, sameParameters]

theorem digest_injective {domain : Domain} (signed : digestInput keccak256 domain d ∈ hashed)
    (signed' : digestInput keccak256 domain other ∈ hashed) (same : digest keccak256 domain d = digest keccak256 domain other) :
    d = other := by
  have inputs := collisionFree signed signed' same
  exact hash_struct_injective collisionFree known known' (bytes32_injective (append_cancel_left inputs))

end

end Commitment

section Claim

open Abi

theorem digest_commits_to_delta (keccak256 : Hash) :
    (∀ (hashed : Set Bytes) (d other : StateDelta), Set.InjOn keccak256 hashed → Hashed keccak256 hashed d →
      Hashed keccak256 hashed other → (hashStruct keccak256 d = hashStruct keccak256 other → d = other) ∧
      ∀ domain, digestInput keccak256 domain d ∈ hashed → digestInput keccak256 domain other ∈ hashed →
        digest keccak256 domain d = digest keccak256 domain other → d = other) ∧
    ∀ (delta : StateDelta) (signatures : List Bytes), (encodeApplyStateDelta keccak256 delta signatures).length < 2 ^ 63 →
      ∃ decoded, Abi.Contract.applyStateDeltaArguments keccak256 (encodeApplyStateDelta keccak256 delta signatures) =
          some (decoded, signatures) ∧ decoded = delta ∧ Contract.hashStruct keccak256 decoded = hashStruct keccak256 delta ∧
        ∀ domain : Domain, Contract.digest keccak256
          (Contract.domainSeparator keccak256 (Contract.uint256 (domain.chainID.getD 0)) domain.verifyingContract)
          (Contract.hashStruct keccak256 decoded) = digest keccak256 domain delta := by
  refine ⟨fun hashed d other collisionFree known known' => ⟨?_, ?_⟩, fun delta signatures fits => ⟨delta, ?_, rfl, ?_, ?_⟩⟩
  · exact hash_struct_injective collisionFree known known'
  · exact fun domain signed signed' => digest_injective collisionFree known known' signed signed'
  · exact apply_state_delta_arguments keccak256 delta signatures (Nat.lt_trans fits (by norm_num))
  · exact hash_struct_eq keccak256 delta
  · exact fun domain => digest_eq keccak256 domain delta

end Claim

namespace OneOctet

def delta (octet : UInt8) : StateDelta := { Abi.TwoOutputs.delta with outputs := [⟨4, 5, [octet]⟩] }

def texts (d : StateDelta) : List Bytes :=
  [structInput checksum256 d, bytes32ArrayInput d.spentRefs, outputTokenArrayInput checksum256 d.outputs,
    bytes32ArrayInput d.metadataKeys, bytesArrayInput checksum256 d.metadataVals, d.setupParameters] ++
    d.outputs.map (outputTokenInput checksum256) ++ d.outputs.map OutputToken.tokenData ++ d.metadataVals

theorem texts_hashed (d : StateDelta) (hashed : Set Bytes) (inside : ∀ text ∈ texts d, text ∈ hashed) :
    Hashed checksum256 hashed d := by
  simp only [texts, mem_append, mem_cons, not_mem_nil, or_false, mem_map] at inside
  refine ⟨inside _ (by simp), inside _ (by simp), inside _ (by simp), fun o mem => ⟨inside _ ?_, inside _ ?_⟩, inside _ (by simp),
    inside _ (by simp), fun value mem => inside _ (.inr mem), inside _ (by simp)⟩
  · exact .inl (.inl (.inr ⟨o, mem, rfl⟩))
  · exact .inl (.inr ⟨o, mem, rfl⟩)

theorem texts_told_apart : Set.InjOn checksum256 (fun text => text ∈ texts (delta 0x00) ++ texts (delta 0x01)) := by
  have distinct : ((texts (delta 0x00) ++ texts (delta 0x01)).dedup.map checksum256).Nodup := by decide +kernel
  exact fun text mem other mem' => inj_on_of_nodup_map distinct (mem_dedup.mpr mem) (mem_dedup.mpr mem')

theorem one_octet_changes_digest : hashStruct checksum256 (delta 0x00) ≠ hashStruct checksum256 (delta 0x01) ∧
    Abi.Contract.applyStateDeltaArguments checksum256 (Abi.encodeApplyStateDelta checksum256 (delta 0x00) [[0x41]]) =
      some (delta 0x00, [[0x41]]) := by
  obtain ⟨commits, reads⟩ := digest_commits_to_delta checksum256
  refine ⟨fun same => ?_, ?_⟩
  · have equal := (commits _ _ _ texts_told_apart (texts_hashed _ _ fun _ mem => mem_append_left _ mem)
      (texts_hashed _ _ fun _ mem => mem_append_right _ mem)).1 same
    exact absurd equal (by decide)
  · obtain ⟨decoded, read, rfl, -⟩ := reads (delta 0x00) [[0x41]] (by decide +kernel)
    exact read

end OneOctet

end Panurus.Evm.Eip712
