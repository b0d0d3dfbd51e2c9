import Panurus.Lib.Mapping
import Panurus.Lib.Attempts
import Panurus.Lib.Outcome
import Panurus.Lib.Abi
import Panurus.Lib.Text

namespace Panurus.Evm

open Lib Outcome Text Function

abbrev Bytes32 := BitVec 256

abbrev Hash := Bytes → Bytes32

def bytes32 (word : Bytes32) : Bytes := FixedWidth.bigEndian 32 word.toNat

abbrev octetsOf (hash : Hash) (text : Bytes) : Bytes := bytes32 (hash text)

def abiIndex (index : UInt64) : Bytes := Lib.Abi.lengthWord index.toNat

def tokenIDInput (anchor : Bytes32) (index : UInt64) : Bytes := bytes32 anchor ++ abiIndex index

def markerInput (anchor : Bytes32) (index : UInt64) (contentHash : Bytes32) : Bytes :=
  bytes32 anchor ++ abiIndex index ++ bytes32 contentHash

section Keccak

variable (keccak256 : Hash)

def computeTokenID (anchor : Bytes32) (index : UInt64) : Bytes32 := keccak256 (tokenIDInput anchor index)

def outputSNMarker (anchor : Bytes32) (index : UInt64) (tokenData : Bytes) : Bytes32 :=
  let contentHash := keccak256 tokenData
  keccak256 (markerInput anchor index contentHash)

def domainIssueMetadata : UInt8 := 0x01
def domainTransferMetadata : UInt8 := 0x02
def domainSerialNumber : UInt8 := 0x03

def spentRefForSerial (serial : Bytes) : Bytes32 := keccak256 ([domainSerialNumber] ++ serial)

def issueMetadataKey (subkey : Bytes) : Bytes32 := keccak256 ([domainIssueMetadata] ++ subkey)
def transferMetadataKey (subkey : Bytes) : Bytes32 := keccak256 ([domainTransferMetadata] ++ subkey)

end Keccak

def anchorLength : Nat := 32

def ofBytes32 (octets : Bytes) : Bytes32 := BitVec.ofNat 256 (FixedWidth.ofBigEndian octets)

def anchorFromTxID (txID : Bytes) : Outcome Bytes32 := do
  let b ← required (decodeHex txID) s!"invalid anchor txID [{render txID}]"
  ensure (b.length = anchorLength)
    s!"invalid anchor length for [{render txID}]: expected {anchorLength} bytes, got {b.length}"
  return ofBytes32 b

theorem bytes32_length (word : Bytes32) : (bytes32 word).length = 32 := FixedWidth.big_endian_length 32 _

theorem bytes32_injective : Injective bytes32 := by
  intro a b same
  have fits : ∀ word : Bytes32, word.toNat < 256 ^ 32 := fun word => by have := word.isLt; norm_num at this ⊢; exact this
  exact BitVec.eq_of_toNat_eq (FixedWidth.big_endian_injective (fits a) (fits b) same)

theorem abi_index_length (index : UInt64) : (abiIndex index).length = 32 := Lib.Abi.length_word_length _

theorem abi_index_injective : Injective abiIndex := by
  intro a b same
  have fits : ∀ index : UInt64, index.toNat < 256 ^ 8 := fun index => by have := index.toNat_lt; norm_num at this ⊢; exact this
  exact UInt64.toNat.inj (FixedWidth.big_endian_injective (fits a) (fits b) (List.append_cancel_left same))

theorem token_id_input_injective {anchor anchor' : Bytes32} {index index' : UInt64}
    (same : tokenIDInput anchor index = tokenIDInput anchor' index') : anchor = anchor' ∧ index = index' := by
  obtain ⟨anchors, indexes⟩ := List.append_inj same (by rw [bytes32_length, bytes32_length])
  exact ⟨bytes32_injective anchors, abi_index_injective indexes⟩

theorem marker_input_injective {anchor anchor' content content' : Bytes32} {index index' : UInt64}
    (same : markerInput anchor index content = markerInput anchor' index' content') : anchor = anchor' ∧ index = index' := by
  have sizes : (bytes32 anchor ++ abiIndex index).length = (bytes32 anchor' ++ abiIndex index').length := by
    simp [bytes32_length, abi_index_length]
  exact token_id_input_injective (List.append_inj same sizes).1

-- Keccak-256 seen as collision free, on the inputs that were really hashed, with no digest that is zero.
structure CollisionFree (keccak256 : Hash) (inputs : Set Bytes) : Prop where
  injective : Set.InjOn keccak256 inputs
  nonzero : ∀ input ∈ inputs, keccak256 input ≠ 0

structure OutputToken where
  tokenID : Bytes32
  snMarker : Bytes32
  tokenData : Bytes
deriving DecidableEq, Repr

structure StateDelta where
  anchor : Bytes32
  spentRefs : List Bytes32
  outputs : List OutputToken
  metadataKeys : List Bytes32
  metadataVals : List Bytes
  tokenRequestHash : Bytes32
  publicParamsHash : Bytes32
  publicParamsVersion : UInt64
  isSetup : Bool
  setupParameters : Bytes
deriving DecidableEq, Repr

abbrev Address := BitVec 160

structure TokenState where
  tokens : Bytes32 → Bytes
  markerToken : Bytes32 → Bytes32
  serialUsed : Bytes32 → Bool
  tokenRequestHashes : Bytes32 → Bytes32
  processedAnchor : Bytes32 → Bool
  transferMetadata : Bytes32 → Bytes
  metadataExists : Bytes32 → Bool
  publicParameters : Bytes
  publicParamsHash : Bytes32
  publicParamsVersion : UInt64
  graphHiding : Bool
  endorsementVerifier : Address
  deployer : Address
  domainSeparator : Bytes32
  initialized : Bool

inductive Revert where
  | alreadyInitialized
  | notInitialized
  | zeroVerifier
  | anchorAlreadyProcessed (anchor : Bytes32)
  | invalidSignatures
  | stalePublicParams (currentVersion : UInt64) (currentHash : Bytes32)
  | inputMissingOrSpent (ref : Bytes32)
  | doubleSpend (ref : Bytes32)
  | metadataLengthMismatch
  | metadataKeyOccupied (key : Bytes32)
  | malformedSetupDelta
  | malformedTransferDelta
  | unsupportedForGraphHiding
  | arithmeticOverflow
  | verifier (reason : String)
deriving DecidableEq, Repr

-- What a call reads besides the contract's own storage: the SHA-256 precompile, the EIP-712 digest of a
-- delta under a domain, the domain of this clone, and the endorsement verifier, which may itself revert.
structure Chain where
  sha256 : Hash
  domainSeparator : Bytes32
  digest : Bytes32 → StateDelta → Bytes32
  verify : Address → Bytes32 → List Bytes → Except Revert Bool

def TokenState.fresh : TokenState where
  tokens _ := []
  markerToken _ := 0
  serialUsed _ := false
  tokenRequestHashes _ := 0
  processedAnchor _ := false
  transferMetadata _ := []
  metadataExists _ := false
  publicParameters := []
  publicParamsHash := 0
  publicParamsVersion := 0
  graphHiding := false
  endorsementVerifier := 0
  deployer := 0
  domainSeparator := 0
  initialized := false

def initializeClone (chain : Chain) (state : TokenState) (verifier deployer : Address) (pp0 : Bytes) (graphHiding : Bool) :
    Except Revert TokenState := do
  ensure (state.initialized = false) .alreadyInitialized
  ensure (verifier ≠ 0) .zeroVerifier
  return { state with
    initialized := true
    endorsementVerifier := verifier
    deployer := deployer
    graphHiding := graphHiding
    publicParameters := pp0
    publicParamsHash := chain.sha256 pp0
    publicParamsVersion := 0
    domainSeparator := chain.domainSeparator }

def spendSerial (state : TokenState) (ref : Bytes32) : Except Revert TokenState := do
  ensure (state.serialUsed ref = false) (.doubleSpend ref)
  return { state with serialUsed := update state.serialUsed ref true }

def spendMarker (state : TokenState) (ref : Bytes32) : Except Revert TokenState := do
  let tokenID := state.markerToken ref
  ensure (tokenID ≠ 0) (.inputMissingOrSpent ref)
  return { state with
    markerToken := update state.markerToken ref 0
    tokens := update state.tokens tokenID [] }

def spendRefs (state : TokenState) (refs : List Bytes32) : Except Revert TokenState :=
  if state.graphHiding then refs.foldlM spendSerial state else refs.foldlM spendMarker state

def storeOutput (state : TokenState) (output : OutputToken) : TokenState :=
  { state with
    tokens := update state.tokens output.tokenID output.tokenData
    markerToken :=
      if state.graphHiding then state.markerToken
      else update state.markerToken output.snMarker output.tokenID }

def storeMetadata (state : TokenState) (entry : Bytes32 × Bytes) : Except Revert TokenState := do
  ensure (state.metadataExists entry.1 = false) (.metadataKeyOccupied entry.1)
  return { state with
    metadataExists := update state.metadataExists entry.1 true
    transferMetadata := update state.transferMetadata entry.1 entry.2 }

def applyTransfer (state : TokenState) (delta : StateDelta) : Except Revert TokenState := do
  ensure (delta.setupParameters = []) .malformedTransferDelta
  let state ← spendRefs state delta.spentRefs
  let state := delta.outputs.foldl storeOutput state
  (delta.metadataKeys.zip delta.metadataVals).foldlM storeMetadata state

def applySetup (chain : Chain) (state : TokenState) (delta : StateDelta) : Except Revert TokenState := do
  ensure (delta.spentRefs = [] ∧ delta.outputs = [] ∧ delta.metadataKeys = [] ∧ delta.setupParameters ≠ [])
    .malformedSetupDelta
  ensure (state.publicParamsVersion.toNat + 1 < 2 ^ 64) .arithmeticOverflow
  return { state with
    publicParameters := delta.setupParameters
    publicParamsHash := chain.sha256 delta.setupParameters
    publicParamsVersion := state.publicParamsVersion + 1 }

structure Call where
  delta : StateDelta
  signatures : List Bytes
deriving DecidableEq, Repr

def applyStateDelta (chain : Chain) (state : TokenState) (call : Call) : Except Revert TokenState := do
  let delta := call.delta
  ensure (state.initialized = true) .notInitialized
  ensure (state.processedAnchor delta.anchor = false) (.anchorAlreadyProcessed delta.anchor)
  ensure (delta.metadataKeys.length = delta.metadataVals.length) .metadataLengthMismatch
  let digest := chain.digest state.domainSeparator delta
  let accepted ← chain.verify state.endorsementVerifier digest call.signatures
  ensure (accepted = true) .invalidSignatures
  ensure (delta.publicParamsVersion = state.publicParamsVersion ∧ delta.publicParamsHash = state.publicParamsHash)
    (.stalePublicParams state.publicParamsVersion state.publicParamsHash)
  let state ← (if delta.isSetup then applySetup chain state delta else applyTransfer state delta)
  return { state with
    tokenRequestHashes := update state.tokenRequestHashes delta.anchor delta.tokenRequestHash
    processedAnchor := update state.processedAnchor delta.anchor true }

def getToken (state : TokenState) (tokenID : Bytes32) : Bytes := state.tokens tokenID

def isSpent (state : TokenState) (tokenID : Bytes32) : Except Revert Bool := do
  ensure (state.graphHiding = false) .unsupportedForGraphHiding
  return (state.tokens tokenID).isEmpty

def isSerialUsed (state : TokenState) (serial : Bytes32) : Bool := state.serialUsed serial

open List Mapping Attempts

variable {state final next : TokenState} {refs : List Bytes32} {chain : Chain} {delta : StateDelta}

theorem spend_serials_ok (run : refs.foldlM spendSerial state = .ok final) :
    refs.Nodup ∧ (∀ ref ∈ refs, state.serialUsed ref = false) ∧
      final = { state with serialUsed := fun ref => state.serialUsed ref || decide (ref ∈ refs) } := by
  refine foldlM_invariant (fun done current => done.Nodup ∧ (∀ ref ∈ done, state.serialUsed ref = false) ∧
    current = { state with serialUsed := fun ref => state.serialUsed ref || decide (ref ∈ done) }) ?_ (by simp) run
  rintro done _ ref next ⟨distinct, unused, rfl⟩ spent
  simp only [spendSerial, ok_iff, exists_const, Bool.or_eq_false_iff, decide_eq_false_iff_not] at spent
  obtain ⟨⟨fresh, new⟩, rfl⟩ := spent
  refine ⟨by simpa using distinct.concat new, ?_, ?_⟩
  · intro other mem
    rcases mem_append.mp mem with old | same
    · exact unused other old
    · rw [mem_singleton.mp same]
      exact fresh
  · congr 1
    funext other
    by_cases same : other = ref <;> simp [same]

theorem spend_markers_ok (run : refs.foldlM spendMarker state = .ok final) :
    refs.Nodup ∧ (∀ ref ∈ refs, state.markerToken ref ≠ 0) ∧
      final = { state with
        markerToken := fun ref => if ref ∈ refs then 0 else state.markerToken ref
        tokens := fun id => if id ∈ refs.map state.markerToken then [] else state.tokens id } := by
  refine foldlM_invariant (fun done current => done.Nodup ∧ (∀ ref ∈ done, state.markerToken ref ≠ 0) ∧ current = { state with
      markerToken := fun ref => if ref ∈ done then 0 else state.markerToken ref
      tokens := fun id => if id ∈ done.map state.markerToken then [] else state.tokens id }) ?_ (by simp) run
  rintro done _ ref next ⟨distinct, live, rfl⟩ spent
  simp only [spendMarker, ok_iff, exists_const] at spent
  obtain ⟨recorded, rfl⟩ := spent
  have new : ref ∉ done := fun mem => recorded (if_pos mem)
  rw [if_neg new] at recorded
  refine ⟨by simpa using distinct.concat new, ?_, ?_⟩
  · intro other mem
    rcases mem_append.mp mem with old | same
    · exact live other old
    · rw [mem_singleton.mp same]
      exact recorded
  · congr 1
    · funext id
      by_cases same : id = state.markerToken ref <;> simp [same, new]
    · funext other
      by_cases same : other = ref <;> simp [same]

theorem store_outputs_eq (state : TokenState) (outputs : List OutputToken) :
    outputs.foldl storeOutput state = { state with
      tokens := writeAll state.tokens (outputs.map fun output => (output.tokenID, output.tokenData))
      markerToken :=
        if state.graphHiding then state.markerToken
        else writeAll state.markerToken (outputs.map fun output => (output.snMarker, output.tokenID)) } := by
  induction outputs generalizing state with
  | nil => simp [writeAll]
  | cons output tail ih =>
    rw [foldl_cons, ih]
    cases mode : state.graphHiding <;> simp [storeOutput, writeAll, mode]

theorem store_metadata_ok {entries : List (Bytes32 × Bytes)} (run : entries.foldlM storeMetadata state = .ok final) :
    (entries.map Prod.fst).Nodup ∧ (∀ entry ∈ entries, state.metadataExists entry.1 = false) ∧
      final = { state with
        metadataExists := fun key => state.metadataExists key || decide (key ∈ entries.map Prod.fst)
        transferMetadata := writeAll state.transferMetadata entries } := by
  refine foldlM_invariant (fun done current => (done.map Prod.fst).Nodup ∧
    (∀ entry ∈ done, state.metadataExists entry.1 = false) ∧ current = { state with
      metadataExists := fun key => state.metadataExists key || decide (key ∈ done.map Prod.fst)
      transferMetadata := writeAll state.transferMetadata done }) ?_ (by simp [writeAll]) run
  rintro done _ entry next ⟨distinct, free, rfl⟩ stored
  simp only [storeMetadata, ok_iff, exists_const, Bool.or_eq_false_iff, decide_eq_false_iff_not] at stored
  obtain ⟨⟨fresh, new⟩, rfl⟩ := stored
  refine ⟨?_, ?_, ?_⟩
  · rw [map_append, map_singleton]
    simpa using distinct.concat new
  · intro other mem
    rcases mem_append.mp mem with old | same
    · exact free other old
    · rw [mem_singleton.mp same]
      exact fresh
  · congr 1
    · simp [writeAll]
    · funext key
      by_cases same : key = entry.1
      · simp [same]
      · have unchanged : key ∈ (done ++ [entry]).map Prod.fst ↔ key ∈ done.map Prod.fst := by
          rw [map_append, mem_append, map_singleton, mem_singleton]
          exact or_iff_left same
        simp [update_of_ne same, decide_eq_decide.mpr unchanged]

def outputTokens (delta : StateDelta) : List (Bytes32 × Bytes) :=
  delta.outputs.map fun output => (output.tokenID, output.tokenData)

def outputMarkers (delta : StateDelta) : List (Bytes32 × Bytes32) :=
  delta.outputs.map fun output => (output.snMarker, output.tokenID)

-- Everything an applied call did to the storage. A setup delta has no references, outputs or metadata,
-- so the same equations describe both kinds of delta.
structure Applied (chain : Chain) (state : TokenState) (delta : StateDelta) (next : TokenState) : Prop where
  fresh : state.processedAnchor delta.anchor = false
  anchors : next.processedAnchor = update state.processedAnchor delta.anchor true
  hashes : next.tokenRequestHashes = update state.tokenRequestHashes delta.anchor delta.tokenRequestHash
  mode : next.graphHiding = state.graphHiding
  keysOnce : delta.metadataKeys.Nodup
  keysFree : ∀ key ∈ delta.metadataKeys, state.metadataExists key = false
  keys : next.metadataExists = fun key => state.metadataExists key || decide (key ∈ delta.metadataKeys)
  values : next.transferMetadata = writeAll state.transferMetadata (delta.metadataKeys.zip delta.metadataVals)
  aligned : (delta.metadataKeys.zip delta.metadataVals).map Prod.fst = delta.metadataKeys
  version : next.publicParamsVersion.toNat = state.publicParamsVersion.toNat + if delta.isSetup then 1 else 0
  params : next.publicParameters = if delta.isSetup then delta.setupParameters else state.publicParameters
  paramsHash : next.publicParamsHash = if delta.isSetup then chain.sha256 delta.setupParameters else state.publicParamsHash
  refsOnce : delta.spentRefs.Nodup
  serials : state.graphHiding = true → (∀ ref ∈ delta.spentRefs, state.serialUsed ref = false) ∧
    next.serialUsed = (fun ref => state.serialUsed ref || decide (ref ∈ delta.spentRefs)) ∧
    next.tokens = writeAll state.tokens (outputTokens delta)
  markers : state.graphHiding = false → (∀ ref ∈ delta.spentRefs, state.markerToken ref ≠ 0) ∧
    next.markerToken = writeAll (fun ref => if ref ∈ delta.spentRefs then 0 else state.markerToken ref) (outputMarkers delta) ∧
    next.tokens = writeAll (fun id => if id ∈ delta.spentRefs.map state.markerToken then [] else state.tokens id)
      (outputTokens delta)

theorem apply_transfer_applied
    (fresh : state.processedAnchor delta.anchor = false) (lengths : delta.metadataKeys.length = delta.metadataVals.length)
    (transfer : delta.isSetup = false) (moved : applyTransfer state delta = .ok next) :
    Applied chain state delta { next with
      tokenRequestHashes := update next.tokenRequestHashes delta.anchor delta.tokenRequestHash
      processedAnchor := update next.processedAnchor delta.anchor true } := by
  simp only [applyTransfer, ok_iff, exists_const] at moved
  obtain ⟨_, middle, spent, stored⟩ := moved
  have aligned : (delta.metadataKeys.zip delta.metadataVals).map Prod.fst = delta.metadataKeys :=
    map_fst_zip (le_of_eq lengths)
  obtain ⟨once, free, rfl⟩ := store_metadata_ok stored
  rw [store_outputs_eq] at free ⊢
  have freeKeys : ∀ key ∈ delta.metadataKeys, middle.metadataExists key = false := by
    intro key mem
    rw [← aligned] at mem
    obtain ⟨entry, memEntry, rfl⟩ := mem_map.mp mem
    exact free entry memEntry
  rw [aligned] at once
  unfold spendRefs at spent
  cases mode : state.graphHiding with
  | true =>
    rw [if_pos mode] at spent
    obtain ⟨refsOnce, unused, rfl⟩ := spend_serials_ok spent
    exact { fresh, keysOnce := once, keysFree := freeKeys, aligned, refsOnce
            anchors := rfl, hashes := rfl, mode := rfl, keys := by simp only [aligned], values := rfl
            version := by simp [transfer], params := by simp [transfer], paramsHash := by simp [transfer]
            serials := fun _ => ⟨unused, rfl, rfl⟩
            markers := fun revealing => by rw [mode] at revealing; cases revealing }
  | false =>
    rw [if_neg (by rw [mode]; decide)] at spent
    obtain ⟨refsOnce, live, rfl⟩ := spend_markers_ok spent
    exact { fresh, keysOnce := once, keysFree := freeKeys, aligned, refsOnce
            anchors := rfl, hashes := rfl, mode := rfl, keys := by simp only [aligned], values := rfl
            version := by simp [transfer], params := by simp [transfer], paramsHash := by simp [transfer]
            serials := fun hides => by rw [mode] at hides; cases hides
            markers := fun _ => ⟨live, by simp [mode, outputMarkers], rfl⟩ }

theorem apply_setup_applied (fresh : state.processedAnchor delta.anchor = false) (setup : delta.isSetup = true)
    (moved : applySetup chain state delta = .ok next) :
    Applied chain state delta { next with
      tokenRequestHashes := update next.tokenRequestHashes delta.anchor delta.tokenRequestHash
      processedAnchor := update next.processedAnchor delta.anchor true } := by
  simp only [applySetup, ok_iff, exists_const] at moved
  obtain ⟨⟨refs, outputs, keys, _⟩, room, rfl⟩ := moved
  have bumped : (state.publicParamsVersion + 1).toNat = state.publicParamsVersion.toNat + 1 := by
    exact Nat.mod_eq_of_lt room
  exact { fresh, anchors := rfl, hashes := rfl, mode := rfl
          keysOnce := by simp [keys], keysFree := by simp [keys], keys := by simp [keys], values := by simp [keys, writeAll]
          aligned := by simp [keys], version := by simp [setup, bumped], params := by simp [setup], paramsHash := by simp [setup]
          refsOnce := by simp [refs]
          serials := fun _ => ⟨by simp [refs], by simp [refs], by simp [outputTokens, outputs, writeAll]⟩
          markers := fun _ => ⟨by simp [refs], by simp [refs, outputMarkers, outputs, writeAll],
            by simp [refs, outputTokens, outputs, writeAll]⟩ }

theorem apply_state_delta_applied {call : Call}
    (moved : applyStateDelta chain state call = .ok next) : Applied chain state call.delta next := by
  simp only [applyStateDelta, ok_iff, exists_const] at moved
  obtain ⟨_, fresh, lengths, accepted, _, _, _, middle, applied, rfl⟩ := moved
  cases kind : call.delta.isSetup with
  | true =>
    rw [if_pos kind] at applied
    exact apply_setup_applied fresh kind applied
  | false =>
    rw [if_neg (by rw [kind]; decide)] at applied
    exact apply_transfer_applied fresh lengths kind applied

end Panurus.Evm
