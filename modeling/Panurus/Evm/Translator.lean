import Panurus.Rws.Unspent
import Panurus.Evm.TokenState

namespace Panurus.Evm

open Lib Outcome Rws

def maxDeltaEntries : Nat := 4096
def maxFieldBytes : Nat := 2 ^ 20

def checkEntries (what : String) (count : Nat) : Outcome Unit :=
  ensure (count ≤ maxDeltaEntries) s!"too many {what}: {count} exceeds the {maxDeltaEntries} limit"

def checkField (what : String) (field : Bytes) : Outcome Unit :=
  ensure (field.length ≤ maxFieldBytes) s!"{what} too large: {field.length} bytes exceeds the {maxFieldBytes} limit"

-- Arrays of 32 octets compare as the numbers they stand for.
def ascendingFrom : Nat → List Bytes32 → Outcome Unit
  | index, previous :: key :: rest => do
    ensure (previous.toNat < key.toNat) s!"metadata keys must be strictly ascending (canonical order), violated at index {index}"
    ascendingFrom (index + 1) (key :: rest)
  | _, _ => .ok ()

def StateDelta.validate (d : StateDelta) : Outcome Unit := do
  checkEntries "spent refs" d.spentRefs.length
  checkEntries "outputs" d.outputs.length
  checkEach (fun i output => checkField s!"output {i} token data" output.tokenData) 0 d.outputs
  checkEntries "metadata entries" d.metadataKeys.length
  checkEntries "metadata entries" d.metadataVals.length
  checkEach (fun i val => checkField s!"metadata value {i}" val) 0 d.metadataVals
  checkField "setup parameters" d.setupParameters
  ensure (d.metadataKeys.length = d.metadataVals.length)
    s!"metadata keys/values length mismatch: {d.metadataKeys.length} != {d.metadataVals.length}"
  ascendingFrom 1 d.metadataKeys
  if d.isSetup then do
    ensure (d.spentRefs = [] ∧ d.outputs = [] ∧ d.metadataKeys = [])
      "setup delta must carry no spent refs, outputs, or metadata"
    ensure (d.setupParameters ≠ []) "setup delta must carry the new public parameters"
  else ensure (d.setupParameters = []) "non-setup delta must not carry setup parameters"

structure Translator where
  anchor : Bytes32
  pp : Bytes
  ppVersion : UInt64
  counter : UInt64
  spentRefs : List Bytes32
  outputs : List OutputToken
  metadata : List (Bytes32 × Bytes)
  isSetup : Bool
  setupParameters : Bytes
  tokenRequestHash : Option Bytes32
  publicParamsHash : Option Bytes32

def Translator.new (anchor : Bytes32) (publicParams : Bytes) (publicParamsVersion : UInt64) : Translator :=
  { anchor
    pp := publicParams
    ppVersion := publicParamsVersion
    counter := 0
    spentRefs := []
    outputs := []
    metadata := []
    isSetup := false
    setupParameters := []
    tokenRequestHash := none
    publicParamsHash := none }

namespace Translator

variable (keccak256 : Hash)

def appendOutput (t : Translator) (index : UInt64) (output : Bytes) (graphHiding : Bool) : Translator :=
  { t with outputs := t.outputs ++ [{
      tokenID := computeTokenID keccak256 t.anchor index
      snMarker := if graphHiding then 0 else outputSNMarker keccak256 t.anchor index output
      tokenData := output }] }

def spentRefOf (i : Nat) (entry : TokenID × Bytes) : Outcome Bytes32 := do
  let inputAnchor ← wrap s!"invalid input anchor at index {i}" (anchorFromTxID entry.1.txId)
  return outputSNMarker keccak256 inputAnchor entry.1.index entry.2

def appendSpentRefs (t : Translator) (action : ActionWithInputs) : Outcome Translator := do
  let serials := action.serialNumbers.map (spentRefForSerial keccak256)
  let serialized ← wrap "failed to get serialized inputs" action.serializedInputs
  ensure (serialized.length = action.inputs.length)
    s!"inputs and serialized inputs length mismatch: {action.inputs.length} != {serialized.length}"
  let refs ← (action.inputs.zip serialized).zipIdx.mapM fun entry => spentRefOf keccak256 entry.2 entry.1
  return { t with spentRefs := t.spentRefs ++ serials ++ refs }

def appendMetadata (metadataKey : Hash) (t : Translator) (metadata : Entries) : Translator :=
  { t with metadata := t.metadata ++ metadata.map fun entry => (metadataKey entry.1, entry.2) }

def requireNotSetup (t : Translator) : Outcome Unit :=
  ensure (t.isSetup = false) "setup action cannot be mixed with issue or transfer actions"

def writeIssue (t : Translator) (action : IssueAction) : Outcome Translator := do
  t.requireNotSetup
  let outputs ← wrap "failed to get issue outputs" action.serializedOutputs
  let written := outputs.zipIdx.foldl (fun t entry =>
    t.appendOutput keccak256 (t.counter + UInt64.ofNat entry.2) entry.1 action.isGraphHiding) t
  let counted := { written with counter := written.counter + UInt64.ofNat outputs.length }
  let spent ← counted.appendSpentRefs keccak256 action.toActionWithInputs
  return spent.appendMetadata (issueMetadataKey keccak256) action.metadata

def writeTransferOutput (graphHiding : Bool) (i : Nat) (t : Translator) (output : TransferOutput) : Outcome Translator :=
  if output.isRedeem then .ok t else do
    let serialized ← wrap s!"failed to serialize transfer output at index {i}" output.serialized
    return t.appendOutput keccak256 (t.counter + UInt64.ofNat i) serialized graphHiding

def writeTransfer (t : Translator) (action : TransferAction) : Outcome Translator := do
  t.requireNotSetup
  let written ← foldEach (writeTransferOutput keccak256 action.isGraphHiding) 0 t action.outputs
  let counted := { written with counter := written.counter + UInt64.ofNat action.outputs.length }
  let spent ← counted.appendSpentRefs keccak256 action.toActionWithInputs
  return spent.appendMetadata (transferMetadataKey keccak256) action.metadata

def writeSetup (t : Translator) (parameters : Outcome Bytes) : Outcome Translator := do
  ensure (t.isSetup = false) "duplicate setup action in one request"
  ensure (t.outputs = [] ∧ t.spentRefs = [] ∧ t.metadata = []) "setup action cannot be mixed with issue or transfer actions"
  let raw ← wrap "failed to get setup parameters" parameters
  ensure (raw ≠ []) "setup action carries empty public parameters"
  return { t with isSetup := true, setupParameters := raw }

def write (t : Translator) (action : Action) : Outcome Translator :=
  match action with
  | .issue action => t.writeIssue keccak256 action
  | .transfer action => t.writeTransfer keccak256 action
  | .setup parameters => t.writeSetup parameters
  | .unknown type => .error s!"unsupported action type {type}"

variable (sha256 : Hash)

def addPublicParamsDependency (t : Translator) : Outcome Translator := do
  ensure (t.pp ≠ []) "no public parameters set"
  return { t with publicParamsHash := some (sha256 t.pp) }

def addSetupBaseline (t : Translator) : Translator := { t with publicParamsHash := some (sha256 t.pp) }

def commitTokenRequest (t : Translator) (raw : Bytes) (storeHash : Bool) : Outcome (Translator × Bytes32) := do
  ensure (raw ≠ []) "empty token request"
  let h := sha256 raw
  return (if storeHash then { t with tokenRequestHash := some h } else t, h)

-- How equal keys are sorted does not matter: the validation refuses them.
def sortMetadata (metadata : List (Bytes32 × Bytes)) : List (Bytes32 × Bytes) :=
  metadata.mergeSort fun entry other => entry.1.toNat ≤ other.1.toNat

def stateDelta (t : Translator) : Outcome StateDelta := do
  let publicParamsHash ← required t.publicParamsHash "incomplete translation: AddPublicParamsDependency has not run"
  let tokenRequestHash ← required t.tokenRequestHash "incomplete translation: CommitTokenRequest has not run"
  let metadata := sortMetadata t.metadata
  let d : StateDelta :=
    { anchor := t.anchor
      spentRefs := t.spentRefs
      outputs := t.outputs
      metadataKeys := metadata.map Prod.fst
      metadataVals := metadata.map Prod.snd
      tokenRequestHash
      publicParamsHash
      publicParamsVersion := t.ppVersion
      isSetup := t.isSetup
      setupParameters := t.setupParameters }
  wrap "translated delta is invalid" d.validate
  return d

end Translator

open Translator

def buildDelta (keccak256 sha256 : Hash) (txID : Bytes) (ppRaw : Bytes) (ppVersion : UInt64) (actions : List Action)
    (tokenRequestToSign : Bytes) : Outcome StateDelta := do
  let anchor ← wrap s!"invalid anchor [{Text.render txID}]" (anchorFromTxID txID)
  let t ← foldEach (fun i t action => wrap s!"failed to translate action {i}" (write keccak256 t action)) 0
    (new anchor ppRaw ppVersion) actions
  let t ← wrap "failed to add public parameters dependency" (t.addPublicParamsDependency sha256)
  let (t, _) ← wrap "failed to commit token request" (t.commitTokenRequest sha256 tokenRequestToSign true)
  t.stateDelta

open List

def Anchored (txID : Bytes) : Prop := ∃ anchor, anchorFromTxID txID = .ok anchor

def anchorOf (txID : Bytes) : Bytes32 := (anchorFromTxID txID).toOption.getD 0

variable {txID : Bytes}

theorem anchored_length (anchored : Anchored txID) : txID.length = 64 := by
  obtain ⟨anchor, decoded⟩ := anchored
  simp only [anchorFromTxID, ok_iff, exists_const] at decoded
  obtain ⟨octets, read, size, _⟩ := decoded
  rw [Text.decode_hex_length read, size, anchorLength]

theorem anchor_from_tx_id_ok (anchored : Anchored txID) : anchorFromTxID txID = .ok (anchorOf txID) := by
  obtain ⟨anchor, decoded⟩ := anchored
  rw [anchorOf, decoded]
  rfl

section Writing

variable (keccak256 : Hash)

def outputToken (anchor : Bytes32) (graphHiding : Bool) (entry : TokenID × Bytes) : OutputToken :=
  { tokenID := computeTokenID keccak256 anchor entry.1.index
    snMarker := if graphHiding then 0 else outputSNMarker keccak256 anchor entry.1.index entry.2
    tokenData := entry.2 }

def markerOf (entry : TokenID × Bytes) : Bytes32 := outputSNMarker keccak256 (anchorOf entry.1.txId) entry.1.index entry.2

def Translator.extended (t : Translator) (outputs : List OutputToken) (spentRefs : List Bytes32)
    (metadata : List (Bytes32 × Bytes)) (count : Nat) : Translator :=
  { t with
    outputs := t.outputs ++ outputs
    spentRefs := t.spentRefs ++ spentRefs
    metadata := t.metadata ++ metadata
    counter := t.counter + UInt64.ofNat count }

def OutputsReadable (outputs : List TransferOutput) : Prop :=
  ∀ output ∈ outputs, output.isRedeem = false → ∃ raw, output.serialized = .ok raw

structure InputsReadable (action : ActionWithInputs) : Prop where
  serialized : ∃ raws, action.serializedInputs = .ok raws ∧ raws.length = action.inputs.length
  anchored : ∀ id ∈ action.inputs, Anchored id.txId

variable {keccak256} {t next : Translator} {graphHiding : Bool} {i : Nat}

theorem write_transfer_output_ok_iff {output : TransferOutput} (txID : Bytes) :
    writeTransferOutput keccak256 graphHiding i t output = .ok next ↔
      (output.isRedeem = false → ∃ raw, output.serialized = .ok raw) ∧
      next = { t with outputs := t.outputs ++
        (storedOutput txID t.counter (output, i)).map (outputToken keccak256 t.anchor graphHiding) } := by
  obtain ⟨isRedeem, serialized⟩ := output
  cases isRedeem with
  | true =>
    simp only [writeTransferOutput, if_true, storedOutput, map_nil, append_nil, Except.ok.injEq,
      Bool.true_eq_false, false_implies, true_and]
    exact eq_comm
  | false =>
    simp only [writeTransferOutput, Bool.false_eq_true, if_false, storedOutput, ok_iff, true_implies]
    constructor
    · rintro ⟨raw, rfl, rfl⟩
      exact ⟨⟨raw, rfl⟩, rfl⟩
    · rintro ⟨⟨raw, rfl⟩, rfl⟩
      exact ⟨raw, rfl, rfl⟩

theorem write_transfer_outputs_ok_iff {outputs : List TransferOutput} (txID : Bytes) :
    foldEach (writeTransferOutput keccak256 graphHiding) 0 t outputs = .ok next ↔
      OutputsReadable outputs ∧ next = { t with outputs := t.outputs ++
        (storedOutputs txID t.counter outputs).map (outputToken keccak256 t.anchor graphHiding) } := by
  have general : ∀ (start : Nat) (t : Translator),
      foldEach (writeTransferOutput keccak256 graphHiding) start t outputs = .ok next ↔
        OutputsReadable outputs ∧ next = { t with outputs := t.outputs ++
          ((outputs.zipIdx start).flatMap (storedOutput txID t.counter)).map (outputToken keccak256 t.anchor graphHiding) } := by
    induction outputs with
    | nil =>
      intro start t
      simp only [foldEach, OutputsReadable, zipIdx_nil, flatMap_nil, map_nil, append_nil,
        Except.ok.injEq, not_mem_nil, false_implies, implies_true, true_and]
      exact eq_comm
    | cons output rest ih =>
      intro start t
      rw [foldEach, bind_ok_iff]
      simp only [write_transfer_output_ok_iff txID, ih, OutputsReadable, forall_mem_cons]
      constructor
      · rintro ⟨middle, ⟨here, rfl⟩, later, rfl⟩
        exact ⟨⟨here, later⟩, by simp [append_assoc]⟩
      · rintro ⟨⟨here, later⟩, rfl⟩
        exact ⟨_, ⟨here, rfl⟩, later, by simp [append_assoc]⟩
  exact general 0 t

theorem spent_ref_ok_iff {entry : TokenID × Bytes} {ref : Bytes32} :
    spentRefOf keccak256 i entry = .ok ref ↔ Anchored entry.1.txId ∧ ref = markerOf keccak256 entry := by
  simp only [spentRefOf, ok_iff]
  constructor
  · rintro ⟨anchor, decoded, rfl⟩
    refine ⟨⟨anchor, decoded⟩, ?_⟩
    rw [markerOf, anchorOf, decoded]
    rfl
  · rintro ⟨anchored, rfl⟩
    exact ⟨_, anchor_from_tx_id_ok anchored, rfl⟩

theorem spent_refs_ok_iff {entries : List (TokenID × Bytes)} {refs : List Bytes32} (start : Nat) :
    (entries.zipIdx start).mapM (fun entry => spentRefOf keccak256 entry.2 entry.1) = .ok refs ↔
      (∀ entry ∈ entries, Anchored entry.1.txId) ∧ refs = entries.map (markerOf keccak256) := by
  induction entries generalizing start refs with
  | nil => simp [mapM_nil, pure_ok_iff, eq_comm (b := refs)]
  | cons entry rest ih =>
    rw [zipIdx_cons, mapM_cons]
    simp only [ok_iff, ih, spent_ref_ok_iff, forall_mem_cons, map_cons]
    constructor
    · rintro ⟨_, ⟨here, rfl⟩, _, ⟨later, rfl⟩, rfl⟩
      exact ⟨⟨here, later⟩, rfl⟩
    · rintro ⟨⟨here, later⟩, rfl⟩
      exact ⟨_, ⟨here, rfl⟩, _, ⟨later, rfl⟩, rfl⟩

theorem append_spent_refs_ok_iff {action : ActionWithInputs} :
    t.appendSpentRefs keccak256 action = .ok next ↔ InputsReadable action ∧
      next = { t with spentRefs := t.spentRefs ++ (action.serialNumbers.map (spentRefForSerial keccak256) ++
        action.spent.map (markerOf keccak256)) } := by
  simp only [appendSpentRefs, ok_iff, exists_const, spent_refs_ok_iff]
  constructor
  · rintro ⟨raws, read, same, refs, ⟨anchored, rfl⟩, rfl⟩
    refine ⟨⟨⟨raws, read, same⟩, ?_⟩, by rw [ActionWithInputs.spent, read, append_assoc]⟩
    intro id mem
    have listed : (action.inputs.zip raws).map Prod.fst = action.inputs := map_fst_zip (Nat.le_of_eq same.symm)
    rw [← listed] at mem
    obtain ⟨entry, inside, rfl⟩ := mem_map.mp mem
    exact anchored entry inside
  · rintro ⟨⟨⟨raws, read, same⟩, anchored⟩, rfl⟩
    refine ⟨raws, read, same, _, ⟨?_, rfl⟩, by rw [ActionWithInputs.spent, read, append_assoc]⟩
    intro entry mem
    exact anchored entry.1 (of_mem_zip mem).1

theorem write_parts_ok_iff (txID : Bytes) (action : ActionWithInputs) (outputs : List TransferOutput) (graphHiding : Bool)
    (metadataKey : Hash) (metadata : Entries) :
    (do
      let written ← foldEach (writeTransferOutput keccak256 graphHiding) 0 t outputs
      let spent ← ({ written with counter := written.counter + UInt64.ofNat outputs.length } : Translator).appendSpentRefs
        keccak256 action
      return spent.appendMetadata metadataKey metadata) = .ok next ↔
      OutputsReadable outputs ∧ InputsReadable action ∧
      next = t.extended ((storedOutputs txID t.counter outputs).map (outputToken keccak256 t.anchor graphHiding))
        (action.serialNumbers.map (spentRefForSerial keccak256) ++ action.spent.map (markerOf keccak256))
        (metadata.map fun entry => (metadataKey entry.1, entry.2)) outputs.length := by
  simp only [ok_iff, write_transfer_outputs_ok_iff txID, append_spent_refs_ok_iff]
  constructor
  · rintro ⟨_, ⟨readable, rfl⟩, _, ⟨inputs, rfl⟩, rfl⟩
    exact ⟨readable, inputs, rfl⟩
  · rintro ⟨readable, inputs, rfl⟩
    exact ⟨_, ⟨readable, rfl⟩, _, ⟨inputs, rfl⟩, rfl⟩

theorem write_transfer_ok_iff {action : TransferAction} (txID : Bytes) :
    t.writeTransfer keccak256 action = .ok next ↔ t.isSetup = false ∧ OutputsReadable action.outputs ∧
      InputsReadable action.toActionWithInputs ∧
      next = t.extended ((storedOutputs txID t.counter action.outputs).map (outputToken keccak256 t.anchor action.isGraphHiding))
        (action.serialNumbers.map (spentRefForSerial keccak256) ++ action.toActionWithInputs.spent.map (markerOf keccak256))
        (action.metadata.map fun entry => (transferMetadataKey keccak256 entry.1, entry.2)) action.outputs.length := by
  rw [writeTransfer, bind_ok_iff]
  simp only [requireNotSetup, ensure_ok_iff, exists_const]
  exact and_congr_right fun _ => write_parts_ok_iff txID _ _ _ _ _

theorem issue_outputs_eq (raws : List Bytes) (start : Nat) (t : Translator) :
    foldEach (writeTransferOutput keccak256 graphHiding) start t (raws.map issuedOutput) =
      .ok ((raws.zipIdx start).foldl (fun t entry =>
        t.appendOutput keccak256 (t.counter + UInt64.ofNat entry.2) entry.1 graphHiding) t) := by
  induction raws generalizing start t with
  | nil => rfl
  | cons raw rest ih =>
    rw [zipIdx_cons, foldl_cons, ← ih]
    rfl

theorem write_issue_ok_iff {action : IssueAction} (txID : Bytes) :
    t.writeIssue keccak256 action = .ok next ↔ t.isSetup = false ∧ (∃ raws, action.serializedOutputs = .ok raws) ∧
      InputsReadable action.toActionWithInputs ∧ next = t.extended
        ((storedOutputs txID t.counter (Action.issue action).outputs).map (outputToken keccak256 t.anchor action.isGraphHiding))
        (action.serialNumbers.map (spentRefForSerial keccak256) ++ action.toActionWithInputs.spent.map (markerOf keccak256))
        (action.metadata.map fun entry => (issueMetadataKey keccak256 entry.1, entry.2))
        (Action.issue action).outputs.length := by
  rw [writeIssue, bind_ok_iff]
  simp only [requireNotSetup, ensure_ok_iff, exists_const]
  refine and_congr_right fun _ => ?_
  cases read : action.serializedOutputs with
  | error cause => simp [bind_ok_iff]
  | ok raws =>
    have parts := @write_parts_ok_iff keccak256 t next txID action.toActionWithInputs (raws.map issuedOutput)
      action.isGraphHiding (issueMetadataKey keccak256) action.metadata
    rw [issue_outputs_eq, length_map] at parts
    have readable : OutputsReadable (raws.map issuedOutput) := by
      intro output mem _
      obtain ⟨raw, _, rfl⟩ := mem_map.mp mem
      exact ⟨raw, rfl⟩
    refine Iff.trans parts ?_
    simp [Action.outputs, read, readable]

end Writing

def Revealing (action : Action) : Prop := action.GraphRevealing ∧ action.serialNumbers = []

def Readable : Action → Prop
  | .issue action => (∃ raws, action.serializedOutputs = .ok raws) ∧ InputsReadable action.toActionWithInputs
  | .transfer action => OutputsReadable action.outputs ∧ InputsReadable action.toActionWithInputs
  | _ => False

section Metadata

variable (keccak256 : Hash)

def metadataDomain : MetadataKind → UInt8
  | .issue => domainIssueMetadata
  | .transfer => domainTransferMetadata

def metadataInput (entry : MetadataEntry) : Bytes := [metadataDomain entry.kind] ++ entry.key

def metadataPair (entry : MetadataEntry) : Bytes32 × Bytes := (keccak256 (metadataInput entry), entry.value)

theorem metadata_input_injective {entry other : MetadataEntry} (same : metadataInput entry = metadataInput other) :
    entry.kind = other.kind ∧ entry.key = other.key := by
  have domains : ∀ kind other : MetadataKind, metadataDomain kind = metadataDomain other → kind = other := by
    intro kind other same
    cases kind <;> cases other <;> first | rfl | exact absurd same (by decide)
  obtain ⟨first, keys⟩ := cons.inj same
  exact ⟨domains _ _ first, keys⟩

end Metadata

section Run

variable {keccak256 : Hash} {t next : Translator}

theorem write_ok_iff {action : Action} (revealing : Revealing action) (txID : Bytes) :
    t.write keccak256 action = .ok next ↔ t.isSetup = false ∧ Readable action ∧
      next = t.extended ((storedOutputs txID t.counter action.outputs).map (outputToken keccak256 t.anchor false))
        (action.spent.map (markerOf keccak256)) (action.metadata.map (metadataPair keccak256)) action.outputs.length := by
  obtain ⟨shown, serials⟩ := revealing
  cases action with
  | issue action =>
    have open_ : action.isGraphHiding = false := shown
    have none : action.serialNumbers = [] := serials
    simp only [Translator.write, write_issue_ok_iff txID, open_, none, Readable, Action.spent, Action.metadata, map_nil,
      nil_append, map_map, and_assoc]
    rfl
  | transfer action =>
    have open_ : action.isGraphHiding = false := shown
    have none : action.serialNumbers = [] := serials
    simp only [Translator.write, write_transfer_ok_iff txID, open_, none, Readable, Action.spent, Action.metadata, map_nil,
      nil_append, map_map, and_assoc]
    rfl
  | setup parameters | unknown type => exact absurd shown id

theorem extended_extended (t : Translator) (outputs more : List OutputToken) (refs others : List Bytes32)
    (metadata entries : List (Bytes32 × Bytes)) (count extra : Nat) :
    (t.extended outputs refs metadata count).extended more others entries extra =
      t.extended (outputs ++ more) (refs ++ others) (metadata ++ entries) (count + extra) := by
  simp [extended, UInt64.add_assoc]

theorem write_all_ok_iff {actions : List Action} (revealing : ∀ action ∈ actions, Revealing action) (txID : Bytes)
    (start : Nat) (plain : t.isSetup = false) :
    foldEach (fun i t action => wrap s!"failed to translate action {i}" (write keccak256 t action)) start t actions =
        .ok next ↔
      (∀ action ∈ actions, Readable action) ∧
      next = t.extended ((storedFrom txID t.counter actions).map (outputToken keccak256 t.anchor false))
        ((actions.flatMap Action.spent).map (markerOf keccak256))
        ((actions.flatMap Action.metadata).map (metadataPair keccak256)) (outputCount actions) := by
  induction actions generalizing start t with
  | nil =>
    have nothing : t.extended [] [] [] 0 = t := by simp [extended]
    simp only [foldEach, storedFrom, flatMap_nil, map_nil, outputCount, sum_nil, nothing, Except.ok.injEq,
      not_mem_nil, false_implies, implies_true, true_and]
    exact eq_comm
  | cons action rest ih =>
    obtain ⟨first, others⟩ := forall_mem_cons.mp revealing
    have counted : outputCount (action :: rest) = action.outputs.length + outputCount rest := by
      simp [outputCount]
    rw [foldEach, bind_ok_iff]
    simp only [wrap_ok_iff, write_ok_iff first txID, forall_mem_cons, storedFrom, flatMap_cons, map_append,
      counted, plain, true_and]
    constructor
    · rintro ⟨_, ⟨here, rfl⟩, done⟩
      obtain ⟨later, rfl⟩ := (ih (t := t.extended _ _ _ _) others _ plain).mp done
      exact ⟨⟨here, later⟩, extended_extended _ _ _ _ _ _ _ _ _⟩
    · rintro ⟨⟨here, later⟩, rfl⟩
      refine ⟨_, ⟨here, rfl⟩, (ih (t := t.extended _ _ _ _) others _ plain).mpr ⟨later, ?_⟩⟩
      exact (extended_extended _ _ _ _ _ _ _ _ _).symm

end Run

section Delta

variable (keccak256 sha256 : Hash)

def deltaOf (txID ppRaw : Bytes) (ppVersion : UInt64) (actions : List Action) (tokenRequestToSign : Bytes) : StateDelta :=
  let metadata := sortMetadata ((actions.flatMap Action.metadata).map (metadataPair keccak256))
  { anchor := anchorOf txID
    spentRefs := (actions.flatMap Action.spent).map (markerOf keccak256)
    outputs := (storedFrom txID 0 actions).map (outputToken keccak256 (anchorOf txID) false)
    metadataKeys := metadata.map Prod.fst
    metadataVals := metadata.map Prod.snd
    tokenRequestHash := sha256 tokenRequestToSign
    publicParamsHash := sha256 ppRaw
    publicParamsVersion := ppVersion
    isSetup := false
    setupParameters := [] }

variable {keccak256 sha256} {txID ppRaw : Bytes} {ppVersion : UInt64} {actions : List Action} {tokenRequestToSign : Bytes}

theorem build_delta_ok_iff {delta : StateDelta} (revealing : ∀ action ∈ actions, Revealing action) :
    buildDelta keccak256 sha256 txID ppRaw ppVersion actions tokenRequestToSign = .ok delta ↔
      Anchored txID ∧ (∀ action ∈ actions, Readable action) ∧ ppRaw ≠ [] ∧ tokenRequestToSign ≠ [] ∧
      (deltaOf keccak256 sha256 txID ppRaw ppVersion actions tokenRequestToSign).validate = .ok () ∧
      delta = deltaOf keccak256 sha256 txID ppRaw ppVersion actions tokenRequestToSign := by
  simp only [buildDelta, ok_iff]
  constructor
  · rintro ⟨anchor, decoded, t, written, depending, added, ⟨committed, hash⟩, request, finished⟩
    obtain ⟨readable, rfl⟩ := (write_all_ok_iff revealing txID 0 rfl).mp written
    simp only [addPublicParamsDependency, ok_iff, exists_const] at added
    obtain ⟨present, rfl⟩ := added
    simp only [commitTokenRequest, ok_iff, exists_const, if_true, Prod.mk.injEq] at request
    obtain ⟨nonempty, rfl, rfl⟩ := request
    simp only [stateDelta, ok_iff, Option.some.injEq, exists_eq_left'] at finished
    obtain ⟨⟨⟩, valid, rfl⟩ := finished
    have anchors : anchor = anchorOf txID := by rw [anchorOf, decoded]; rfl
    subst anchors
    exact ⟨⟨_, decoded⟩, readable, present, nonempty, valid, rfl⟩
  · rintro ⟨anchored, readable, present, nonempty, valid, rfl⟩
    refine ⟨_, anchor_from_tx_id_ok anchored, _, (write_all_ok_iff revealing txID 0 rfl).mpr ⟨readable, rfl⟩, ?_⟩
    simp only [addPublicParamsDependency, commitTokenRequest, stateDelta, ok_iff, exists_const]
    exact ⟨_, ⟨present, rfl⟩, _, ⟨nonempty, rfl⟩, _, rfl, _, rfl, (), valid, rfl⟩

end Delta

section Validation

variable {keccak256 sha256 : Hash} {txID ppRaw : Bytes} {ppVersion : UInt64} {actions : List Action}
  {tokenRequestToSign : Bytes}

theorem ascending_ok_iff {start : Nat} {keys : List Bytes32} {done : Unit} :
    ascendingFrom start keys = .ok done ↔ keys.Pairwise fun key later => key.toNat < later.toNat := by
  rw [← isChain_iff_pairwise]
  induction keys generalizing start with
  | nil => simp [ascendingFrom]
  | cons key rest ih =>
    cases rest with
    | nil => simp [ascendingFrom]
    | cons next rest =>
      rw [ascendingFrom, bind_ok_iff, isChain_cons_cons]
      simp [ih]

theorem sort_metadata_pairwise (metadata : List (Bytes32 × Bytes)) :
    (sortMetadata metadata).Pairwise fun entry later => entry.1.toNat ≤ later.1.toNat := by
  have transitive : ∀ a b c : Bytes32 × Bytes, decide (a.1.toNat ≤ b.1.toNat) = true → decide (b.1.toNat ≤ c.1.toNat) = true →
      decide (a.1.toNat ≤ c.1.toNat) = true := by
    intro a b c first second
    simp only [decide_eq_true_eq] at first second ⊢
    exact Nat.le_trans first second
  have total : ∀ a b : Bytes32 × Bytes, (decide (a.1.toNat ≤ b.1.toNat) || decide (b.1.toNat ≤ a.1.toNat)) = true := by
    intro a b
    simpa using Nat.le_total a.1.toNat b.1.toNat
  exact (pairwise_mergeSort transitive total metadata).imp of_decide_eq_true

theorem sorted_ascending_iff (metadata : List (Bytes32 × Bytes)) :
    ((sortMetadata metadata).map Prod.fst).Pairwise (fun key later => key.toNat < later.toNat) ↔
      (metadata.map Prod.fst).Nodup := by
  have sorted : ((sortMetadata metadata).map Prod.fst).Pairwise fun key later => key.toNat ≤ later.toNat :=
    pairwise_map.mpr (sort_metadata_pairwise metadata)
  have same : ((sortMetadata metadata).map Prod.fst).Perm (metadata.map Prod.fst) :=
    (mergeSort_perm _ _).map _
  rw [← same.nodup_iff]
  constructor
  · exact List.Pairwise.imp fun less equal => absurd (congrArg BitVec.toNat equal) (Nat.ne_of_lt less)
  · intro distinct
    refine (sorted.and distinct).imp fun both => Nat.lt_of_le_of_ne both.1 fun equal => ?_
    exact both.2 (BitVec.eq_of_toNat_eq equal)

structure WithinLimits (keccak256 : Hash) (txID : Bytes) (actions : List Action) : Prop where
  spent : (actions.flatMap Action.spent).length ≤ maxDeltaEntries
  outputs : (storedFrom txID 0 actions).length ≤ maxDeltaEntries
  outputSizes : ∀ entry ∈ storedFrom txID 0 actions, entry.2.length ≤ maxFieldBytes
  metadata : (actions.flatMap Action.metadata).length ≤ maxDeltaEntries
  metadataSizes : ∀ entry ∈ actions.flatMap Action.metadata, entry.value.length ≤ maxFieldBytes
  metadataKeys : ((actions.flatMap Action.metadata).map fun entry => keccak256 (metadataInput entry)).Nodup

theorem check_field_ok_iff {what : String} {field : Bytes} {done : Unit} :
    checkField what field = .ok done ↔ field.length ≤ maxFieldBytes := ensure_ok_iff

theorem check_fields_ok_iff {α : Type} {name : Nat → String} {field : α → Bytes} {items : List α} {done : Unit} :
    checkEach (fun i item => checkField (name i) (field item)) 0 items = .ok done ↔
      ∀ item ∈ items, (field item).length ≤ maxFieldBytes := by
  cases done
  simp only [check_each_ok_iff, check_field_ok_iff, mem_iff_getElem?]
  exact ⟨fun all item ⟨i, found⟩ => all i item found, fun all i item found => all item ⟨i, found⟩⟩

theorem delta_valid_iff :
    (deltaOf keccak256 sha256 txID ppRaw ppVersion actions tokenRequestToSign).validate = .ok () ↔
      WithinLimits keccak256 txID actions := by
  let metadata := (actions.flatMap Action.metadata).map (metadataPair keccak256)
  have same : (sortMetadata metadata).Perm metadata := mergeSort_perm _ _
  have count : (sortMetadata metadata).length = (actions.flatMap Action.metadata).length := by
    rw [same.length_eq, length_map]
  have sizes : (∀ value ∈ (sortMetadata metadata).map Prod.snd, value.length ≤ maxFieldBytes) ↔
      ∀ entry ∈ actions.flatMap Action.metadata, entry.value.length ≤ maxFieldBytes := by
    simp only [forall_mem_map, same.mem_iff]
    exact forall_mem_map
  have keys : metadata.map Prod.fst = (actions.flatMap Action.metadata).map fun entry => keccak256 (metadataInput entry) := by
    rw [map_map]
    rfl
  simp only [StateDelta.validate, deltaOf, checkEntries, ok_iff, exists_const, check_fields_ok_iff, length_map,
    check_field_ok_iff, ascending_ok_iff, Bool.false_eq_true, if_false, length_nil, Nat.zero_le, true_and, and_true]
  rw [sorted_ascending_iff, keys, count, sizes, forall_mem_map]
  constructor
  · rintro ⟨spent, outputs, outputSizes, listed, _, metadataSizes, distinct⟩
    exact ⟨spent, outputs, outputSizes, listed, metadataSizes, distinct⟩
  · rintro ⟨spent, outputs, outputSizes, listed, metadataSizes, distinct⟩
    exact ⟨spent, outputs, outputSizes, listed, listed, metadataSizes, distinct⟩

end Validation

end Panurus.Evm
