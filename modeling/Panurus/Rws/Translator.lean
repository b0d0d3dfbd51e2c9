import Panurus.Lib.FixedWidth
import Panurus.Lib.Outcome
import Panurus.Lib.Text
import Panurus.Lib.Utf8

namespace Panurus.Rws

open List Lib Outcome Codec Text Lib.Utf8

abbrev Key := Bytes
abbrev Value := Bytes

def outputSNKeyPrefix : Bytes := ascii "osn"
def tokenSetupKeyPrefix : Bytes := ascii "se"
def tokenSetupHashKeyPrefix : Bytes := ascii "seh"
def tokenRequestKeyPrefix : Bytes := ascii "tr"
def inputSerialNumberPrefix : Bytes := ascii "sn"
def issueActionMetadataPrefix : Bytes := ascii "iam"
def transferActionMetadataPrefix : Bytes := ascii "tam"

def minUnicodeRune : Rune := .valid [0x00]
def maxUnicodeRune : Rune := .valid [0xF4, 0x8F, 0xBF, 0xBF]

def runeName (rune : Rune) : String := if rune = minUnicodeRune then "U+0000" else "U+10FFFF"

def checkRunes : Nat → List Rune → Outcome Unit
  | _, [] => .ok ()
  | position, rune :: rest => do
    ensure (rune ≠ minUnicodeRune ∧ rune ≠ maxUnicodeRune)
      s!"input contain unicode {runeName rune} starting at position [{position}]. U+0000 and U+10FFFF are not allowed in the input attribute of a composite key"
    checkRunes (position + rune.octets.length) rest

def validateCompositeKeyAttribute (att : Bytes) : Outcome Unit := do
  ensure (validString att) s!"not a valid utf8 string: [{render (hex att)}]"
  checkRunes 0 (scan att)

def validatedAttribute (att : Bytes) : Outcome Bytes := do
  validateCompositeKeyAttribute att
  return att ++ [0x00]

def createCompositeKey (objectType : Bytes) (attributes : List Bytes) : Outcome Key := do
  validateCompositeKeyAttribute objectType
  let written ← attributes.mapM validatedAttribute
  return [0x00] ++ objectType ++ [0x00] ++ written.flatten

def createTokenRequestKey (id : Bytes) : Outcome Key := createCompositeKey tokenRequestKeyPrefix [id]
def createSetupKey : Outcome Key := createCompositeKey tokenSetupKeyPrefix []
def createSetupHashKey : Outcome Key := createCompositeKey tokenSetupHashKeyPrefix []

def outputSNInput (id : Bytes) (index : UInt64) (output : Bytes) : Bytes :=
  outputSNKeyPrefix ++ id ++ FixedWidth.littleEndian 8 index.toNat ++ output

def createOutputSNKey (sha256 : Bytes → Bytes) (id : Bytes) (index : UInt64) (output : Bytes) : Outcome Key :=
  createCompositeKey outputSNKeyPrefix [hex (sha256 (outputSNInput id index output))]

def createOutputKey (id : Bytes) (index : UInt64) : Outcome Key := createCompositeKey id [decimal index.toNat]
def createInputSNKey (id : Bytes) : Outcome Key := createCompositeKey inputSerialNumberPrefix [id]
def createIssueActionMetadataKey (key : Bytes) : Outcome Key := createCompositeKey issueActionMetadataPrefix [key]
def createTransferActionMetadataKey (key : Bytes) : Outcome Key := createCompositeKey transferActionMetadataPrefix [key]

def compositeKey (objectType : Bytes) (attributes : List Bytes) : Key :=
  0x00 :: (objectType ++ [0x00] ++ attributes.flatMap fun att => att ++ [0x00])

theorem check_runes_no_nul {position : Nat} {runes : List Rune} (passed : checkRunes position runes = .ok ()) :
    minUnicodeRune ∉ runes := by
  induction runes generalizing position with
  | nil => exact not_mem_nil
  | cons rune rest ih =>
    simp only [checkRunes, ok_iff] at passed
    obtain ⟨_, allowed, later⟩ := passed
    rw [mem_cons, not_or]
    exact ⟨fun same => allowed.1 same.symm, ih later⟩

theorem attribute_no_nul {att : Bytes} (passed : validateCompositeKeyAttribute att = .ok ()) : 0x00 ∉ att := by
  simp only [validateCompositeKeyAttribute, ok_iff] at passed
  obtain ⟨_, valid, checked⟩ := passed
  intro mem
  exact check_runes_no_nul checked (ascii_rune_of_mem valid mem (by decide))

theorem create_composite_key_ok {objectType : Bytes} {attributes : List Bytes} {key : Key}
    (made : createCompositeKey objectType attributes = .ok key) :
    key = compositeKey objectType attributes ∧ 0x00 ∉ objectType ∧ ∀ att ∈ attributes, 0x00 ∉ att := by
  simp only [createCompositeKey, ok_iff] at made
  obtain ⟨_, typed, written, read, rfl⟩ := made
  have parts := mapM_ok_iff.mp read
  have all : written = (attributes.map fun att => att ++ [0x00]) ∧
      ∀ att ∈ attributes, 0x00 ∉ att := by
    clear typed read
    induction parts with
    | nil => simp
    | cons head _ ih =>
      simp only [validatedAttribute, ok_iff] at head
      obtain ⟨_, passed, rfl⟩ := head
      obtain ⟨rfl, free⟩ := ih
      exact ⟨rfl, forall_mem_cons.mpr ⟨attribute_no_nul passed, free⟩⟩
  obtain ⟨rfl, free⟩ := all
  refine ⟨?_, attribute_no_nul typed, free⟩
  simp [compositeKey, flatMap_def]

theorem composite_key_injective {first second att att' : Bytes} (free : 0x00 ∉ first)
    (free' : 0x00 ∉ second) (closed : 0x00 ∉ att) (closed' : 0x00 ∉ att')
    (same : compositeKey first [att] = compositeKey second [att']) : first = second ∧ att = att' := by
  have tails := (List.cons.inj same).2
  rw [flatMap_singleton, flatMap_singleton] at tails
  obtain ⟨types, rest⟩ := prefix_free_terminated 0x00 first free second free' _ _ tails
  exact ⟨types, prefix_free_injective (prefix_free_terminated 0x00) closed closed' rest⟩

structure TokenID where
  txId : Bytes
  index : UInt64
deriving DecidableEq, Repr

def TokenID.text (id : TokenID) : String := s!"[{render id.txId}:{id.index}]"

-- The state a transaction reads and writes. A read of a key without a value gives no bytes, and the code tells
-- a key without a value from others by the length only, so an absent key holds the empty value.
abbrev State := Key → Value

def notEmpty : Value := [0x01]

-- The results of the methods an action with inputs has. The identifiers are never nil.
structure ActionWithInputs where
  inputs : List TokenID
  serializedInputs : Outcome (List Bytes)
  serialNumbers : List Bytes

-- Metadata is listed in the order in which the iteration over the map visits it.
structure IssueAction extends ActionWithInputs where
  serializedOutputs : Outcome (List Bytes)
  metadata : Entries
  isGraphHiding : Bool

structure TransferOutput where
  isRedeem : Bool
  serialized : Outcome Bytes

structure TransferAction extends ActionWithInputs where
  outputs : List TransferOutput
  metadata : Entries
  isGraphHiding : Bool

inductive Action where
  | issue (action : IssueAction)
  | transfer (action : TransferAction)
  | setup (parameters : Outcome Bytes)
  | unknown (type : String)

structure Translator where
  state : State
  txID : Bytes
  spentIDs : List Bytes
  counter : UInt64

def Translator.new (txID : Bytes) (state : State) : Translator := { state, txID, spentIDs := [], counter := 0 }

namespace Translator

def setState (t : Translator) (key : Key) (value : Value) : Translator :=
  { t with state := Function.update t.state key value }

def deleteState (t : Translator) (key : Key) : Translator := t.setState key []

def stateMustNotExist (t : Translator) (key : Key) : Outcome Unit :=
  ensure (t.state key = []) s!"state [{render key}] already exists for [{render t.txID}]"

def stateMustExist (t : Translator) (key : Key) : Outcome Unit :=
  ensure (t.state key ≠ []) s!"state [{render key}] does not exist for [{render t.txID}]"

def appendSpentID (t : Translator) (id : Bytes) : Outcome Translator := do
  ensure (id ∉ t.spentIDs) s!"[{render id}] already spent"
  return { t with spentIDs := t.spentIDs ++ [id] }

-- The serial number itself is looked up, not the key that spendInputs writes for it.
def checkSerialNumber (t : Translator) (key : Bytes) : Outcome Unit :=
  wrap "invalid transfer: serial number must not exist" (t.stateMustNotExist key)

variable (sha256 : Bytes → Bytes)

def checkInput (t : Translator) (entry : TokenID × Bytes) : Outcome Unit := do
  let key ← wrap s!"invalid transfer: failed creating output ID [{entry.1.text}]"
    (createOutputSNKey sha256 entry.1.txId entry.1.index entry.2)
  wrap "invalid transfer: input must exist" (t.stateMustExist key)

def checkInputs (t : Translator) (action : ActionWithInputs) : Outcome Unit := do
  checkEach (fun _ => t.checkSerialNumber) 0 action.serialNumbers
  let serializedInputs ← wrap "failed to get serialized inputs" action.serializedInputs
  ensure (serializedInputs.length = action.inputs.length) "inputs and serialized inputs length mismatch"
  checkEach (fun _ => t.checkInput sha256) 0 (action.inputs.zip serializedInputs)

def spendInput (t : Translator) (entry : TokenID × Bytes) : Outcome Translator := do
  let sn ← wrap s!"invalid transfer: failed creating output ID [{entry.1.text}]"
    (createOutputSNKey sha256 entry.1.txId entry.1.index entry.2)
  let id ← wrap s!"invalid transfer: failed creating output ID [{entry.1.text}]"
    (createOutputKey entry.1.txId entry.1.index)
  wrap s!"failed to append spent id [{render id}]" (((t.deleteState sn).deleteState id).appendSpentID id)

def spendSerialNumber (t : Translator) (id : Bytes) : Outcome Translator := do
  let k ← wrap s!"failed to generate key for id [{render id}]" (createInputSNKey id)
  wrap s!"failed to append spent id [{render id}]" ((t.setState k notEmpty).appendSpentID id)

-- The serialized inputs are as many as the inputs: checkInputs has passed before.
def spendInputs (t : Translator) (action : ActionWithInputs) : Outcome Translator := do
  let t ← (if action.inputs = [] then .ok t else do
    let serializedInputs ← wrap "error serializing transfer inputs" action.serializedInputs
    (action.inputs.zip serializedInputs).foldlM (spendInput sha256) t)
  action.serialNumbers.foldlM spendSerialNumber t

def storeOutput (graphHiding : Bool) (base : UInt64) (index : Nat) (t : Translator) (output : Bytes) :
    Outcome Translator := do
  let outputID ← wrap "error creating output ID" (createOutputKey t.txID (base + UInt64.ofNat index))
  let stored := t.setState outputID output
  if graphHiding then return stored else do
    let sn ← wrap "error creating output ID" (createOutputSNKey sha256 t.txID (base + UInt64.ofNat index) output)
    return stored.setState sn notEmpty

def storeTransferOutput (graphHiding : Bool) (base : UInt64) (index : Nat) (t : Translator) (output : TransferOutput) :
    Outcome Translator :=
  if output.isRedeem then .ok t else do
    let serialized ← wrap s!"error serializing transfer output at index [{index}]" output.serialized
    storeOutput sha256 graphHiding base index t serialized

def storeMetadata (createKey : Bytes → Outcome Key) (kind : String) (t : Translator) (entry : Bytes × Bytes) :
    Outcome Translator := do
  let k ← wrap "failed constructing metadata key" (createKey entry.1)
  ensure (t.state k = []) s!"entry with {kind} metadata key [{render entry.1}] is already occupied"
  return t.setState k entry.2

def commitIssueAction (t : Translator) (action : IssueAction) : Outcome Translator := do
  let base := t.counter
  let outputs ← action.serializedOutputs
  let stored ← foldEach (storeOutput sha256 action.isGraphHiding base) 0 t outputs
  let spent ← stored.spendInputs sha256 action.toActionWithInputs
  let written ← action.metadata.foldlM (storeMetadata createIssueActionMetadataKey "issue") spent
  return { written with counter := written.counter + UInt64.ofNat outputs.length }

def commitTransferAction (t : Translator) (action : TransferAction) : Outcome Translator := do
  let base := t.counter
  let stored ← foldEach (storeTransferOutput sha256 action.isGraphHiding base) 0 t action.outputs
  let spent ← stored.spendInputs sha256 action.toActionWithInputs
  let written ← action.metadata.foldlM (storeMetadata createTransferActionMetadataKey "transfer") spent
  return { written with counter := written.counter + UInt64.ofNat action.outputs.length }

def commitSetupAction (t : Translator) (parameters : Outcome Bytes) : Outcome Translator := do
  let raw ← parameters
  let setupKey ← createSetupKey
  let setupHashKey ← createSetupHashKey
  return (t.setState setupKey raw).setState setupHashKey (sha256 raw)

def checkAction (t : Translator) (action : Action) : Outcome Unit :=
  match action with
  | .issue action | .transfer action => t.checkInputs sha256 action.toActionWithInputs
  | .setup _ => .ok ()
  | .unknown type => .error s!"unknown token action: {type}"

def commitAction (t : Translator) (action : Action) : Outcome Translator :=
  match action with
  | .issue action => t.commitIssueAction sha256 action
  | .transfer action => t.commitTransferAction sha256 action
  | .setup parameters => t.commitSetupAction sha256 parameters
  | .unknown _ => .ok t

def write (t : Translator) (action : Action) : Outcome Translator := do
  t.checkAction sha256 action
  t.commitAction sha256 action

end Translator

-- A token request as the translator is given it: the actions in the order the validator returns them. The state is
-- replaced when all of them are written.
structure Request where
  txID : Bytes
  actions : List Action

def commitRequest (sha256 : Bytes → Bytes) (state : State) (request : Request) : Outcome State := do
  let t ← request.actions.foldlM (Translator.write sha256) (Translator.new request.txID state)
  return t.state

def isSpent (state : State) (graphHiding : Bool) (id : Bytes) : Outcome Bool :=
  if graphHiding then do
    let k ← wrap s!"failed to generate key for id [{render id}]" (createInputSNKey id)
    return state k ≠ []
  else return state id = []

def areTokensSpent (state : State) (ids : List Bytes) (graphHiding : Bool) : Outcome (List Bool) :=
  ids.mapM (isSpent state graphHiding)

end Panurus.Rws
