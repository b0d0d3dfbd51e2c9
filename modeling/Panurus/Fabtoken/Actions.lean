import Panurus.Driver.Request
import Panurus.Lib.Base64
import Panurus.Lib.Json

namespace Panurus.Fabtoken

open List Lib Outcome Text Codec

structure Output where
  owner : Bytes
  type : Bytes
  quantity : Bytes
deriving DecidableEq, Repr

namespace Output

def isRedeem (t : Output) : Bool := t.owner = []

def validate (t : Output) (checkOwner : Bool) : Outcome Unit := do
  ensure (¬ (checkOwner ∧ t.owner = [])) "token owner cannot be empty"
  ensure (t.quantity ≠ []) "token quantity cannot be empty"
  ensure (t.type ≠ []) "token type cannot be empty"

end Output

def jsonField (name value : Bytes) : Bytes := ascii "\"" ++ name ++ ascii "\":" ++ value

def jsonObject (fields : List Bytes) : Bytes := ascii "\x7b" ++ (ascii ",").intercalate fields ++ ascii "\x7d"

def Output.jsonFields (t : Output) : List Bytes :=
  (if t.owner = [] then [] else [jsonField (ascii "owner") (ascii "\"" ++ Base64.encode t.owner ++ ascii "\"")]) ++
  (if t.type = [] then [] else [jsonField (ascii "type") (Json.quoted t.type)]) ++
  (if t.quantity = [] then [] else [jsonField (ascii "quantity") (Json.quoted t.quantity)])

def wrapTokenWithType (raw : Bytes) : Bytes := Der.sequence [Der.integer 1, Der.octetString raw]

def Output.serialize (t : Output) : Bytes := wrapTokenWithType (jsonObject t.jsonFields)

theorem wrap_token_with_type_injective : Function.Injective wrapTokenWithType := by
  intro raw raw' same
  have contents := Der.tlv_injective 0x30 same
  simp only [flatten_cons, flatten_nil, append_nil, append_cancel_left_eq] at contents
  exact Der.tlv_injective 0x04 contents

-- What a message of the wire gives: texts of valid runes. The validator asks for the type and the quantity.
structure Output.WellFormed (t : Output) : Prop where
  type : t.type ≠ []
  quantity : t.quantity ≠ []
  typeValid : Utf8.validString t.type
  quantityValid : Utf8.validString t.quantity

def ownerPart (owner : Bytes) : Bytes :=
  if owner = [] then [] else ascii "\"owner\":\"" ++ (Base64.encode owner ++ ascii "\"") ++ ascii ","

theorem json_object_eq {t : Output} (formed : t.WellFormed) : jsonObject t.jsonFields =
    ascii "\x7b" ++ (ownerPart t.owner ++ (ascii "\"type\":" ++ (Json.quoted t.type ++
      (ascii ",\"quantity\":" ++ (Json.quoted t.quantity ++ ascii "\x7d"))))) := by
  by_cases anonymous : t.owner = []
  · simp [jsonObject, Output.jsonFields, jsonField, ownerPart, anonymous, formed.type, formed.quantity, ascii]
  · simp [jsonObject, Output.jsonFields, jsonField, ownerPart, anonymous, formed.type, formed.quantity, ascii]

theorem base64_quoted_prefix_free : PrefixFreeOn Set.univ fun owner => Base64.encode owner ++ ascii "\"" := by
  have closed := prefix_free_terminated (β := UInt8) 34
  refine prefix_free_comp closed ?_ ?_
  · intro owner _
    exact Base64.encode_no_quote owner
  · intro owner _ other _ same
    exact Base64.encode_injective same

theorem owner_part_ne_type {owner rest more : Bytes} (present : owner ≠ []) :
    ownerPart owner ++ rest ≠ ascii "\"type\":" ++ more := by
  intro same
  rw [ownerPart, if_neg present] at same
  simp [ascii] at same

theorem owner_part_reads {owner other rest more : Bytes}
    (same : ownerPart owner ++ (ascii "\"type\":" ++ rest) = ownerPart other ++ (ascii "\"type\":" ++ more)) :
    owner = other ∧ rest = more := by
  by_cases anonymous : owner = []
  · by_cases anonymous' : other = []
    · rw [anonymous, anonymous'] at same ⊢
      exact ⟨rfl, append_cancel_left (append_cancel_left same)⟩
    · rw [anonymous] at same
      exact absurd same.symm (owner_part_ne_type anonymous')
  · by_cases anonymous' : other = []
    · rw [anonymous'] at same
      exact absurd same (owner_part_ne_type anonymous)
    · simp only [ownerPart, if_neg anonymous, if_neg anonymous', append_assoc] at same
      have bodies := append_cancel_left same
      simp only [← append_assoc _ (ascii "\"")] at bodies
      obtain ⟨rfl, tails⟩ := base64_quoted_prefix_free owner trivial other trivial _ _ bodies
      exact ⟨rfl, append_cancel_left (append_cancel_left tails)⟩

theorem serialize_injective : Set.InjOn Output.serialize {t | t.WellFormed} := by
  intro t formed other formed' same
  have objects := wrap_token_with_type_injective same
  rw [json_object_eq formed, json_object_eq formed'] at objects
  obtain ⟨owners, types⟩ := owner_part_reads (append_cancel_left objects)
  obtain ⟨typesSame, quantities⟩ := Json.quoted_prefix_free _ formed.typeValid _ formed'.typeValid _ _ types
  obtain ⟨quantitiesSame, _⟩ := Json.quoted_prefix_free _ formed.quantityValid _ formed'.quantityValid _ _
    (append_cancel_left quantities)
  cases t
  simp only at owners typesSame quantitiesSame
  rw [owners, typesSame, quantitiesSame]

open Driver

def protocolV1 : UInt32 := 1

def errTooManyInputs : String := "action exceeds maximum allowed number of inputs"
def errTooManyOutputs : String := "action exceeds maximum allowed number of outputs"
def errTooManyMetadataEntries : String := "action exceeds maximum allowed number of metadata entries"
def errMetadataKeyTooLarge : String := "action metadata key exceeds maximum allowed size"
def errMetadataValueTooLarge : String := "action metadata value exceeds maximum allowed size"

-- The generated protobuf messages; a pointer to a message may be nil, and so may a byte string.
namespace Proto

structure Token where
  owner : Bytes
  type : Bytes
  quantity : Bytes
deriving DecidableEq, Repr

structure TransferActionInput where
  tokenId : Option Rws.TokenID
  input : Option Token
deriving DecidableEq, Repr

structure ActionOutput where
  token : Option Token
deriving DecidableEq, Repr

structure Identity where
  raw : Option Bytes
deriving DecidableEq, Repr

structure IssueAction where
  version : UInt32
  issuer : Option Identity
  outputs : List (Option ActionOutput)
  metadata : Entries
deriving DecidableEq, Repr

structure TransferAction where
  version : UInt32
  inputs : List TransferActionInput
  outputs : List (Option ActionOutput)
  metadata : Entries
  issuer : Option Identity
deriving DecidableEq, Repr

end Proto

structure TransferActionInput where
  id : Option Rws.TokenID
  input : Option Output
deriving DecidableEq, Repr

-- The entries of a list of pointers may be nil. Metadata is listed in the order of the iteration over the map.
structure IssueAction where
  issuer : Bytes
  outputs : List (Option Output)
  metadata : Entries
deriving DecidableEq, Repr

structure TransferAction where
  inputs : List (Option TransferActionInput)
  outputs : List (Option Output)
  metadata : Entries
  issuer : Option Bytes
deriving DecidableEq, Repr

def checkMetadataLimits (limits : ResourceLimits) (metadata : Entries) : Outcome Unit := do
  within metadata.length limits.maxMetadataEntries s!"limit [{limits.maxMetadataEntries}]: {errTooManyMetadataEntries}"
  checkEach (fun _ entry => do
    within entry.1.length limits.maxMetadataKeyBytes s!"limit [{limits.maxMetadataKeyBytes}] bytes: {errMetadataKeyTooLarge}"
    within entry.2.length limits.maxMetadataValueBytes
      s!"limit [{limits.maxMetadataValueBytes}] bytes: {errMetadataValueTooLarge}") 0 metadata

def Output.fromProto (token : Proto.Token) : Output :=
  { owner := token.owner, type := token.type, quantity := token.quantity }

def outputFromProto (output : Option Proto.ActionOutput) : Option Output :=
  (output.bind Proto.ActionOutput.token).map Output.fromProto

def TransferActionInput.fromProtos (input : Proto.TransferActionInput) : TransferActionInput :=
  { id := input.tokenId, input := input.input.map Output.fromProto }

def validateOutput (missing : Nat → String) (index : Nat) (output : Option Output) : Outcome Unit := do
  let output ← required output (missing index)
  ensure (output.type ≠ []) s!"invalid output's type at index [{index}], output type is empty"
  ensure (output.quantity ≠ []) s!"invalid output's quantity at index [{index}], output quantity is empty"

variable {missing : Nat → String} {index start : Nat}

namespace IssueAction

def validate (limits : ResourceLimits) (i : IssueAction) : Outcome Unit := do
  ensure (i.issuer ≠ []) "issuer is not set"
  ensure (i.outputs ≠ []) "no outputs in issue action"
  within i.outputs.length limits.maxOutputs s!"limit [{limits.maxOutputs}]: {errTooManyOutputs}"
  checkEach (validateOutput fun _ => "nil output in issue action") 0 i.outputs
  checkMetadataLimits limits i.metadata

def deserialize (unmarshal : Bytes → Outcome Proto.IssueAction) (limits : ResourceLimits) (raw : Bytes) :
    Outcome IssueAction := do
  let action ← wrap "failed to deserialize issue action" (unmarshal raw)
  ensure (action.version = protocolV1) s!"invalid issue version, expected [{protocolV1}], got [{action.version}]"
  within action.outputs.length limits.maxOutputs s!"limit [{limits.maxOutputs}]: {errTooManyOutputs}"
  checkMetadataLimits limits action.metadata
  return {
    issuer := (action.issuer.bind Proto.Identity.raw).getD []
    outputs := action.outputs.map outputFromProto
    metadata := action.metadata }

def getSerializedOutputs (i : IssueAction) : Outcome (List Bytes) :=
  i.outputs.zipIdx.mapM fun entry => do
    let output ← required entry.1 s!"cannot serialize issue action outputs: nil output at index [{entry.2}]"
    return output.serialize

def toTranslator (i : IssueAction) : Rws.IssueAction :=
  { inputs := []
    serializedInputs := .ok []
    serialNumbers := []
    serializedOutputs := i.getSerializedOutputs
    metadata := i.metadata
    isGraphHiding := false }

end IssueAction

def validateInput (index : Nat) (input : Option TransferActionInput) : Outcome Unit := do
  let input ← required input s!"invalid input at index [{index}], empty input"
  let id ← required input.id s!"invalid input's ID at index [{index}], it is empty"
  ensure (id.txId ≠ []) s!"invalid input's ID at index [{index}], tx id is empty"
  let token ← required input.input s!"invalid input's token at index [{index}], empty token"
  wrap s!"invalid input token at index [{index}]" (token.validate true)

def serializedInput : Option TransferActionInput → Bytes
  | none => []
  | some input => input.input.elim (wrapTokenWithType (ascii "null")) Output.serialize

namespace TransferAction

def validate (limits : ResourceLimits) (t : TransferAction) : Outcome Unit := do
  ensure (t.inputs ≠ []) "invalid number of token inputs, expected at least 1"
  within t.inputs.length limits.maxInputs s!"limit [{limits.maxInputs}]: {errTooManyInputs}"
  checkEach validateInput 0 t.inputs
  within t.outputs.length limits.maxOutputs s!"limit [{limits.maxOutputs}]: {errTooManyOutputs}"
  checkEach (validateOutput fun index => s!"invalid output at index [{index}], empty output") 0 t.outputs
  checkMetadataLimits limits t.metadata

def deserialize (unmarshal : Bytes → Outcome Proto.TransferAction) (limits : ResourceLimits) (raw : Bytes) :
    Outcome TransferAction := do
  let action ← wrap "failed to deserialize issue action" (unmarshal raw)
  ensure (action.version = protocolV1) s!"invalid issue version, expected [{protocolV1}], got [{action.version}]"
  within action.inputs.length limits.maxInputs s!"limit [{limits.maxInputs}]: {errTooManyInputs}"
  within action.outputs.length limits.maxOutputs s!"limit [{limits.maxOutputs}]: {errTooManyOutputs}"
  checkMetadataLimits limits action.metadata
  return {
    inputs := action.inputs.map fun input => some (TransferActionInput.fromProtos input)
    outputs := action.outputs.map outputFromProto
    metadata := action.metadata
    issuer := action.issuer.bind Proto.Identity.raw }

def getInputs (t : TransferAction) : List (Option Rws.TokenID) := t.inputs.map fun input => input.bind TransferActionInput.id

def getSerializedInputs (t : TransferAction) : List Bytes := t.inputs.map serializedInput

-- The translator asks IsRedeemAt first, which has no answer for a nil output.
def translatorOutput (entry : Option Output × Nat) : Rws.TransferOutput :=
  match entry.1 with
  | some output => { isRedeem := output.isRedeem, serialized := .ok output.serialize }
  | none =>
    { isRedeem := false
      serialized := .error s!"failed to serialize output in transfer action: nil output at index [{entry.2}]" }

-- An input without identifier does not get past the validation.
def toTranslator (t : TransferAction) : Rws.TransferAction :=
  { inputs := t.getInputs.reduceOption
    serializedInputs := .ok t.getSerializedInputs
    serialNumbers := []
    outputs := t.outputs.zipIdx.map translatorOutput
    metadata := t.metadata
    isGraphHiding := false }

end TransferAction

theorem validate_input_ok {input : Option TransferActionInput} (checked : validateInput index input = .ok ()) :
    ∃ id token, input = some { id := some id, input := some token } ∧ token.owner ≠ [] ∧ token.type ≠ [] ∧
      token.quantity ≠ [] := by
  simp only [validateInput, Output.validate, ok_iff, exists_const] at checked
  obtain ⟨input, rfl, id, found, _, token, held, owned, counted, typed⟩ := checked
  obtain ⟨_, _⟩ := input
  subst found held
  exact ⟨id, token, rfl, by simpa using owned, typed, counted⟩

theorem inputs_spent {inputs : List (Option TransferActionInput)} (checked : checkEach validateInput start inputs = .ok ()) :
    ∃ entries : List (Rws.TokenID × Output), inputs = (entries.map fun entry => some { id := some entry.1, input := some entry.2 }) ∧
      ∀ entry ∈ entries, entry.2.owner ≠ [] ∧ entry.2.type ≠ [] ∧ entry.2.quantity ≠ [] := by
  induction inputs generalizing start with
  | nil => exact ⟨[], rfl, by simp⟩
  | cons input tail ih =>
    rw [checkEach, bind_ok_iff] at checked
    obtain ⟨⟨⟩, first, rest⟩ := checked
    obtain ⟨id, token, rfl, formed⟩ := validate_input_ok first
    obtain ⟨entries, rfl, all⟩ := ih rest
    exact ⟨(id, token) :: entries, rfl, forall_mem_cons.mpr ⟨formed, all⟩⟩

theorem outputs_present {outputs : List (Option Output)} (checked : checkEach (validateOutput missing) start outputs = .ok ()) :
    ∃ entries : List Output, outputs = entries.map some ∧ ∀ output ∈ entries, output.type ≠ [] ∧ output.quantity ≠ [] := by
  induction outputs generalizing start with
  | nil => exact ⟨[], rfl, by simp⟩
  | cons output tail ih =>
    rw [checkEach, bind_ok_iff] at checked
    obtain ⟨⟨⟩, first, rest⟩ := checked
    simp only [validateOutput, ok_iff, exists_const] at first
    obtain ⟨out, rfl, formed⟩ := first
    obtain ⟨entries, rfl, all⟩ := ih rest
    exact ⟨out :: entries, rfl, forall_mem_cons.mpr ⟨formed, all⟩⟩

end Panurus.Fabtoken
