import Panurus.Rws.Translator
import Panurus.Driver.Asn1Fast

namespace Panurus.Driver

open Lib Outcome

def protocolV1 : UInt32 := 1
def maxAnchorSize : Nat := 128

def errAnchorEmpty : String := "anchor cannot be empty"
def errAnchorTooLarge : String := "anchor size exceeds maximum allowed size of 128 bytes"
def errUnsupportedVersion : String := "unsupported token request version"
def errInvalidVersion : String := "invalid token request: protocol version cannot be 0"
def errVersionBelowMinimum : String := "token request protocol version is below minimum required version"

structure ActionSignature where
  actionID : UInt32
  signature : Bytes
deriving DecidableEq, Repr

structure AuditorSignature where
  identity : Bytes
  signature : Bytes
deriving DecidableEq, Repr

structure RequestSignature where
  action : Option ActionSignature
  auditor : Option AuditorSignature
deriving DecidableEq, Repr

structure TokenRequest where
  version : UInt32
  actions : List TypedAction
  signatures : List RequestSignature
deriving DecidableEq, Repr

def TokenRequest.getIssues (request : TokenRequest) : List Bytes :=
  (request.actions.filter fun action => action.type = .issue).map TypedAction.raw

def TokenRequest.getTransfers (request : TokenRequest) : List Bytes :=
  (request.actions.filter fun action => action.type = .transfer).map TypedAction.raw

-- The generated protobuf messages. A repeated message field may hold nil in Go, a oneof may be
-- unset, and a missing sub-message is nil.
namespace Proto

inductive Action where
  | typedAction (type : ActionType) (raw : Bytes)
  | hashedAction
  | unset
deriving DecidableEq, Repr

inductive Signature where
  | actionSignature (actionId : UInt32) (signature : Option Bytes)
  | auditorSignature (identity signature : Option Bytes)
  | unset
deriving DecidableEq, Repr

structure TokenRequest where
  version : UInt32
  actions : List (Option Action)
  signatures : List (Option Signature)
deriving DecidableEq, Repr

-- The wire format of short messages: a field is its number and kind, its length (below 128) and its content; a scalar
-- is left out when it has its default value.
def field (number : UInt8) (content : Bytes) : Bytes := [8 * number + 2, UInt8.ofNat content.length] ++ content

def scalar (number : UInt8) (content : Bytes) : Bytes := if content = [] then [] else field number content

def varint (number : UInt8) (value : UInt32) : Bytes := if value = 0 then [] else [8 * number, value.toUInt8]

def wireNumber : ActionType → UInt32
  | .unspecified => 0
  | .issue => 1
  | .transfer => 2
  | .unknown number => number.toUInt32

def Action.octets : Action → Bytes
  | .typedAction type raw => field 1 (varint 1 (wireNumber type) ++ scalar 2 raw)
  | .hashedAction => field 2 []
  | .unset => []

def Signature.octets : Signature → Bytes
  | .actionSignature actionId signature => field 1 (varint 1 actionId ++ signature.elim [] fun raw => field 2 (scalar 1 raw))
  | .auditorSignature identity signature =>
    field 2 ((identity.elim [] fun raw => field 1 (scalar 1 raw)) ++ signature.elim [] fun raw => field 2 (scalar 1 raw))
  | .unset => []

def TokenRequest.octets (message : TokenRequest) : Bytes :=
  varint 1 message.version ++ (message.actions.flatMap fun action => field 2 (action.elim [] Action.octets)) ++
    message.signatures.flatMap fun signature => field 3 (signature.elim [] Signature.octets)

-- A decoder that knows a few messages.
def decodeAmong (octets : α → Bytes) (messages : List α) (raw : Bytes) : Outcome α :=
  required (messages.find? fun message => octets message = raw) "proto: cannot parse invalid wire-format data"

theorem decode_among_ok {octets : α → Bytes} {messages : List α} {raw : Bytes} {message : α}
    (decoded : decodeAmong octets messages raw = .ok message) : message ∈ messages ∧ octets message = raw := by
  have found := required_ok_iff.mp decoded
  exact ⟨List.mem_of_find?_eq_some found, by simpa using List.find?_some found⟩

end Proto

def RequestSignature.fromProtos : Proto.Signature → Outcome RequestSignature
  | .actionSignature actionId signature =>
    .ok { action := some { actionID := actionId, signature := signature.getD [] }, auditor := none }
  | .auditorSignature identity signature =>
    .ok { action := none, auditor := some { identity := identity.getD [], signature := signature.getD [] } }
  | .unset => .error "request signature type not recognized"

def TypedAction.fromProtos : Option Proto.Action → Outcome TypedAction
  | none => .error "nil action found"
  | some (.typedAction .unspecified _) =>
    .error "action type must be explicitly specified (ACTION_TYPE_UNSPECIFIED is not allowed)"
  | some (.typedAction (.unknown number) _) => .error s!"unknown action type [{number}]"
  | some (.typedAction type raw) => .ok { type, raw }
  | some _ => .error "only TypedAction is currently supported"

def signatureFromProtos (signature : Option Proto.Signature) : Outcome RequestSignature := do
  let signature ← required signature "nil signature found"
  let requestSignature ← wrap "failed converting request signature" (RequestSignature.fromProtos signature)
  ensure (∀ action ∈ requestSignature.action, action.signature ≠ []) "nil action signature found"
  ensure (∀ auditor ∈ requestSignature.auditor, auditor.signature ≠ []) "nil auditor signature found"
  return requestSignature

def validateAction (index : Nat) (action : TypedAction) : Outcome Unit :=
  ensure (action.raw ≠ []) s!"action at index {index} has empty Raw bytes"

def validateSignature (index : Nat) (signature : RequestSignature) : Outcome Unit :=
  match signature.action, signature.auditor with
  | some action, _ => ensure (action.signature ≠ []) s!"action signature at index {index} has empty signature bytes"
  | none, some auditor => ensure (auditor.signature ≠ []) s!"auditor signature at index {index} has empty signature bytes"
  | none, none => .error s!"signature at index {index} has neither action nor auditor signature"

def TokenRequest.validate (request : TokenRequest) : Outcome Unit := do
  checkEach validateAction 0 request.actions
  checkEach validateSignature 0 request.signatures

def TokenRequest.fromProtos (message : Proto.TokenRequest) : Outcome TokenRequest := do
  ensure (message.version = protocolV1)
    s!"expected [{protocolV1}], got [{message.version}]: {errUnsupportedVersion}"
  let actions ← message.actions.mapM TypedAction.fromProtos
  let signatures ← message.signatures.mapM signatureFromProtos
  let request : TokenRequest := { version := message.version, actions, signatures }
  wrap "token request validation failed" request.validate
  return request

def TokenRequest.fromBytes (unmarshal : Bytes → Outcome Proto.TokenRequest) (raw : Bytes) : Outcome TokenRequest := do
  let message ← wrap "failed unmarshalling token request" (unmarshal raw)
  TokenRequest.fromProtos message

def TokenRequest.marshalToMessageToSignV1 (request : TokenRequest) (anchor : Bytes) : Outcome Bytes := do
  ensure (anchor ≠ []) errAnchorEmpty
  ensure (anchor.length ≤ maxAnchorSize) errAnchorTooLarge
  let requestBytes := fastMarshalTokenRequestForSigning request.actions
  return fastMarshalSignatureMessageV1 requestBytes anchor

def TokenRequest.marshalToMessageToSign (request : TokenRequest) (anchor : Bytes) : Outcome Bytes :=
  request.marshalToMessageToSignV1 anchor

theorem marshal_to_message_ok_iff (request : TokenRequest) (anchor message : Bytes) :
    request.marshalToMessageToSignV1 anchor = .ok message ↔ anchor ≠ [] ∧ anchor.length ≤ maxAnchorSize ∧
        message = fastMarshalSignatureMessageV1 (fastMarshalTokenRequestForSigning request.actions) anchor := by
  simp only [TokenRequest.marshalToMessageToSignV1, ok_iff, exists_const]
  simp only [eq_comm (a := message)]

structure ResourceLimits where
  maxRequestBytes : Int64
  maxActions : Int64
  maxSignatures : Int64
  maxSignatureBytes : Int64
  maxActionBytes : Int64
  maxInputs : Int64
  maxOutputs : Int64
  maxMetadataEntries : Int64
  maxMetadataKeyBytes : Int64
  maxMetadataValueBytes : Int64
  maxIdentityDepth : Int64
  maxIdentityComponents : Int64
deriving DecidableEq, Repr

def defaultResourceLimits : ResourceLimits :=
  { maxRequestBytes := 262144
    maxActions := 256
    maxSignatures := 4096
    maxSignatureBytes := 4096
    maxActionBytes := 262144
    maxInputs := 256
    maxOutputs := 256
    maxMetadataEntries := 64
    maxMetadataKeyBytes := 256
    maxMetadataValueBytes := 4096
    maxIdentityDepth := 5
    maxIdentityComponents := 16 }

def errRequestTooLarge : String := "token request exceeds maximum allowed size"
def errTooManyActions : String := "token request exceeds maximum allowed number of actions"
def errTooManySignatures : String := "token request exceeds maximum allowed number of signatures"
def errSignatureTooLarge : String := "signature exceeds maximum allowed size"
def errActionTooLarge : String := "action exceeds maximum allowed size"

def within (length : Nat) (limit : Int64) (reason : String) : Outcome Unit :=
  ensure ((length : Int) ≤ limit.toInt) reason

@[simp] theorem within_ok_iff {length : Nat} {limit : Int64} {reason : String} {done : Unit} :
    within length limit reason = .ok done ↔ (length : Int) ≤ limit.toInt := by
  rw [within, ensure_ok_iff]

def checkRawRequestSize (limits : ResourceLimits) (raw : Bytes) : Outcome Unit :=
  within raw.length limits.maxRequestBytes s!"limit [{limits.maxRequestBytes}] bytes: {errRequestTooLarge}"

def checkActionLimit (limits : ResourceLimits) (index : Nat) (action : TypedAction) : Outcome Unit :=
  within action.raw.length limits.maxActionBytes
    s!"action at index [{index}], limit [{limits.maxActionBytes}] bytes: {errActionTooLarge}"

def checkSignatureLimit (limits : ResourceLimits) (index : Nat) (signature : RequestSignature) : Outcome Unit := do
  ensure (∀ action ∈ signature.action, (action.signature.length : Int) ≤ limits.maxSignatureBytes.toInt)
    s!"action signature at index [{index}], limit [{limits.maxSignatureBytes}] bytes: {errSignatureTooLarge}"
  ensure (∀ auditor ∈ signature.auditor, (auditor.signature.length : Int) ≤ limits.maxSignatureBytes.toInt)
    s!"auditor signature at index [{index}], limit [{limits.maxSignatureBytes}] bytes: {errSignatureTooLarge}"

def checkRequestLimits (limits : ResourceLimits) (request : TokenRequest) : Outcome Unit := do
  within request.actions.length limits.maxActions s!"limit [{limits.maxActions}]: {errTooManyActions}"
  within request.signatures.length limits.maxSignatures s!"limit [{limits.maxSignatures}]: {errTooManySignatures}"
  checkEach (checkActionLimit limits) 0 request.actions
  checkEach (checkSignatureLimit limits) 0 request.signatures

-- What a driver's action answers through its interface; the entries of a list of pointers may be nil.
structure OutputInterface where
  serialize : Outcome Bytes
  isRedeem : Bool

structure ActionInterface where
  validate : Outcome Unit
  numInputs : Nat
  outputs : List (Option OutputInterface)
  extraSigners : List Bytes
  issuer : Option Bytes
  metadata : Entries

structure AuditableIdentity where
  identity : Bytes
  auditInfo : Bytes
deriving DecidableEq, Repr

structure OutputMetadata where
  outputMetadata : Bytes
  outputAuditInfo : Bytes
  receivers : List (Option AuditableIdentity)
deriving DecidableEq, Repr

def OutputMetadata.recipientAt (metadata : OutputMetadata) (index : Nat) : Option AuditableIdentity :=
  metadata.receivers[index]?.join

structure IssueInputMetadata where
  tokenID : Option Rws.TokenID
deriving DecidableEq, Repr

structure IssueMetadata where
  issuer : AuditableIdentity
  inputs : List IssueInputMetadata
  outputs : List (Option OutputMetadata)
  extraSigners : List AuditableIdentity
deriving DecidableEq, Repr

structure TransferInputMetadata where
  tokenID : Option Rws.TokenID
  senders : List (Option AuditableIdentity)
deriving DecidableEq, Repr

structure TransferIssuer where
  identity : Option Bytes
  auditInfo : Bytes
deriving DecidableEq, Repr

structure TransferMetadata where
  inputs : List (Option TransferInputMetadata)
  outputs : List (Option OutputMetadata)
  extraSigners : List AuditableIdentity
  issuer : TransferIssuer
deriving DecidableEq, Repr

structure ActionMetadataEntry where
  actionID : UInt32
  issueMetadata : Option IssueMetadata
  transferMetadata : Option TransferMetadata
deriving DecidableEq, Repr

structure TokenRequestMetadata where
  actions : List ActionMetadataEntry
  application : Entries
deriving DecidableEq, Repr

def identityOf (identity : Option AuditableIdentity) : Bytes := (identity.map AuditableIdentity.identity).getD []

namespace IssueMetadata

def isOutputAbsent (i : IssueMetadata) (j : Nat) : Bool := i.outputs[j]?.join.isNone

def matchAction (text : Bytes → String) (i : IssueMetadata) (action : ActionInterface) : Outcome Unit := do
  wrap "failed validating issue action" action.validate
  ensure (i.inputs.length = action.numInputs) s!"expected [{i.inputs.length}] inputs but got [{action.numInputs}]"
  ensure (i.outputs.length = action.outputs.length) s!"expected [{i.outputs.length}] outputs but got [{action.outputs.length}]"
  ensure (i.extraSigners.length = action.extraSigners.length)
    s!"expected [{action.extraSigners.length}] extra signers but got [{i.extraSigners.length}]"
  checkEach (fun _ signer => ensure (signer ∈ i.extraSigners.map AuditableIdentity.identity)
    s!"extra signer [{text signer}] from action not found in metadata") 0 action.extraSigners
  ensure (i.issuer.identity = action.issuer.getD [])
    s!"expected issuer [{text i.issuer.identity}] but got [{text (action.issuer.getD [])}]"

end IssueMetadata

namespace TransferMetadata

def isOutputAbsent (t : TransferMetadata) (j : Nat) : Bool := t.outputs[j]?.join.isNone

def isInputAbsent (t : TransferMetadata) (j : Nat) : Bool :=
  match t.inputs[j]?.join with
  | some input => input.senders = []
  | none => true

def tokenIDAt (t : TransferMetadata) (index : Nat) : Option Rws.TokenID :=
  t.inputs[index]?.join.bind TransferInputMetadata.tokenID

-- No input is nil where this is asked.
def senders (t : TransferMetadata) : List Bytes := t.inputs.reduceOption.flatMap fun input => input.senders.map identityOf

def matchAction (text : Bytes → String) (t : TransferMetadata) (action : ActionInterface) : Outcome Unit := do
  wrap "failed validating transfer action" action.validate
  ensure (t.inputs.length = action.numInputs) s!"expected [{t.inputs.length}] inputs but got [{action.numInputs}]"
  ensure (t.outputs.length = action.outputs.length) s!"expected [{t.outputs.length}] outputs but got [{action.outputs.length}]"
  ensure (t.extraSigners.length = action.extraSigners.length)
    s!"expected [{t.extraSigners.length}] extra signers but got [{action.extraSigners.length}]"
  checkEach (fun _ pair => ensure (pair.1 = pair.2.identity)
    s!"expected extra signer [{text pair.2.identity}] but got [{text pair.1}]") 0 (action.extraSigners.zip t.extraSigners)
  ensure (t.issuer.identity.getD [] = action.issuer.getD [])
    s!"expected issuer [{text (t.issuer.identity.getD [])}] but got [{text (action.issuer.getD [])}]"

end TransferMetadata

namespace TokenRequestMetadata

def select {α : Type} (kind : String) (found : List α) (index : Nat) : Outcome α :=
  required found[index]? s!"{kind} metadata at index [{index}] out of range [0:{found.length}]"

def getIssueMetadata (m : TokenRequestMetadata) (index : Nat) : Outcome IssueMetadata :=
  select "issue" (m.actions.filterMap ActionMetadataEntry.issueMetadata) index

def getTransferMetadata (m : TokenRequestMetadata) (index : Nat) : Outcome TransferMetadata :=
  select "transfer" (m.actions.filterMap ActionMetadataEntry.transferMetadata) index

end TokenRequestMetadata

end Panurus.Driver
