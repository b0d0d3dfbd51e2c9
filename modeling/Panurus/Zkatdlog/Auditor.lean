import Panurus.Core.Auditor
import Panurus.Zkatdlog.Actions

namespace Panurus.Zkatdlog

open Lib Outcome Core Driver

structure InfoMatcher where
  matchIdentity : Identity → Bytes → Outcome Unit
  recipients : Identity → Outcome (List Identity)

structure InspectableIdentity where
  identity : Identity
  identityFromMeta : Identity
  auditInfo : Bytes

structure InspectableData (F G : Type) where
  data : Option (Element G)
  tokenType : Bytes
  value : Option (Element F)
  bf : Option (Element F)

structure InspectableToken (F G : Type) where
  identity : InspectableIdentity
  data : InspectableData F G

def newInspectableToken {F G : Type} (token : Token G) (ownerAuditInfo tokenType : Bytes) (value bf : Option (Element F)) :
    InspectableToken F G :=
  { identity := { identity := token.owner, identityFromMeta := [], auditInfo := ownerAuditInfo }
    data := { data := token.data, tokenType, value, bf } }

structure AuditCodec (F G : Type) where
  deserializeIssue : Bytes → Outcome (IssueAction G)
  deserializeTransfer : Bytes → Outcome (Action F G)
  deserializeMetadata : Bytes → Outcome (TokenMetadata F)
  serialize : Token G → Outcome Bytes
  identityText : Identity → String

structure AuditParams (F G : Type) where
  infoMatcher : InfoMatcher
  pedersenParams : Elements G
  curveID : CurveID
  curve : Curve F G
  precision : UInt64
  issuers : List Identity

section Views

variable {F G : Type} (codec : AuditCodec F G)

def outputView (token : Token G) : OutputInterface := { serialize := codec.serialize token, isRedeem := token.isRedeem }

def IssueAction.view (i : IssueAction G) : ActionInterface :=
  { validate := i.validate defaultLimits
    numInputs := i.inputs.length
    outputs := i.outputs.map (Option.map (outputView codec))
    extraSigners := []
    issuer := some i.issuer
    metadata := i.metadata }

def Action.view (t : Action F G) : ActionInterface :=
  { validate := t.validate defaultLimits
    numInputs := t.inputs.length
    outputs := t.outputs.map (Option.map (outputView codec))
    extraSigners := []
    issuer := t.issuer
    metadata := t.metadata }

end Views

def inspectIdentity (matcher : InfoMatcher) (identity : InspectableIdentity) (index : Nat) : Outcome Unit := do
  ensure (identity.identity ≠ []) s!"identity at index [{index}] is nil, cannot inspect it"
  ensure (identity.auditInfo ≠ []) s!"failed to inspect identity at index [{index}]: audit info is nil"
  ensure (identity.identityFromMeta = [] ∨ identity.identityFromMeta = identity.identity)
    s!"failed to inspect identity at index [{index}]: identity does not match the identity from metadata"
  wrap s!"owner at index [{index}] does not match the provided opening"
    (matcher.matchIdentity identity.identity identity.auditInfo)

-- An issue names every receiver; a transfer may leave one empty here, which the inspection refuses.
def validateOutputReceivers (infoMatcher : InfoMatcher) (owner : Identity) (receivers : List (Option AuditableIdentity))
    (outputIndex : Nat) (requireNonEmpty : Bool) : Outcome Unit := do
  let recipients ← wrap s!"failed to extract recipients from output owner at index [{outputIndex}]"
    (infoMatcher.recipients owner)
  ensure (recipients ≠ []) s!"output at index [{outputIndex}] has no recipients"
  ensure (receivers.length = recipients.length)
    s!"output at index [{outputIndex}] has [{recipients.length}] recipients but metadata has [{receivers.length}] receivers"
  checkEach (fun j pair => do
    let receiver ← required pair.1 s!"receiver at index [{j}] for output [{outputIndex}] is nil"
    (if requireNonEmpty then
      ensure (¬ (receiver.identity = [] ∨ pair.2 ≠ receiver.identity))
        s!"recipient at index [{j}] for output [{outputIndex}] does not match receiver identity in metadata"
    else
      ensure (¬ (receiver.identity ≠ [] ∧ pair.2 ≠ receiver.identity))
        s!"recipient at index [{j}] for output [{outputIndex}] does not match receiver identity in metadata")
    wrap s!"failed inspecting receiver [{j}] at output [{outputIndex}]"
      (inspectIdentity infoMatcher { identity := receiver.identity, identityFromMeta := [], auditInfo := receiver.auditInfo }
        outputIndex)) 0 (receivers.zip recipients)

section Inspect

variable {F G : Type} [Field F] [AddCommGroup G] [Module F G] [DecidableEq G]

-- Unlike the one of the tokens, this one does not look at the number of generators first.
def auditCommit (curveID : CurveID) (vector : Elements F) (generators : Elements G) :
    Outcome (Element G) := do
  let com ← foldEach (fun i (com : G) scalar => do
    let generator ← required generators[i]?
      s!"panic: runtime error: index out of range [{i}] with length {generators.length}"
    let generator ← operand curveID generator
    let scalar ← operand curveID scalar
    return com + scalar • generator) 0 0 vector
  return { curve := curveID, value := com }

variable (params : AuditParams F G) (codec : AuditCodec F G)

def inspectOutput (output : InspectableToken F G) (index : Nat) : Outcome Unit := do
  ensure output.data.data.isSome s!"invalid output at index [{index}]"
  let tokenComm ← auditCommit params.curveID
    [some { curve := params.curveID, value := params.curve.hashToZr output.data.tokenType }, output.data.value, output.data.bf]
    params.pedersenParams
  let data ← operand tokenComm.curve output.data.data
  ensure (tokenComm.value = data) s!"output at index [{index}] does not match the provided opening"
  if output.identity.identity ≠ [] then
    wrap s!"failed inspecting output at index [{index}]" (inspectIdentity params.infoMatcher output.identity index)
  else .ok ()

def openMetadata (outputsMetadata : List (Option OutputMetadata)) (i : Nat) : Outcome OutputMetadata := do
  let outputMetadata ← required outputsMetadata[i]?
    s!"panic: runtime error: index out of range [{i}] with length {outputsMetadata.length}"
  required outputMetadata s!"output metadata at index [{i}] is nil"

def tokenMetadataOf (checkIssuer : Bool) (outputMetadata : OutputMetadata) (i : Nat) : Outcome (TokenMetadata F) := do
  let tokenMetadata ← wrap s!"failed to deserialize token metadata at index [{i}]"
    (codec.deserializeMetadata outputMetadata.outputMetadata)
  wrap s!"invalid token metadata at index [{i}]" (tokenMetadata.validate checkIssuer)
  return tokenMetadata

def inspectable (output : Token G) (outputMetadata : OutputMetadata) (tokenMetadata : TokenMetadata F) : InspectableToken F G :=
  newInspectableToken output outputMetadata.outputAuditInfo tokenMetadata.type tokenMetadata.value tokenMetadata.blindingFactor

def validateIssueOutputs (outputs : List (Option (Token G))) (outputsMetadata : List (Option OutputMetadata)) : Outcome Unit :=
  checkEach (fun i output => do
    let output ← required output s!"output at index [{i}] is nil"
    let outputMetadata ← openMetadata outputsMetadata i
    ensure (output.isRedeem = false) "issue action cannot redeem tokens"
    let tokenMetadata ← tokenMetadataOf codec true outputMetadata i
    wrap s!"failed inspecting output [{i}]" (inspectOutput params (inspectable output outputMetadata tokenMetadata) i)
    validateOutputReceivers params.infoMatcher output.owner outputMetadata.receivers i true) 0 outputs

def validateTransferOutputs (outputs : List (Option (Token G))) (outputsMetadata : List (Option OutputMetadata)) : Outcome Unit :=
  checkEach (fun i output => do
    let output ← required output s!"output at index [{i}] is nil"
    let outputMetadata ← openMetadata outputsMetadata i
    (if output.isRedeem then .ok () else
      validateOutputReceivers params.infoMatcher output.owner outputMetadata.receivers i false)
    let tokenMetadata ← tokenMetadataOf codec false outputMetadata i
    wrap s!"failed inspecting output at index [{i}]" (inspectOutput params (inspectable output outputMetadata tokenMetadata) i))
    0 outputs

def validateIssueInputs (inputs : List (Option IssueActionInput)) (inputsMetadata : List IssueInputMetadata) : Outcome Unit :=
  checkEach (fun i input => do
    let input ← required input s!"input at index [{i}] is nil"
    ensure (input.token ≠ []) s!"input token at index [{i}] is nil"
    let inputMetadata ← required inputsMetadata[i]?
      s!"panic: runtime error: index out of range [{i}] with length {inputsMetadata.length}"
    ensure (∀ id ∈ inputMetadata.tokenID, id = input.id)
      s!"token ID mismatch at input [{i}]: metadata has {inputMetadata.tokenID.elim default Rws.TokenID.text} but action has {input.id.text}")
    0 inputs

def validateTransferInputs (inputs : List (Option (ActionInput F G))) (inputsMetadata : List (Option TransferInputMetadata)) :
    Outcome Unit :=
  checkEach (fun i actionInput => do
    let actionInput ← required actionInput s!"input at index [{i}] is nil"
    let token ← required actionInput.token s!"input at index [{i}] is nil"
    let id ← required actionInput.id s!"input at index [{i}] has nil ID"
    let inputMetadata ← required inputsMetadata[i]?
      s!"panic: runtime error: index out of range [{i}] with length {inputsMetadata.length}"
    let inputMetadata ← required inputMetadata s!"metadata for input at index [{i}] is nil"
    ensure (inputMetadata.senders.length = 1)
      s!"input metadata at index [{i}] must have exactly one sender, found [{inputMetadata.senders.length}]"
    let sender ← required inputMetadata.senders.head?.join s!"sender at index [{i}] is nil"
    ensure (sender.identity = token.owner) s!"sender identity at index [{i}] does not match token owner"
    ensure (∀ named ∈ inputMetadata.tokenID, named = id)
      s!"token ID mismatch at input [{i}]: metadata has {inputMetadata.tokenID.elim default Rws.TokenID.text} but action has {id.text}"
    if token.owner ≠ [] then
      wrap s!"failed inspecting input sender at index [{i}]"
        (inspectIdentity params.infoMatcher { identity := token.owner, identityFromMeta := [], auditInfo := sender.auditInfo } i)
    else .ok ()) 0 inputs

def validateIssuer (issuer : Identity) (issuerMetadata : AuditableIdentity) : Outcome Unit := do
  wrap "failed checking issuer identity" (inspectIdentity params.infoMatcher
    { identity := issuer, identityFromMeta := issuerMetadata.identity, auditInfo := issuerMetadata.auditInfo } 0)
  ensure (params.issuers = [] ∨ issuer ∈ params.issuers) s!"issuer [{codec.identityText issuer}] is not a recognized issuer"

def validateRedeemIssuer (issuer : Identity) : Outcome Unit :=
  ensure (issuer ∈ params.issuers) s!"issuer [{codec.identityText issuer}] is not a recognized issuer"

def entryAt {P A : Type} (auditCtx : AuditContext P A) : Outcome ActionMetadataEntry :=
  required auditCtx.tokenRequestMetadata.actions[auditCtx.actionIndex]?
    s!"action index {auditCtx.actionIndex} out of range (have {auditCtx.tokenRequestMetadata.actions.length} actions)"

def issueAuditValidate (auditCtx : AuditContext (AuditParams F G) (IssueAction G)) : Outcome Unit := do
  let actionMeta ← entryAt auditCtx
  let metadata ← required actionMeta.issueMetadata s!"issue metadata not found at action index {auditCtx.actionIndex}"
  wrap "issue action does not match metadata" (metadata.matchAction codec.identityText (auditCtx.action.view codec))
  validateIssueInputs auditCtx.action.inputs metadata.inputs
  validateIssueOutputs params codec auditCtx.action.outputs metadata.outputs
  wrap "token type validation failed for issue action" (validateIssueActionTokenTypes auditCtx.auditTokens metadata)
  validateIssuer params codec auditCtx.action.issuer metadata.issuer

def transferAuditValidate (auditCtx : AuditContext (AuditParams F G) (Action F G)) : Outcome Unit := do
  let actionMeta ← entryAt auditCtx
  let metadata ← required actionMeta.transferMetadata s!"transfer metadata not found at action index {auditCtx.actionIndex}"
  wrap "transfer action does not match metadata" (metadata.matchAction codec.identityText (auditCtx.action.view codec))
  validateTransferInputs params auditCtx.action.inputs metadata.inputs
  validateTransferOutputs params codec auditCtx.action.outputs metadata.outputs
  wrap "token type validation failed for transfer action"
    (validateTransferActionTokenTypes auditCtx.auditTokens metadata true params.precision)
  if auditCtx.action.outputs.any (fun output => output.any Token.isRedeem) ∧ metadata.issuer.identity.getD [] ≠ [] then
    validateRedeemIssuer params codec (metadata.issuer.identity.getD [])
  else .ok ()

def deserializeActions (tr : TokenRequest) : Outcome (List (IssueAction G) × List (Action F G)) := do
  let issueActions ← tr.getIssues.mapM codec.deserializeIssue
  let transferActions ← tr.getTransfers.mapM codec.deserializeTransfer
  return (issueActions, transferActions)

def newAuditor : Auditor (AuditParams F G) (IssueAction G) (Action F G) :=
  { publicParams := params
    deserializeActions := deserializeActions codec
    issueValidators := [issueAuditValidate params codec]
    transferValidators := [transferAuditValidate params codec] }

end Inspect

end Panurus.Zkatdlog
