import Panurus.Core.Auditing
import Panurus.Htlc.Script
import Panurus.Fabtoken.Actions
import Panurus.Token.Quantity
import Panurus.Zkatdlog.TypeAndSum

namespace Panurus.Zkatdlog

open List Lib Outcome Driver

def errEmptyOwner : String := "token owner cannot be empty"
def errEmptyTokenData : String := "token data cannot be empty"
def errNilCommitElement : String := "cannot commit a nil element"
def errMissingFabToken : String := "missing FabToken"
def errMissingFabTokenOwner : String := "missing FabToken.Owner"
def errMissingFabTokenType : String := "missing FabToken.Type"
def errMissingFabTokenQuantity : String := "missing FabToken.Quantity"
def errMissingUpgradeBlindingFactor : String := "missing BlindingFactor"

def errInvalidInputs : String := "invalid number of token inputs, expected at least 1"
def errEmptyInput : String := "invalid input, empty input"
def errEmptyInputID : String := "invalid input's ID, it is empty"
def errEmptyInputTxID : String := "invalid input's ID, tx id is empty"
def errEmptyInputToken : String := "invalid input's token, empty token"
def errInvalidOutputs : String := "invalid number of token outputs, expected at least 1"
def errEmptyOutputToken : String := "invalid output token, empty token"
def errEmptyProof : String := "proof cannot be empty"

def errTooMany (kind things : String) (limit : Int64) : String :=
  s!"limit [{limit}]: {kind} action exceeds maximum allowed number of {things}"
def errTooLarge (kind thing : String) (limit : Int64) : String :=
  s!"limit [{limit}] bytes: {kind} action {thing} exceeds maximum allowed size"

structure Limits extends ResourceLimits where
  maxProofBytes : Int64

namespace Token

variable {G : Type}

def isRedeem (t : Token G) : Bool := t.owner = []

def validate (t : Token G) (checkOwner : Bool) : Outcome Unit := do
  ensure (¬ (checkOwner ∧ t.owner = [])) errEmptyOwner
  ensure t.data.isSome errEmptyTokenData

end Token

-- The output of the other driver that a token was made of, with the blinding factor of its commitment.
structure UpgradeWitness (F : Type) where
  fabToken : Option Fabtoken.Output
  blindingFactor : Option (Element F)

def UpgradeWitness.validate {F : Type} (u : UpgradeWitness F) : Outcome Unit := do
  let fabToken ← required u.fabToken errMissingFabToken
  ensure (fabToken.owner ≠ []) errMissingFabTokenOwner
  ensure (fabToken.type ≠ []) errMissingFabTokenType
  ensure (fabToken.quantity ≠ []) errMissingFabTokenQuantity
  ensure u.blindingFactor.isSome errMissingUpgradeBlindingFactor

structure ActionInput (F G : Type) where
  id : Option Rws.TokenID
  token : Option (Token G)
  upgradeWitness : Option (UpgradeWitness F)

-- The entries of a list of pointers may be nil. Metadata is listed in the order of the iteration over the map.
structure Action (F G : Type) extends TransferAction G where
  inputs : List (Option (ActionInput F G))
  metadata : Entries
  issuer : Option Bytes

def checkMetadataLimits (kind : String) (limits : ResourceLimits) (metadata : Entries) : Outcome Unit := do
  within metadata.length limits.maxMetadataEntries (errTooMany kind "metadata entries" limits.maxMetadataEntries)
  checkEach (fun _ entry => do
    within entry.1.length limits.maxMetadataKeyBytes
      (errTooLarge kind "metadata key" limits.maxMetadataKeyBytes)
    within entry.2.length limits.maxMetadataValueBytes
      (errTooLarge kind "metadata value" limits.maxMetadataValueBytes)) 0 metadata

section Validate

variable {F G : Type}

def validateInput (index : Nat) (input : Option (ActionInput F G)) : Outcome Unit := do
  let input ← required input s!"invalid input at index [{index}], empty input: {errEmptyInput}"
  let id ← required input.id s!"invalid input's ID at index [{index}], it is empty: {errEmptyInputID}"
  ensure (id.txId ≠ []) s!"invalid input's ID at index [{index}], tx id is empty: {errEmptyInputTxID}"
  let token ← required input.token s!"invalid input's token at index [{index}], empty token: {errEmptyInputToken}"
  wrap s!"invalid input token at index [{index}]" (token.validate true)
  match input.upgradeWitness with
  | some witness => wrap s!"invalid input's upgrade witness at index [{index}]" witness.validate
  | none => return ()

def validateOutput (index : Nat) (output : Option (Token G)) : Outcome Unit := do
  let output ← required output s!"invalid output token at index [{index}]: {errEmptyOutputToken}"
  wrap s!"invalid output at index [{index}]" (output.validate false)

def Action.validate (limits : Limits) (t : Action F G) : Outcome Unit := do
  ensure (t.inputs ≠ []) errInvalidInputs
  within t.inputs.length limits.maxInputs (errTooMany "transfer" "inputs" limits.maxInputs)
  checkEach validateInput 0 t.inputs
  ensure (t.outputs ≠ []) errInvalidOutputs
  within t.outputs.length limits.maxOutputs (errTooMany "transfer" "outputs" limits.maxOutputs)
  checkEach validateOutput 0 t.outputs
  ensure (t.proofType = .rangeProofType ∨ t.proofType = .cspRangeProofType) errInvalidProofType
  ensure (t.proof ≠ []) errEmptyProof
  within t.proof.length limits.maxProofBytes (errTooLarge "transfer" "proof" limits.maxProofBytes)
  checkMetadataLimits "transfer" limits.toResourceLimits t.metadata

end Validate

def errIssuerNotSet : String := "issuer is not set"
def errNilInput : String := "nil input in issue action"
def errNilInputToken : String := "nil input token in issue action"
def errNilInputID : String := "nil input id in issue action"
def errNoOutputs : String := "no outputs in issue action"
def errNilOutput : String := "nil output in issue action"
def errInvalidOutput : String := "invalid output in issue action"
def errInvalidIssueProofType : String := "invalid proof type"

structure IssueActionInput where
  id : Rws.TokenID
  token : Bytes
deriving DecidableEq, Repr

structure IssueAction (G : Type) where
  issuer : Bytes
  inputs : List (Option IssueActionInput)
  outputs : List (Option (Token G))
  proofType : ProofType
  proof : Bytes
  metadata : Entries

section ValidateIssue

variable {G : Type}

def validateIssueInput (_index : Nat) (input : Option IssueActionInput) : Outcome Unit := do
  let input ← required input errNilInput
  ensure (input.token ≠ []) errNilInputToken
  ensure (input.id.txId ≠ []) errNilInputID

def validateIssueOutput (_index : Nat) (output : Option (Token G)) : Outcome Unit := do
  let output ← required output errNilOutput
  (output.validate false).mapError fun cause => errInvalidOutput ++ "\n" ++ cause

-- Unlike those of a transfer, the counts are compared with their limits after the contents.
def IssueAction.validate (limits : Limits) (i : IssueAction G) : Outcome Unit := do
  ensure (i.issuer ≠ []) errIssuerNotSet
  checkEach validateIssueInput 0 i.inputs
  ensure (i.outputs ≠ []) errNoOutputs
  checkEach validateIssueOutput 0 i.outputs
  ensure (i.proofType = .rangeProofType ∨ i.proofType = .cspRangeProofType) errInvalidIssueProofType
  ensure (i.proof ≠ []) errEmptyProof
  within i.proof.length limits.maxProofBytes (errTooLarge "issue" "proof" limits.maxProofBytes)
  within i.inputs.length limits.maxInputs (errTooMany "issue" "inputs" limits.maxInputs)
  within i.outputs.length limits.maxOutputs (errTooMany "issue" "outputs" limits.maxOutputs)
  checkMetadataLimits "issue" limits.toResourceLimits i.metadata

end ValidateIssue

def defaultLimits : Limits := { defaultResourceLimits with maxProofBytes := 131072 }

def errEmptyType : String := "missing Type"
def errEmptyValue : String := "missing Value"
def errEmptyBlindingFactor : String := "missing BlindingFactor"
def errMissingTokenIssuer : String := "missing Issuer"
def errUnexpectedIssuer : String := "issuer should not be there"

structure TokenMetadata (F : Type) where
  type : Bytes
  value : Option (Element F)
  blindingFactor : Option (Element F)
  issuer : Bytes

def TokenMetadata.validate {F : Type} (m : TokenMetadata F) (checkIssuer : Bool) : Outcome Unit := do
  ensure (m.type ≠ []) errEmptyType
  ensure m.value.isSome errEmptyValue
  ensure m.blindingFactor.isSome errEmptyBlindingFactor
  ensure (¬ (checkIssuer ∧ m.issuer = [])) errMissingTokenIssuer
  ensure (¬ (checkIssuer = false ∧ m.issuer ≠ [])) errUnexpectedIssuer

section Commit

variable {F G : Type} [Field F] [AddCommGroup G] [Module F G]

-- The Pedersen commitment to a vector. A nil generator and one of another curve panic in the math library.
def commit (curveID : CurveID) (vector : Elements F) (generators : Elements G) :
    Outcome (Element G) := do
  ensure (¬ generators.length < vector.length)
    s!"insufficient generators: expecting at least [{vector.length}], got [{generators.length}]"
  let sum ← (vector.zip generators).foldlM (fun (com : G) pair => do
    let scalar ← required pair.1 errNilCommitElement
    let generator ← operand curveID pair.2
    ensure (scalar.curve = curveID) "panic: curve mismatch"
    return com + scalar.value • generator) 0
  return { curve := curveID, value := sum }

def computeToken (curve : Curve F G) (pp : PublicParams G) (type : Bytes) (value blindingFactor : Option (Element F)) :
    Outcome (Element G) :=
  commit pp.curve [some { curve := pp.curve, value := curve.hashToZr type }, value, blindingFactor] pp.pedersenGenerators

end Commit

def pointer {α : Type} (curveID : CurveID) (value : α) : Option (Element α) := some ⟨curveID, value⟩

def elementAt {α : Type} (curveID : CurveID) (elements : Elements α) (index : Nat) : Outcome α := do
  let element ← required elements[index]? "panic: index out of range"
  operand curveID element

def commitToType {F G : Type} [Field F] [AddCommGroup G] [Module F G] (curve : Curve F G) (g0 g2 : G) (type : Bytes)
    (typeBF : F) : G :=
  curve.hashToZr type • g0 + typeBF • g2

def pedersen {F G : Type} [Field F] [AddCommGroup G] [Module F G] (g0 g1 g2 : G) (type value blindingFactor : F) : G :=
  type • g0 + value • g1 + blindingFactor • g2

section Reading

variable {α : Type} {curveID : CurveID}

theorem operand_pointer (value : α) : operand curveID (pointer curveID value) = .ok value := operand_ok_iff.mpr rfl

theorem operands_pointers (values : List α) : (values.map (pointer curveID)).mapM (operand curveID) = .ok values := by
  rw [mapM_ok_iff, forall₂_map_left_iff, forall₂_same]
  exact fun value _ => operand_pointer value

theorem element_at_pointers {values : List α} {index : Nat} {value : α} (found : values[index]? = some value) :
    elementAt curveID (values.map (pointer curveID)) index = .ok value := by
  rw [elementAt, getElem?_map, found]
  exact operand_pointer value

theorem each_index_ok {β γ : Type} {items : List β} {step : Nat → Outcome γ} {result : Nat → β → γ}
    (stepped : ∀ index item, items[index]? = some item → step index = .ok (result index item)) :
    (List.range items.length).mapM step = .ok (items.mapIdx result) := by
  rw [mapM_ok_iff, forall₂_iff_get]
  refine ⟨by simp, fun index bound bound' => ?_⟩
  have inside : index < items.length := by simpa using bound'
  simpa using stepped index items[index] (getElem?_eq_getElem inside)

end Reading

open Core Identity Panurus.Token

def errMissingIssuer : String := "On Redeem action, must have at least one issuer"
def errFabTokenNotFound : String := "fabtoken token not found in witness"
def errCommitmentMismatch : String := "recomputed commitment does not match"
def errOwnersMismatch : String := "owners do not correspond"
def errInvalidHTLCAction : String := "invalid transfer action: an htlc script only transfers the ownership of a token"
def errHTLCOutputNotFound : String :=
  "invalid transfer action: an htlc script only transfers the ownership of a token, output not found"
def errIssuerNotAuthorized : String := "issuer is not authorized"

structure Params (G : Type) extends PublicParams G where
  auditorIDs : List Identity
  issuerIDs : List Identity

abbrev TransferContext (F G : Type) := Context (Params G) (Option (Token G)) (Action F G)

section Steps

variable {F G : Type}

def transferActionValidate (limits : Limits) (ctx : TransferContext F G) : Outcome (TransferContext F G) := do
  ctx.action.validate limits
  return ctx

structure SignatureWalk (G : Type) where
  provider : Backend
  signatures : List Bytes
  inputTokens : List (Token G)

def signInput (deserializer : Deserializer) (index : Nat) (walk : SignatureWalk G) (input : Option (ActionInput F G)) :
    Outcome (SignatureWalk G) := do
  let tok ← required (input.bind ActionInput.token) s!"invalid input at index [{index}]: nil input or nil token"
  let verifier ← wrap s!"failed deserializing owner [{index}][{deserializer.uniqueID tok.owner}]"
    (deserializer.getOwnerVerifier tok.owner)
  let (sigma, provider) ← wrap s!"failed signature verification [{index}][{deserializer.uniqueID tok.owner}]"
    (walk.provider.hasBeenSignedBy verifier)
  return { provider, signatures := walk.signatures ++ [sigma], inputTokens := walk.inputTokens ++ [tok] }

def signRedeem (pp : Params G) (deserializer : Deserializer) (action : Action F G) (walk : SignatureWalk G) :
    Outcome (SignatureWalk G) :=
  if pp.issuerIDs ≠ [] ∧ action.outputs.any (fun output => output.any Token.isRedeem) then do
    let issuer ← required action.issuer errMissingIssuer
    ensure (issuer ∈ pp.issuerIDs) errIssuerNotAuthorized
    let verifier ← wrap s!"failed deserializing issuer [{deserializer.uniqueID issuer}]" (deserializer.getIssuerVerifier issuer)
    let (sigma, provider) ← wrap s!"failed signature verification [{deserializer.uniqueID issuer}]"
      (walk.provider.hasBeenSignedBy verifier)
    return { walk with provider, signatures := walk.signatures ++ [sigma] }
  else return walk

def transferSignatureValidate (ctx : TransferContext F G) : Outcome (TransferContext F G) := do
  ensure (ctx.action.inputs ≠ []) errInvalidInputs
  let walk ← foldEach (signInput ctx.deserializer) 0
    { provider := ctx.signatureProvider, signatures := [], inputTokens := [] } ctx.action.inputs
  let walk ← signRedeem ctx.pp ctx.deserializer ctx.action walk
  return { ctx with
    signatureProvider := walk.provider
    signatures := walk.signatures
    inputTokens := walk.inputTokens.map some }

def htlcInput (lib : Htlc.Libraries) (index : Nat) (ctx : TransferContext F G) (input : Option (Token G)) :
    Outcome (TransferContext F G) := do
  let input ← required input s!"nil input token at index [{index}]"
  let owner ← wrap "failed to unmarshal owner of input token" (unmarshalTypedIdentity input.owner)
  if owner.type = htlcScriptIdentityType then do
    ensure (ctx.inputTokens.length = 1 ∧ ctx.action.outputs.length = 1) errInvalidHTLCAction
    let out ← required ctx.action.outputs.head?.join errHTLCOutputNotFound
    let (script, op) ← wrap "failed to verify transfer from htlc script" (Htlc.verifyOwner lib input.owner out.owner ctx.now)
    let sigma ← required ctx.signatures[index]? s!"missing signature for input at index [{index}]"
    let metadataKey ← wrap "failed to check htlc metadata"
      (Htlc.metadataClaimKeyCheck lib ctx.action.metadata script op sigma)
    return if op = .reclaim then ctx else ctx.countMetadataKey metadataKey
  else return ctx

-- The script is read by the standard library here, unlike everywhere else.
def htlcOutput (lib : Htlc.Libraries) (_index : Nat) (ctx : TransferContext F G) (output : Option (Token G)) :
    Outcome (TransferContext F G) :=
  match output with
  | none => .ok ctx
  | some out =>
    if out.isRedeem then .ok ctx
    else Htlc.lockOutput lib (Htlc.unmarshal lib.decodeScript) ctx.action.metadata ctx out.owner

def transferHTLCValidate (lib : Htlc.Libraries) (ctx : TransferContext F G) : Outcome (TransferContext F G) := do
  let ctx ← foldEach (htlcInput lib) 0 ctx ctx.inputTokens
  foldEach (htlcOutput lib) 0 ctx ctx.action.outputs

end Steps

section Pipeline

variable {F G RB RC : Type} [Field F] [DecidableEq F] [AddCommGroup G] [Module F G] [DecidableEq G]

def getTokensWithWitnessAndBF (curve : Curve F G) (pp : PublicParams G) (values : List UInt64)
    (bfs : Elements F) (type : Bytes) : Outcome (List (Element G)) := do
  ensure (values.length = bfs.length) "cannot get tokens with witness: values and bfs must have the same length"
  wrap "cannot get tokens with witness" ((values.zip bfs).zipIdx.mapM fun entry =>
    let value : Element F := { curve := pp.curve, value := (entry.1.1.toNat : F) }
    wrap s!"failed to compute token [{entry.2}]" (computeToken curve pp type (some value) entry.1.2))

-- The commitment is computed once more from the witness. An input that is nil panics.
def upgradeWitness (curve : Curve F G) (pp : Params G) (_index : Nat) (input : Option (ActionInput F G)) : Outcome Unit := do
  let input ← required input "panic: nil input"
  match input.upgradeWitness with
  | none => return ()
  | some witness => do
    let fabToken ← required witness.fabToken errFabTokenNotFound
    let q ← wrap "failed to unmarshal quantity" (toQuantity fabToken.quantity pp.quantityPrecision)
    let tokens ← wrap "failed to compute commitment"
      (getTokensWithWitnessAndBF curve pp.toPublicParams [UInt64.ofNat q.toNat] [witness.blindingFactor] fabToken.type)
    let commitment ← required tokens.head? "panic: index out of range"
    let token ← required input.token "panic: nil token"
    let data ← operand commitment.curve token.data
    ensure (data = commitment.value) errCommitmentMismatch
    ensure (¬ (token.owner = [] ∨ fabToken.owner = [])) errOwnersMismatch
    ensure (token.owner = fabToken.owner) errOwnersMismatch

def transferUpgradeWitnessValidate (curve : Curve F G) (ctx : TransferContext F G) : Outcome (TransferContext F G) := do
  checkEach (upgradeWitness curve ctx.pp) 0 ctx.action.inputs
  return ctx

def transferProofValidate (curve : Curve F G) (systems : Systems F G RB RC) (ctx : TransferContext F G) :
    Outcome (TransferContext F G) := do
  transferZKProofValidate curve systems ctx.pp.toPublicParams ctx.inputTokens ctx.action.toTransferAction
  return ctx

def transferValidators (limits : Limits) (lib : Htlc.Libraries) (curve : Curve F G) (systems : Systems F G RB RC) :
    List (Validate (Params G) (Option (Token G)) (Action F G)) :=
  [transferActionValidate limits,
    transferSignatureValidate,
    transferUpgradeWitnessValidate curve,
    transferProofValidate curve systems,
    transferHTLCValidate lib,
    applicationDataValidate Action.metadata]

structure IssueSide (F G IA : Type) where
  deserializeActions : TokenRequest → Outcome (List (Option IA) × List (Option (Action F G)))
  metadata : IA → Entries
  validators : List (Validate (Params G) (Option (Token G)) IA)

def newValidator {IA : Type} (issues : IssueSide F G IA) (lib : Htlc.Libraries) (curve : Curve F G) (systems : Systems F G RB RC)
    (pp : Params G) (deserializer : Deserializer) (limits : Limits) : Validator (Params G) (Option (Token G)) IA (Action F G) :=
  { publicParams := pp
    deserializer
    deserializeActions := issues.deserializeActions
    issueMetadata := issues.metadata
    transferMetadata := Action.metadata
    auditingValidators := [auditingSignaturesValidate Params.auditorIDs]
    transferValidators := transferValidators limits lib curve systems
    issueValidators := issues.validators
    limits := limits.toResourceLimits
    minProtocolVersion := 0 }

end Pipeline

end Panurus.Zkatdlog
