import Panurus.Driver.Request

namespace Panurus.Driver

open List Lib Outcome

-- The generated messages of the metadata. A missing sub-message is nil, and so may be an element of a repeated one.
-- The inputs of an issue are never nil.
namespace Proto

structure AuditableIdentity where
  identity : Option Bytes
  auditInfo : Bytes
deriving DecidableEq, Repr

structure OutputMetadata where
  metadata : Bytes
  auditInfo : Bytes
  receivers : List (Option AuditableIdentity)
deriving DecidableEq, Repr

structure IssueInputMetadata where
  tokenId : Option Rws.TokenID
deriving DecidableEq, Repr

structure IssueMetadata where
  issuer : Option AuditableIdentity
  inputs : List IssueInputMetadata
  outputs : List (Option OutputMetadata)
  extraSigners : List (Option AuditableIdentity)
deriving DecidableEq, Repr

structure TransferInputMetadata where
  tokenId : Option Rws.TokenID
  senders : List (Option AuditableIdentity)
deriving DecidableEq, Repr

structure TransferMetadata where
  inputs : List (Option TransferInputMetadata)
  outputs : List (Option OutputMetadata)
  issuer : Option AuditableIdentity
  extraSigners : List (Option AuditableIdentity)
deriving DecidableEq, Repr

inductive MetadataKind where
  | issueMetadata (metadata : IssueMetadata)
  | transferMetadata (metadata : TransferMetadata)
  | hashedMetadata (hash : Bytes)
  | unset
deriving DecidableEq, Repr

structure ActionMetadata where
  actionId : UInt32
  metadata : MetadataKind
deriving DecidableEq, Repr

structure TokenRequestMetadata where
  version : UInt32
  metadata : List (Option ActionMetadata)
  applicationMetadata : Entries
deriving DecidableEq, Repr

structure TokenRequestWithMetadata where
  version : UInt32
  anchor : Bytes
  request : Option TokenRequest
  metadata : Option TokenRequestMetadata
deriving DecidableEq, Repr

def emptyIdentity : AuditableIdentity := { identity := none, auditInfo := [] }
def emptyOutput : OutputMetadata := { metadata := [], auditInfo := [], receivers := [] }
def emptyInput : TransferInputMetadata := { tokenId := none, senders := [] }
def emptyAction : ActionMetadata := { actionId := 0, metadata := .unset }

-- An element of a repeated message on the other side: nil is written as the empty message.
def sent {α : Type} (empty : α) (element : Option α) : Option α := some (element.getD empty)

def OutputMetadata.overWire (message : OutputMetadata) : OutputMetadata :=
  { message with receivers := message.receivers.map (sent emptyIdentity) }

def TransferInputMetadata.overWire (message : TransferInputMetadata) : TransferInputMetadata :=
  { message with senders := message.senders.map (sent emptyIdentity) }

def sentOutput (output : Option OutputMetadata) : Option OutputMetadata := sent emptyOutput (output.map OutputMetadata.overWire)

def sentInput (input : Option TransferInputMetadata) : Option TransferInputMetadata :=
  sent emptyInput (input.map TransferInputMetadata.overWire)

def IssueMetadata.overWire (message : IssueMetadata) : IssueMetadata :=
  { message with
    outputs := message.outputs.map sentOutput
    extraSigners := message.extraSigners.map (sent emptyIdentity) }

def TransferMetadata.overWire (message : TransferMetadata) : TransferMetadata :=
  { message with
    inputs := message.inputs.map sentInput
    outputs := message.outputs.map sentOutput
    extraSigners := message.extraSigners.map (sent emptyIdentity) }

def MetadataKind.overWire : MetadataKind → MetadataKind
  | .issueMetadata metadata => .issueMetadata metadata.overWire
  | .transferMetadata metadata => .transferMetadata metadata.overWire
  | kind => kind

def sentAction (action : Option ActionMetadata) : Option ActionMetadata :=
  sent emptyAction (action.map fun found => { found with metadata := found.metadata.overWire })

def TokenRequest.overWire (message : TokenRequest) : TokenRequest :=
  { message with
    actions := message.actions.map (sent .unset)
    signatures := message.signatures.map (sent .unset) }

-- The entries of a map may come back in any order.
def TokenRequestMetadata.overWire (order : Entries → Entries) (message : TokenRequestMetadata) : TokenRequestMetadata :=
  { message with
    metadata := message.metadata.map sentAction
    applicationMetadata := order message.applicationMetadata }

def TokenRequestWithMetadata.overWire (order : Entries → Entries)
    (message : TokenRequestWithMetadata) : TokenRequestWithMetadata :=
  { message with
    request := message.request.map TokenRequest.overWire
    metadata := message.metadata.map (TokenRequestMetadata.overWire order) }

end Proto

def AuditableIdentity.toProtos (a : AuditableIdentity) : Proto.AuditableIdentity :=
  { identity := some a.identity, auditInfo := a.auditInfo }

def AuditableIdentity.fromProtos : Option Proto.AuditableIdentity → AuditableIdentity
  | none => { identity := [], auditInfo := [] }
  | some auditableIdentity => { identity := auditableIdentity.identity.getD [], auditInfo := auditableIdentity.auditInfo }

def OutputMetadata.toProtos (o : OutputMetadata) : Proto.OutputMetadata :=
  { metadata := o.outputMetadata, auditInfo := o.outputAuditInfo, receivers := o.receivers.map (Option.map AuditableIdentity.toProtos) }

def identitiesFromProtos (identities : List (Option Proto.AuditableIdentity)) : List (Option AuditableIdentity) :=
  identities.map (Option.map fun identity => AuditableIdentity.fromProtos (some identity))

def OutputMetadata.fromProtos (message : Proto.OutputMetadata) : OutputMetadata :=
  { outputMetadata := message.metadata
    outputAuditInfo := message.auditInfo
    receivers := identitiesFromProtos message.receivers }

def IssueInputMetadata.toProtos (i : IssueInputMetadata) : Proto.IssueInputMetadata := { tokenId := i.tokenID }

def IssueInputMetadata.fromProtos (message : Proto.IssueInputMetadata) : IssueInputMetadata := { tokenID := message.tokenId }

def IssueMetadata.toProtos (i : IssueMetadata) : Proto.IssueMetadata :=
  { issuer := some i.issuer.toProtos
    inputs := i.inputs.map IssueInputMetadata.toProtos
    outputs := i.outputs.map (Option.map OutputMetadata.toProtos)
    extraSigners := i.extraSigners.map fun signer => some signer.toProtos }

def IssueMetadata.fromProtos (message : Proto.IssueMetadata) : IssueMetadata :=
  { issuer := AuditableIdentity.fromProtos message.issuer
    inputs := message.inputs.map IssueInputMetadata.fromProtos
    outputs := message.outputs.map (Option.map OutputMetadata.fromProtos)
    extraSigners := message.extraSigners.map AuditableIdentity.fromProtos }

def TransferInputMetadata.toProtos (t : TransferInputMetadata) : Proto.TransferInputMetadata :=
  { tokenId := t.tokenID, senders := t.senders.map (Option.map AuditableIdentity.toProtos) }

def TransferInputMetadata.fromProtos (message : Proto.TransferInputMetadata) : TransferInputMetadata :=
  { tokenID := message.tokenId, senders := identitiesFromProtos message.senders }

def TransferIssuer.toProtos (i : TransferIssuer) : Option Proto.AuditableIdentity :=
  i.identity.map fun identity => { identity := some identity, auditInfo := i.auditInfo }

def TransferIssuer.fromProtos : Option Proto.AuditableIdentity → TransferIssuer
  | none => { identity := none, auditInfo := [] }
  | some message => { identity := message.identity.filter (fun raw => raw ≠ []), auditInfo := message.auditInfo }

def TransferMetadata.toProtos (t : TransferMetadata) : Proto.TransferMetadata :=
  { inputs := t.inputs.map (Option.map TransferInputMetadata.toProtos)
    outputs := t.outputs.map (Option.map OutputMetadata.toProtos)
    issuer := t.issuer.toProtos
    extraSigners := t.extraSigners.map fun signer => some signer.toProtos }

def TransferMetadata.fromProtos (message : Proto.TransferMetadata) : TransferMetadata :=
  { inputs := message.inputs.map (Option.map TransferInputMetadata.fromProtos)
    outputs := message.outputs.map (Option.map OutputMetadata.fromProtos)
    extraSigners := message.extraSigners.map AuditableIdentity.fromProtos
    issuer := TransferIssuer.fromProtos message.issuer }

def ActionMetadataEntry.toProtos (action : ActionMetadataEntry) : Outcome Proto.ActionMetadata :=
  match action.issueMetadata, action.transferMetadata with
  | some issue, _ => .ok { actionId := action.actionID, metadata := .issueMetadata issue.toProtos }
  | none, some transfer => .ok { actionId := action.actionID, metadata := .transferMetadata transfer.toProtos }
  | none, none => .error "action metadata must have either IssueMetadata or TransferMetadata, but it is nil"

def ActionMetadataEntry.fromProtos (message : Option Proto.ActionMetadata) : Outcome ActionMetadataEntry := do
  let message ← required message "panic: nil action metadata"
  match message.metadata with
  | .issueMetadata issue =>
    return { actionID := message.actionId, issueMetadata := some (IssueMetadata.fromProtos issue), transferMetadata := none }
  | .transferMetadata transfer =>
    return { actionID := message.actionId, issueMetadata := none, transferMetadata := some (TransferMetadata.fromProtos transfer) }
  | _ => .error "failed unmarshalling metadata, type not recognized"

def TokenRequestMetadata.toProtos (m : TokenRequestMetadata) : Outcome Proto.TokenRequestMetadata := do
  let metadata ← m.actions.mapM ActionMetadataEntry.toProtos
  return { version := protocolV1, metadata := metadata.map some, applicationMetadata := m.application }

def TokenRequestMetadata.fromProtos (message : Proto.TokenRequestMetadata) : Outcome TokenRequestMetadata := do
  ensure (message.version = protocolV1)
    s!"invalid token request metadata version, expected [{protocolV1}], got [{message.version}]"
  let actions ← message.metadata.mapM ActionMetadataEntry.fromProtos
  return { actions, application := message.applicationMetadata }

def RequestSignature.toProtos (r : RequestSignature) : Outcome Proto.Signature :=
  match r.action, r.auditor with
  | some _, some _ => .error "request signature cannot contain both action and auditor signatures"
  | some action, none => .ok (.actionSignature action.actionID (some action.signature))
  | none, some auditor => .ok (.auditorSignature (some auditor.identity) (some auditor.signature))
  | none, none => .error "request signature must contain either an action or auditor signature"

def TypedAction.toProtos (action : TypedAction) : Proto.Action := .typedAction action.type action.raw

def TokenRequest.toProtos (r : TokenRequest) : Outcome Proto.TokenRequest := do
  let signatures ← wrap "failed converting request signatures" (r.signatures.mapM RequestSignature.toProtos)
  return {
    version := if r.version = 0 then protocolV1 else r.version
    actions := r.actions.map fun action => some action.toProtos
    signatures := signatures.map some }

-- Reading into a request that may hold something already: the actions are replaced, the signatures are appended.
def TokenRequest.fromProtosInto (r : TokenRequest) (message : Proto.TokenRequest) : Outcome TokenRequest := do
  ensure (message.version = protocolV1)
    s!"expected [{protocolV1}], got [{message.version}]: {errUnsupportedVersion}"
  let actions ← message.actions.mapM TypedAction.fromProtos
  let signatures ← message.signatures.mapM signatureFromProtos
  let request : TokenRequest := { version := message.version, actions, signatures := r.signatures ++ signatures }
  wrap "token request validation failed" request.validate
  return request

def noIdentity : AuditableIdentity := { identity := [], auditInfo := [] }
def noOutput : OutputMetadata := { outputMetadata := [], outputAuditInfo := [], receivers := [] }
def noInput : TransferInputMetadata := { tokenID := none, senders := [] }

def identitiesReceived (identities : List (Option AuditableIdentity)) : List (Option AuditableIdentity) :=
  identities.map fun identity => some (identity.getD noIdentity)

def OutputMetadata.received (o : OutputMetadata) : OutputMetadata := { o with receivers := identitiesReceived o.receivers }

open OutputMetadata

def outputReceived (output : Option OutputMetadata) : OutputMetadata := (output.map received).getD noOutput

def outputsReceived (outputs : List (Option OutputMetadata)) : List (Option OutputMetadata) :=
  outputs.map fun output => some (outputReceived output)

def TransferInputMetadata.received (t : TransferInputMetadata) : TransferInputMetadata :=
  { t with senders := identitiesReceived t.senders }

def TransferIssuer.received (i : TransferIssuer) : TransferIssuer :=
  { identity := i.identity.filter (fun raw => raw ≠ []), auditInfo := if i.identity.isSome then i.auditInfo else [] }

def IssueMetadata.received (i : IssueMetadata) : IssueMetadata := { i with outputs := outputsReceived i.outputs }

def TransferMetadata.received (t : TransferMetadata) : TransferMetadata :=
  { t with
    inputs := t.inputs.map fun input => some ((input.map TransferInputMetadata.received).getD noInput)
    outputs := outputsReceived t.outputs
    issuer := t.issuer.received }

def ActionMetadataEntry.received (entry : ActionMetadataEntry) : ActionMetadataEntry :=
  match entry.issueMetadata with
  | some issue => { entry with issueMetadata := some issue.received, transferMetadata := none }
  | none => { entry with transferMetadata := entry.transferMetadata.map TransferMetadata.received }

theorem identity_arrives (a : AuditableIdentity) : AuditableIdentity.fromProtos (some a.toProtos) = a := rfl

theorem identities_arrive (identities : List (Option AuditableIdentity)) :
    identitiesFromProtos ((identities.map (Option.map AuditableIdentity.toProtos)).map (Proto.sent Proto.emptyIdentity)) =
      identitiesReceived identities := by
  simp only [identitiesFromProtos, identitiesReceived, map_map]
  apply map_congr_left
  intro identity _
  cases identity <;> rfl

theorem signers_arrive (signers : List AuditableIdentity) :
    ((signers.map fun signer => some signer.toProtos).map (Proto.sent Proto.emptyIdentity)).map AuditableIdentity.fromProtos =
      signers := by
  rw [map_map, map_map]
  exact map_id signers

theorem output_arrives (o : OutputMetadata) : fromProtos o.toProtos.overWire = o.received := by
  simp only [fromProtos, toProtos, Proto.OutputMetadata.overWire, received, identities_arrive]

theorem outputs_arrive (outputs : List (Option OutputMetadata)) :
    ((outputs.map (Option.map toProtos)).map Proto.sentOutput).map (Option.map fromProtos) = outputsReceived outputs := by
  rw [map_map, map_map]
  apply map_congr_left
  intro output _
  cases output with
  | none => rfl
  | some found => exact congrArg some (output_arrives found)

theorem input_arrives (t : TransferInputMetadata) : TransferInputMetadata.fromProtos t.toProtos.overWire = t.received := by
  simp only [TransferInputMetadata.fromProtos, TransferInputMetadata.toProtos, Proto.TransferInputMetadata.overWire,
    TransferInputMetadata.received, identities_arrive]

theorem inputs_arrive (inputs : List (Option TransferInputMetadata)) :
    ((inputs.map (Option.map TransferInputMetadata.toProtos)).map Proto.sentInput).map
        (Option.map TransferInputMetadata.fromProtos) =
      inputs.map fun input => some ((input.map TransferInputMetadata.received).getD noInput) := by
  rw [map_map, map_map]
  apply map_congr_left
  intro input _
  cases input with
  | none => rfl
  | some found => exact congrArg some (input_arrives found)

theorem transfer_issuer_arrives (i : TransferIssuer) : TransferIssuer.fromProtos i.toProtos = i.received := by
  obtain ⟨identity, auditInfo⟩ := i
  cases identity <;> rfl

theorem issue_metadata_arrives (i : IssueMetadata) : IssueMetadata.fromProtos i.toProtos.overWire = i.received := by
  have inputs : (i.inputs.map IssueInputMetadata.toProtos).map IssueInputMetadata.fromProtos = i.inputs := by
    rw [map_map]
    exact map_id i.inputs
  simp only [IssueMetadata.fromProtos, IssueMetadata.toProtos, Proto.IssueMetadata.overWire, IssueMetadata.received,
    identity_arrives, inputs, outputs_arrive, signers_arrive]

theorem transfer_metadata_arrives (t : TransferMetadata) : TransferMetadata.fromProtos t.toProtos.overWire = t.received := by
  simp only [TransferMetadata.fromProtos, TransferMetadata.toProtos, Proto.TransferMetadata.overWire,
    TransferMetadata.received, inputs_arrive, outputs_arrive, signers_arrive, transfer_issuer_arrives]

theorem entry_arrives {entry : ActionMetadataEntry} {message : Proto.ActionMetadata} (written : entry.toProtos = .ok message) :
    ActionMetadataEntry.fromProtos (Proto.sentAction (some message)) = .ok entry.received := by
  obtain ⟨actionID, issue, transfer⟩ := entry
  cases issue with
  | some issue =>
    obtain rfl := Except.ok.inj written
    exact congrArg Except.ok (congrArg (fun read => (⟨actionID, some read, none⟩ : ActionMetadataEntry))
      (issue_metadata_arrives issue))
  | none =>
    cases transfer with
    | none => cases written
    | some transfer =>
      obtain rfl := Except.ok.inj written
      exact congrArg Except.ok (congrArg (fun read => (⟨actionID, none, some read⟩ : ActionMetadataEntry))
        (transfer_metadata_arrives transfer))

theorem metadata_arrives {m : TokenRequestMetadata} {message : Proto.TokenRequestMetadata}
    (order : Entries → Entries) (written : m.toProtos = .ok message) :
    TokenRequestMetadata.fromProtos (message.overWire order) =
      .ok { actions := m.actions.map ActionMetadataEntry.received, application := order m.application } := by
  simp only [TokenRequestMetadata.toProtos, ok_iff] at written
  obtain ⟨messages, converted, rfl⟩ := written
  have read : ((messages.map some).map Proto.sentAction).mapM ActionMetadataEntry.fromProtos =
      .ok (m.actions.map ActionMetadataEntry.received) := by
    rw [map_map, mapM_ok_iff, forall₂_map_left_iff, forall₂_map_right_iff]
    exact (mapM_ok_iff.mp converted).flip.imp fun _ _ => entry_arrives
  simp only [TokenRequestMetadata.fromProtos, Proto.TokenRequestMetadata.overWire, ok_iff]
  exact ⟨(), trivial, _, read, rfl⟩

variable {message : Proto.Signature} {signature : RequestSignature}

theorem signature_from_protos_ok_iff :
    signatureFromProtos (some message) = .ok signature ↔
      RequestSignature.fromProtos message = .ok signature ∧ (∀ action ∈ signature.action, action.signature ≠ []) ∧
        ∀ auditor ∈ signature.auditor, auditor.signature ≠ [] := by
  simp only [signatureFromProtos, ok_iff, Option.some.injEq, exists_const, exists_eq_left']
  simp only [← and_assoc, exists_eq_right]

theorem signature_arrives (written : signature.toProtos = .ok message)
    {index : Nat} (valid : validateSignature index signature = .ok ()) :
    signatureFromProtos (Proto.sent .unset (some message)) = .ok signature := by
  apply signature_from_protos_ok_iff.mpr
  obtain ⟨action, auditor⟩ := signature
  cases action with
  | none =>
    cases auditor with
    | none => cases written
    | some auditor =>
      obtain rfl := Except.ok.inj written
      simp only [validateSignature, ensure_ok_iff] at valid
      exact ⟨rfl, by simp, by simpa using valid⟩
  | some action =>
    cases auditor with
    | some auditor => cases written
    | none =>
      obtain rfl := Except.ok.inj written
      simp only [validateSignature, ensure_ok_iff] at valid
      exact ⟨rfl, by simpa using valid, by simp⟩

theorem action_arrives {action : TypedAction} (known : action.type = .issue ∨ action.type = .transfer) :
    TypedAction.fromProtos (Proto.sent .unset (some action.toProtos)) = .ok action := by
  obtain ⟨type, raw⟩ := action
  cases type <;> simp at known <;> rfl

theorem validate_ok_iff {request : TokenRequest} {done : Unit} :
    request.validate = .ok done ↔ checkEach validateAction 0 request.actions = .ok () ∧
      checkEach validateSignature 0 request.signatures = .ok () := by
  simp only [TokenRequest.validate, bind_ok_iff]
  exact ⟨fun ⟨_, actions, signatures⟩ => ⟨actions, signatures⟩, fun ⟨actions, signatures⟩ => ⟨(), actions, signatures⟩⟩

structure TokenRequest.Sendable (r : TokenRequest) : Prop where
  version : r.version = 0 ∨ r.version = protocolV1
  known : ∀ action ∈ r.actions, action.type = .issue ∨ action.type = .transfer
  valid : r.validate = .ok ()

theorem request_arrives_into {r read destination : TokenRequest} {message : Proto.TokenRequest} (sendable : r.Sendable)
    (written : r.toProtos = .ok message) :
    destination.fromProtosInto message.overWire = .ok read ↔
      checkEach validateSignature 0 (destination.signatures ++ r.signatures) = .ok () ∧
        read = { version := protocolV1, actions := r.actions, signatures := destination.signatures ++ r.signatures } := by
  obtain ⟨actionsValid, signaturesValid⟩ := validate_ok_iff.mp sendable.valid
  simp only [TokenRequest.toProtos, ok_iff] at written
  obtain ⟨messages, converted, rfl⟩ := written
  have version : (if r.version = 0 then protocolV1 else r.version) = protocolV1 := by
    rcases sendable.version with zero | one
    · rw [if_pos zero]
    · rw [one]
      rfl
  have actions : ((r.actions.map fun action => some action.toProtos).map (Proto.sent .unset)).mapM TypedAction.fromProtos =
      .ok r.actions := by
    rw [map_map, mapM_ok_iff, forall₂_map_left_iff, forall₂_same]
    exact fun action mem => action_arrives (sendable.known action mem)
  have signatures : ((messages.map some).map (Proto.sent .unset)).mapM signatureFromProtos = .ok r.signatures := by
    rw [map_map, mapM_ok_iff, forall₂_map_left_iff, forall₂_iff_get]
    have pairs := mapM_ok_iff.mp converted
    refine ⟨pairs.length_eq.symm, ?_⟩
    intro index bound other
    have valid := check_each_ok_iff.mp signaturesValid index _ (getElem?_eq_getElem other)
    exact signature_arrives (pairs.get other bound) valid
  simp only [TokenRequest.fromProtosInto, Proto.TokenRequest.overWire, version, actions, signatures, ok_iff, validate_ok_iff,
    Except.ok.injEq, exists_eq_left', exists_const, true_and, actionsValid]
  exact and_congr_right fun _ => eq_comm

end Panurus.Driver
