import Mathlib.Data.List.ReduceOption
import Panurus.Fabtoken.Authorisation
import Panurus.Client.Request

namespace Panurus.Fabtoken

open Lib Outcome Text Core Driver Token Client

def transferMetadataPrefix : Bytes := ascii "TransferMetadataPrefix"
def issueMetadataPrefix : Bytes := ascii "IssueMetadataPrefix"
def issuerFSCIdentityKey : Bytes := ascii "IssuerFSCIdentityKey"
def issuerPublicParamsPublicKey : Bytes := ascii "IssuerPublicParamsPublicKey"

-- A value of any type under a key; the keys of a map are different, and it is listed in the order of an iteration.
inductive AttributeValue where
  | bytes (raw : Bytes)
  | identity (id : Identity)
  | other (type : String)
deriving DecidableEq, Repr

def AttributeValue.typeName : AttributeValue → String
  | .bytes _ => "[]uint8"
  | .identity _ => "view.Identity"
  | .other type => type

abbrev Attributes := List (Bytes × AttributeValue)

def actionMetadata (attrs : Attributes) (leading : Bytes) : Entries :=
  attrs.filterMap fun attr =>
    match attr.2 with
    | .bytes raw => if leading <+: attr.1 then some (attr.1.drop leading.length, raw) else none
    | _ => none

def transferActionMetadata (attrs : Attributes) : Entries := actionMetadata attrs transferMetadataPrefix
def issueActionMetadata (attrs : Attributes) : Entries := actionMetadata attrs issueMetadataPrefix

-- The two getters differ in the key and in a word of the error; an attribute that is not there is an empty identity.
def getIdentityFromOpts (key : Bytes) (expected : String) (attributes : Attributes) : Outcome Identity :=
  match attributes.lookup key with
  | none => .ok []
  | some (.identity id) => .ok id
  | some value => .error s!"expected {expected}, found [{value.typeName}]"

def getFSCIssuerIdentityFromOpts : Attributes → Outcome Identity := getIdentityFromOpts issuerFSCIdentityKey "identity"
def getIssuerPublicParamsPublicKeyFromOpts : Attributes → Outcome Identity :=
  getIdentityFromOpts issuerPublicParamsPublicKey "signing key"

-- An empty identity among the issuers is a nil one: so is what the parameters are read to.
def selectIssuerForRedeem (issuers : List Identity) (attributes : Attributes) : Outcome (Option Identity) :=
  match issuers with
  | [] => .ok none
  | first :: _ => do
    let issuerNetworkIdentity ← wrap "failed to get issuer network identity" (getFSCIssuerIdentityFromOpts attributes)
    if issuerNetworkIdentity ≠ [] then do
      let issuerSigningKey ← wrap "failed to get issuer public params public key"
        (getIssuerPublicParamsPublicKeyFromOpts attributes)
      ensure (issuerSigningKey ≠ []) "issuer public params public key not found in opts"
      return some issuerSigningKey
    else return if first = [] then none else some first

-- The wire has no place for an empty byte string.
def rawOf (raw : Bytes) : Option Bytes := if raw = [] then none else some raw

def Output.toProto (output : Output) : Proto.Token :=
  { owner := output.owner, type := output.type, quantity := output.quantity }

def outputToProto (output : Option Output) : Option Proto.ActionOutput :=
  output.map fun output => { token := some output.toProto }

def TransferActionInput.toProtos (input : TransferActionInput) : Proto.TransferActionInput :=
  { tokenId := input.id, input := input.input.map Output.toProto }

def IssueAction.toProtos (i : IssueAction) : Proto.IssueAction :=
  { version := protocolV1
    issuer := some { raw := rawOf i.issuer }
    outputs := i.outputs.map outputToProto
    metadata := i.metadata }

def TransferAction.toProtos (t : TransferAction) : Proto.TransferAction :=
  { version := protocolV1
    inputs := t.inputs.map fun input => input.elim { tokenId := none, input := none } TransferActionInput.toProtos
    outputs := t.outputs.map outputToProto
    metadata := t.metadata
    issuer := t.issuer.map fun issuer => { raw := rawOf issuer } }

-- What the services of the driver stand on: the tokens of the vault, what the identities are audited by, the metadata of
-- an output issued by an issuer, and the protobuf runtime's Marshal.
structure Services where
  pp : PublicParams
  maxTokenValue : UInt64
  uniqueID : Identity → String
  getTokens : List Rws.TokenID → Outcome (List Output)
  getAuditInfo : Identity → Outcome Bytes
  recipients : Identity → Outcome (List Identity)
  serializeOutputMetadata : Identity → Outcome Bytes
  marshalIssueAction : Proto.IssueAction → Outcome Bytes
  marshalTransferAction : Proto.TransferAction → Outcome Bytes

namespace Services

variable (s : Services)

def auditableIdentity (text : String) (identity : Identity) : Outcome AuditableIdentity := do
  let auditInfo ← wrap s!"{text} [{s.uniqueID identity}]" (s.getAuditInfo identity)
  return { identity, auditInfo }

def auditableRecipients (owner : Identity) : Outcome (List (Option AuditableIdentity)) := do
  let recipients ← wrap s!"failed getting recipients of [{s.uniqueID owner}]" (s.recipients owner)
  recipients.mapM fun recipient => do
    let receiver ← s.auditableIdentity "failed getting audit info for recipient" recipient
    return some receiver

def issueOutput (issuerIdentity : Identity) (tokenType : Bytes) (entry : (UInt64 × Identity) × Nat) :
    Outcome (Output × OutputMetadata) := do
  let ((v, owner), i) := entry
  let precision := s.pp.quantityPrecision
  let q ← wrap s!"failed to convert [{v}] to quantity of precision [{precision}]" (uInt64ToQuantity v precision)
  let outputMetadata ← wrap "failed serializing token information" (s.serializeOutputMetadata issuerIdentity)
  let outputAuditInfo ← s.getAuditInfo owner
  let receivers ← wrap s!"failed getting receivers of issue output [{i}]" (s.auditableRecipients owner)
  return ({ owner, type := tokenType, quantity := q.hex }, { outputMetadata, outputAuditInfo, receivers })

def issue (issuerIdentity : Identity) (tokenType : Bytes) (values : List UInt64) (owners : List Identity)
    (attributes : Attributes) : Outcome (IssueAction × IssueMetadata) := do
  ensure (¬ (issuerIdentity = [] ∧ tokenType = [] ∧ values = [])) "issuer identity, token type and values should be defined"
  let outs ← (values.zip owners).zipIdx.mapM (s.issueOutput issuerIdentity tokenType)
  let auditInfo ← wrap "failed to get audit info for issuer identity" (s.getAuditInfo issuerIdentity)
  return ({
      issuer := issuerIdentity
      outputs := outs.map fun out => some out.1
      metadata := issueActionMetadata attributes },
    { issuer := { identity := issuerIdentity, auditInfo }
      inputs := []
      outputs := outs.map fun out => some out.2
      extraSigners := [] })

def transferInput (entry : Output × Rws.TokenID) : Outcome TransferInputMetadata := do
  let sender ← s.auditableIdentity "failed getting audit info for sender identity" entry.1.owner
  return { tokenID := some entry.2, senders := [some sender] }

def transferOutput (outputMetadata : Bytes) (output : Output) : Outcome OutputMetadata :=
  if output.isRedeem then
    .ok { outputMetadata, outputAuditInfo := [], receivers := [some { identity := output.owner, auditInfo := [] }] }
  else do
    let sender ← s.auditableIdentity "failed getting audit info for sender identity" output.owner
    let recipients ← wrap "failed getting recipients" (s.recipients output.owner)
    let receivers ← recipients.mapM (s.auditableIdentity "failed getting audit info for receiver identity")
    return { outputMetadata, outputAuditInfo := sender.auditInfo, receivers := receivers.map some }

-- The vault has a token for each identifier: the code takes the tokens by the positions of the identifiers.
def transfer (ids : List Rws.TokenID) (outputs : List Output) (attributes : Attributes) :
    Outcome (TransferAction × TransferMetadata) := do
  let inputTokens ← wrap "failed to load tokens" (s.getTokens ids)
  ensure (inputTokens.length = ids.length) "index out of range"
  let inputs ← (inputTokens.zip ids).mapM s.transferInput
  let outputMetadata ← wrap "failed serializing output information" (s.serializeOutputMetadata [])
  let outs ← outputs.mapM (s.transferOutput outputMetadata)
  let issuer ← (if outputs.any Output.isRedeem then
      wrap "failed to select issuer for redeem" (selectIssuerForRedeem s.pp.issuers attributes)
    else .ok none)
  return ({
      inputs := (inputTokens.zip ids).map fun entry => some { id := some entry.2, input := some entry.1 }
      outputs := outputs.map some
      metadata := transferActionMetadata attributes
      issuer },
    { inputs := inputs.map some
      outputs := outs.map some
      extraSigners := []
      issuer := { identity := issuer, auditInfo := [] } })

end Services

open List

namespace Services

variable (s : Services)

def requestIssue (r : Request) (wallet : Option (Bytes → Outcome Identity)) (receiver : Identity) (typ : Bytes)
    (q : UInt64) (attributes : Attributes) : Outcome Request := do
  let wallet ← required wallet "wallet is nil"
  ensure (typ ≠ []) "type is empty"
  ensure (q ≠ 0) "q is zero"
  ensure (¬ q > s.maxTokenValue) s!"q is larger than max token value [{s.maxTokenValue}]"
  ensure (receiver ≠ []) "all recipients should be defined"
  let id ← wrap s!"failed getting issuer identity for type [{render typ}]" (wallet typ)
  let (action, metadata) ← s.issue id typ [q] [receiver] attributes
  let raw ← s.marshalIssueAction action.toProtos
  return r.appendAction .issue raw (some metadata) none

-- A transfer and a redeem differ in how the inputs and the outputs are chosen, and that is any choice here. The check
-- made when debugging is left out: it takes requests away only.
def appendTransfer (r : Request) (prepared : Outcome (List Rws.TokenID × List Output)) (attributes : Attributes) :
    Outcome Request := do
  let (tokenIDs, outputTokens) ← wrap "failed preparing transfer" prepared
  let (transfer, metadata) ← wrap "failed creating transfer action" (s.transfer tokenIDs outputTokens attributes)
  let raw ← wrap "failed serializing transfer action" (s.marshalTransferAction transfer.toProtos)
  return r.appendAction .transfer raw none (some metadata)

def requestTransfer (r : Request) (values : List UInt64) (prepared : Outcome (List Rws.TokenID × List Output))
    (attributes : Attributes) : Outcome Request := do
  ensure (0 ∉ values) "value is zero"
  s.appendTransfer r prepared attributes

def requestRedeem (r : Request) (prepared : Outcome (List Rws.TokenID × List Output)) (attributes : Attributes) :
    Outcome Request :=
  s.appendTransfer r prepared attributes

inductive Built : Request → Prop where
  | new (anchor : Bytes) : Built (.new anchor)
  | issue {r next : Request} (wallet : Option (Bytes → Outcome Identity)) (receiver : Identity) (typ : Bytes)
      (q : UInt64) (attributes : Attributes) (before : Built r)
      (called : s.requestIssue r wallet receiver typ q attributes = .ok next) : Built next
  | transfer {r next : Request} (values : List UInt64) (prepared : Outcome (List Rws.TokenID × List Output))
      (attributes : Attributes) (before : Built r) (called : s.requestTransfer r values prepared attributes = .ok next) :
      Built next
  | redeem {r next : Request} (prepared : Outcome (List Rws.TokenID × List Output)) (attributes : Attributes)
      (before : Built r) (called : s.requestRedeem r prepared attributes = .ok next) : Built next
  | audited {r : Request} (identity : Identity) (sigma : Bytes) (before : Built r) :
      Built (r.addAuditorSignature identity sigma)

end Services

def Signer.identity : Signer → Identity
  | .owner id | .issuer id => id

def listedSigners (metadata : ActionMetadataEntry) : List Signer :=
  (metadata.issueMetadata.elim [] fun issued => (issueOf issued).signers.map Signer.issuer) ++
    metadata.transferMetadata.elim [] fun transferred =>
      (transferOf transferred).senders.map Signer.owner ++
        (transferOf transferred).issuer.toList.map Signer.issuer ++
        (transferOf transferred).extraSigners.map Signer.owner

theorem listed_signers_eq (metadata : ActionMetadataEntry) :
    (listedSigners metadata).map (fun signer => { signer := signer.identity, actionID := metadata.actionID }) =
      entryIssueSigners metadata ++ entryTransferSigners metadata := by
  simp only [listedSigners, entryIssueSigners, entryTransferSigners, map_append]
  congr 1
  · cases metadata.issueMetadata <;> simp [Function.comp_def, Signer.identity]
  · cases metadata.transferMetadata <;> simp [Function.comp_def, Signer.identity, Transfer.signers]

-- The action a client made and what it noted about it: the signers are those the action requires, if the validator
-- agrees with the issuer that was selected.
inductive BuiltEntry (s : Services) : TypedAction → ActionMetadataEntry → AnyAction → Prop where
  | issue {raw : Bytes} {id : UInt32} {metadata : IssueMetadata} {action : IssueAction}
      (marshalled : s.marshalIssueAction action.toProtos = .ok raw) (complete : none ∉ action.outputs)
      (issuer : metadata.issuer.identity = action.issuer) (extraSigners : metadata.extraSigners = []) :
      BuiltEntry s ⟨.issue, raw⟩ ⟨id, some metadata, none⟩ (.issue action)
  | transfer {raw : Bytes} {id : UInt32} {metadata : TransferMetadata} {action : TransferAction}
      (marshalled : s.marshalTransferAction action.toProtos = .ok raw) (complete : none ∉ action.outputs)
      (inputs : action.inputs.map inputToken = action.tokens.map some)
      (senders : metadata.senders = action.tokens.map Output.owner)
      (issuer : metadata.issuer.identity = action.issuer) (named : action.issuer ≠ some [])
      (redeem : action.issuer ≠ none → s.pp.issuers ≠ [] ∧ action.redeems) (extraSigners : metadata.extraSigners = []) :
      BuiltEntry s ⟨.transfer, raw⟩ ⟨id, none, some metadata⟩ (.transfer action)

variable {attributes : Attributes} {s : Services} {raw : Bytes} {r : Request}

theorem select_issuer_ok {issuers : List Identity} {issuer : Option Identity}
    (selected : selectIssuerForRedeem issuers attributes = .ok issuer) : issuer ≠ some [] ∧ (issuer ≠ none → issuers ≠ []) := by
  cases issuers with
  | nil =>
    rw [selectIssuerForRedeem, Except.ok.injEq] at selected
    subst selected
    simp
  | cons first rest =>
    simp only [selectIssuerForRedeem, ok_iff] at selected
    obtain ⟨network, _, rest⟩ := selected
    by_cases named : network ≠ []
    · simp only [if_pos named, ok_iff, exists_const] at rest
      obtain ⟨key, _, present, rfl⟩ := rest
      simpa using present
    · rw [if_neg named, pure_ok_iff] at rest
      rw [← rest]
      by_cases empty : first = [] <;> simp [empty]

open Services

theorem issue_built {issuer : Identity} {tokenType : Bytes} {values : List UInt64} {owners : List Identity} {action : IssueAction}
    {metadata : IssueMetadata} (id : UInt32) (made : s.issue issuer tokenType values owners attributes = .ok (action, metadata))
    (marshalled : s.marshalIssueAction action.toProtos = .ok raw) :
    BuiltEntry s ⟨.issue, raw⟩ ⟨id, some metadata, none⟩ (.issue action) := by
  simp only [issue, ok_iff, Prod.mk.injEq, exists_const] at made
  obtain ⟨_, outs, _, _, _, rfl, rfl⟩ := made
  exact .issue marshalled (by simp) rfl rfl

theorem transfer_inputs_senders {entries : List (Output × Rws.TokenID)} {inputs : List TransferInputMetadata}
    (made : entries.mapM s.transferInput = .ok inputs) :
    (inputs.map some).reduceOption.flatMap (fun input => input.senders.map identityOf) =
      entries.map fun entry => entry.1.owner := by
  have pairs := mapM_ok_iff.mp made
  clear made
  induction pairs with
  | nil => rfl
  | cons first _ ih =>
    simp only [Services.transferInput, Services.auditableIdentity, ok_iff] at first
    obtain ⟨_, ⟨_, _, rfl⟩, rfl⟩ := first
    rw [map_cons, reduceOption_cons_of_some, flatMap_cons, ih]
    rfl

theorem transfer_built {ids : List Rws.TokenID} {outputs : List Output} {action : TransferAction} {metadata : TransferMetadata}
    (id : UInt32) (made : s.transfer ids outputs attributes = .ok (action, metadata))
    (marshalled : s.marshalTransferAction action.toProtos = .ok raw) :
    BuiltEntry s ⟨.transfer, raw⟩ ⟨id, none, some metadata⟩ (.transfer action) := by
  simp only [transfer, ok_iff, Prod.mk.injEq, exists_const] at made
  obtain ⟨tokens, _, same, inputs, senders, _, _, outs, _, issuer, selected, rfl, rfl⟩ := made
  have spent : (tokens.zip ids).map Prod.fst = tokens := map_fst_zip (Nat.le_of_eq same)
  have listed : ((tokens.zip ids).map fun entry => (some ⟨some entry.2, some entry.1⟩ : Option TransferActionInput)).map
      inputToken = tokens.map some := by
    rw [map_map, ← congrArg (map some) spent, map_map]
    rfl
  have owned := tokens_filter_map listed
  have redeemed : issuer ≠ some [] ∧ (issuer ≠ none → s.pp.issuers ≠ [] ∧ outputs.any Output.isRedeem) := by
    by_cases redeem : outputs.any Output.isRedeem
    · rw [if_pos redeem, wrap_ok_iff] at selected
      obtain ⟨named, configured⟩ := select_issuer_ok selected
      exact ⟨named, fun present => ⟨configured present, redeem⟩⟩
    · rw [if_neg redeem, Except.ok.injEq] at selected
      subst selected
      simp
  refine .transfer marshalled (by simp) ?_ ?_ ?_ redeemed.1 ?_ rfl
  · rw [TransferAction.tokens, owned, listed]
  · rw [TransferMetadata.senders, transfer_inputs_senders senders, TransferAction.tokens, owned,
      ← congrArg (map Output.owner) spent, map_map]
    rfl
  · rfl
  · simpa [TransferAction.redeems] using redeemed.2

structure Noted (s : Services) (r : Request) : Prop where
  entries : List.Forall₂ (fun (entry : TypedAction × Nat) metadata => metadata.actionID = UInt32.ofNat entry.2 ∧
    ∃ value, BuiltEntry s entry.1 metadata value) r.actions.actions.zipIdx r.metadata.actions
  unsigned : ∀ signature ∈ r.actions.signatures, signature.auditor.isSome

theorem noted_append {type : ActionType} {issueMetadata : Option IssueMetadata} {transferMetadata : Option TransferMetadata}
    {value : AnyAction} (before : Noted s r) (built : ∀ id, BuiltEntry s ⟨type, raw⟩ ⟨id, issueMetadata, transferMetadata⟩ value)
    : Noted s (r.appendAction type raw issueMetadata transferMetadata) := by
  refine ⟨?_, before.unsigned⟩
  simp only [Request.appendAction, zipIdx_append]
  refine rel_append before.entries (.cons ⟨?_, value, built _⟩ .nil)
  rw [Nat.zero_add]

theorem append_transfer_noted {next : Request} {prepared : Outcome (List Rws.TokenID × List Output)} (before : Noted s r)
    (called : s.appendTransfer r prepared attributes = .ok next) : Noted s next := by
  simp only [appendTransfer, ok_iff, Prod.exists] at called
  obtain ⟨_, _, _, action, metadata, made, raw, marshalled, rfl⟩ := called
  exact noted_append before fun id => transfer_built id made marshalled

theorem built_noted (built : s.Built r) : Noted s r := by
  induction built with
  | new anchor => exact ⟨.nil, by simp [Request.new]⟩
  | issue wallet receiver typ q attributes _ called ih =>
    simp only [requestIssue, ok_iff, Prod.exists] at called
    obtain ⟨_, _, _, _, _, _, _, _, _, _, id, _, action, metadata, made, raw, marshalled, rfl⟩ := called
    exact noted_append ih fun id => issue_built id made marshalled
  | transfer values prepared attributes _ called ih =>
    simp only [requestTransfer, bind_ok_iff] at called
    obtain ⟨_, _, appended⟩ := called
    exact append_transfer_noted ih appended
  | redeem prepared attributes _ called ih => exact append_transfer_noted ih called
  | audited identity sigma _ ih =>
    refine ⟨ih.entries, ?_⟩
    intro signature mem
    simp only [Request.addAuditorSignature, mem_append, mem_singleton] at mem
    cases mem with
    | inl old => exact ih.unsigned signature old
    | inr added => rw [added]; rfl

end Panurus.Fabtoken
