import Panurus.Core.Backend
import Panurus.Token.Quantity

namespace Panurus.Client

open Lib Outcome Core Driver Panurus.Token ActionMetadataEntry

structure Token where
  owner : Identity
  type : Bytes
  quantity : Bytes
deriving DecidableEq, Repr

structure Deobfuscated where
  tok : Token
  issuer : Identity
  recipients : List Identity
  format : Bytes

structure ManagementService where
  uniqueID : Identity → String
  precision : UInt64
  deserializeIssueAction : Bytes → Outcome ActionInterface
  deserializeTransferAction : Bytes → Outcome ActionInterface
  verifyIssue : ActionInterface → List (Option OutputMetadata) → Outcome Unit
  verifyTransfer : ActionInterface → List (Option OutputMetadata) → Outcome Unit
  deobfuscate : Bytes → Bytes → Outcome Deobfuscated
  getEIDAndRH : Identity → Bytes → Outcome (Bytes × Bytes)

structure Request where
  anchor : Bytes
  actions : TokenRequest
  metadata : TokenRequestMetadata

def Request.new (anchor : Bytes) : Request :=
  { anchor, actions := { version := 0, actions := [], signatures := [] }, metadata := { actions := [], application := [] } }

structure Output where
  tok : Token
  actionType : ActionType
  actionIndex : Nat
  index : UInt64
  owner : Identity
  ownerAuditInfo : Bytes
  enrollmentID : Bytes
  revocationHandler : Bytes
  type : Bytes
  quantity : Quantity
  ledgerOutput : Bytes
  ledgerOutputFormat : Bytes
  ledgerOutputMetadata : Bytes
  issuer : Identity

def Output.id (o : Output) (anchor : Bytes) : Rws.TokenID := { txId := anchor, index := o.index }

structure Input where
  actionType : ActionType
  actionIndex : Nat
  index : Nat
  id : Option Rws.TokenID
  owner : Identity
  ownerAuditInfo : Bytes
  enrollmentID : Bytes
  revocationHandler : Bytes

def newInput (actionType : ActionType) (actionIndex index : Nat) (id : Option Rws.TokenID) : Input :=
  { actionType, actionIndex, index, id, owner := [], ownerAuditInfo := [], enrollmentID := [], revocationHandler := [] }

section Extraction

variable (tms : ManagementService) (failOnMissing noOutputForRecipient : Bool)

def matchRecipient (i j : Nat) (metadata : OutputMetadata) (k : Nat) (recipient : Identity) : Outcome AuditableIdentity := do
  let metaRecipient ← required (metadata.recipientAt k) s!"missing recipient metadata for output [{i},{j}]"
  ensure (recipient = metaRecipient.identity)
    s!"invalid recipient [{i},{j}] [{tms.uniqueID recipient}:{tms.uniqueID metaRecipient.identity}]"
  return metaRecipient

def issueOutput (i j : Nat) (counter : UInt64) (issueAction : ActionInterface) (issueMeta : IssueMetadata)
    (output : Option OutputInterface) : Outcome (List Output) := do
  let output ← required output s!"{j}^th output in issue action [{i}] is nil"
  let raw ← wrap s!"failed deserializing issue action output [{i},{j}]" output.serialize
  match issueMeta.outputs[j]?.join with
  | none => do
    ensure (failOnMissing = false) s!"missing token info for output [{i},{j}]"
    return []
  | some metadata => do
    let clear ← wrap s!"failed getting issue action output in the clear [{i},{j}]"
      (tms.deobfuscate raw metadata.outputMetadata)
    ensure (clear.issuer = issueAction.issuer.getD []) s!"invalid issuer [{i},{j}]"
    ensure (clear.recipients ≠ []) s!"missing recipients [{i},{j}]"
    let quantity ← wrap s!"failed getting quantity [{i},{j}]" (toQuantity clear.tok.quantity tms.precision)
    let extracted : Output :=
      { tok := clear.tok
        actionType := .issue
        actionIndex := i
        index := counter
        owner := clear.tok.owner
        ownerAuditInfo := []
        enrollmentID := []
        revocationHandler := []
        type := clear.tok.type
        quantity
        ledgerOutput := raw
        ledgerOutputFormat := clear.format
        ledgerOutputMetadata := metadata.outputMetadata
        issuer := clear.issuer }
    if noOutputForRecipient then return [extracted]
    else clear.recipients.zipIdx.mapM fun entry => do
      let metaRecipient ← matchRecipient tms i j metadata entry.2 entry.1
      let (eID, rID) ← wrap s!"failed getting enrollment id and revocation handle [{i},{j}]"
        (tms.getEIDAndRH entry.1 metaRecipient.auditInfo)
      return { extracted with
        owner := entry.1
        ownerAuditInfo := metaRecipient.auditInfo
        enrollmentID := eID
        revocationHandler := rID }

def transferOutput (i j : Nat) (counter : UInt64) (recipientCounter : Nat) (transferAction : ActionInterface)
    (transferMeta : TransferMetadata) (output : Option OutputInterface) : Outcome (List Output) := do
  let output ← required output s!"{j}^th output in transfer action [{i}] is nil"
  let ledgerOutput ← wrap s!"failed deserializing transfer action output [{i},{j}]" output.serialize
  match transferMeta.outputs[j]?.join.filter fun metadata => metadata.outputMetadata ≠ [] with
  | none => do
    ensure (failOnMissing = false) s!"missing token info for output [{i},{j}]"
    return []
  | some metadata => do
    let clear ← wrap s!"failed getting transfer action output in the clear [{i},{j}]"
      (tms.deobfuscate ledgerOutput metadata.outputMetadata)
    let named := if clear.tok.owner = [] ∧ clear.issuer = [] then transferAction.issuer.getD [] else clear.issuer
    let issuer := if named = [] ∧ output.isRedeem then transferAction.issuer.getD [] else named
    let recipients := if clear.recipients = [] then [[]] else clear.recipients
    let quantity ← wrap s!"failed getting quantity [{i},{j}]" (toQuantity clear.tok.quantity tms.precision)
    let extracted : Output :=
      { tok := clear.tok
        actionType := .transfer
        actionIndex := i
        index := counter
        owner := clear.tok.owner
        ownerAuditInfo := metadata.outputAuditInfo
        enrollmentID := []
        revocationHandler := []
        type := clear.tok.type
        quantity
        ledgerOutput
        ledgerOutputFormat := clear.format
        ledgerOutputMetadata := metadata.outputMetadata
        issuer }
    if noOutputForRecipient then do
      checkEach (fun k recipient => do
        let _ ← matchRecipient tms i j metadata k recipient
        return ()) 0 recipients
      return [extracted]
    else recipients.zipIdx.mapM fun entry => do
      let metaRecipient ← matchRecipient tms i j metadata entry.2 entry.1
      if clear.tok.owner = [] then
        return { extracted with owner := entry.1, ownerAuditInfo := [], ledgerOutput := [] }
      else do
        let (eID, rID) ← wrap s!"failed getting enrollment id and revocation handle [{i},{recipientCounter + entry.2}]"
          (tms.getEIDAndRH entry.1 metaRecipient.auditInfo)
        return { extracted with
          owner := entry.1
          ownerAuditInfo := metaRecipient.auditInfo
          enrollmentID := eID
          revocationHandler := rID }

-- The outputs so far, and the index of the next one. Every output takes an index, also one whose metadata is absent.
structure OutputWalk where
  outputs : List Output
  counter : UInt64

def OutputWalk.append (walk : OutputWalk) (outputs : List Output) : OutputWalk :=
  { outputs := walk.outputs ++ outputs, counter := walk.counter + 1 }

def extractIssueOutputs (i : Nat) (counter : UInt64) (issueAction : ActionInterface) (issueMeta : IssueMetadata) :
    Outcome OutputWalk := do
  ensure (issueAction.outputs.length = issueMeta.outputs.length)
    s!"failed matching issue action with its metadata [{i}]: invalid metadata, the number of outputs does not match"
  foldEach (fun j walk output => do
    let outputs ← issueOutput tms failOnMissing noOutputForRecipient i j walk.counter issueAction issueMeta output
    return walk.append outputs) 0 { outputs := [], counter } issueAction.outputs

def extractTransferOutputs (i : Nat) (counter : UInt64) (transferAction : ActionInterface) (transferMeta : TransferMetadata) :
    Outcome OutputWalk :=
  foldEach (fun j walk output => do
    let outputs ← transferOutput tms failOnMissing noOutputForRecipient i j walk.counter walk.outputs.length transferAction
      transferMeta output
    return walk.append outputs) 0 { outputs := [], counter } transferAction.outputs

def extractIssueInputs (actionIndex : Nat) (metadata : IssueMetadata) : List Input :=
  metadata.inputs.zipIdx.map fun entry => newInput .issue actionIndex entry.2 entry.1.tokenID

def transferInput (actionIndex : Nat) (metadata : TransferMetadata) (j : Nat) (input : Option TransferInputMetadata) :
    Outcome (List Input) :=
  if metadata.isInputAbsent j then do
    ensure (failOnMissing = false) s!"missing receiver for transfer [{actionIndex},{j}]"
    return []
  else (input.elim [] TransferInputMetadata.senders).reduceOption.mapM fun sender => do
    let (eID, rID) ← wrap s!"failed getting enrollment id and revocation handle [{actionIndex},{j}]"
      (tms.getEIDAndRH sender.identity sender.auditInfo)
    return { newInput .transfer actionIndex j (metadata.tokenIDAt j) with
      owner := sender.identity
      ownerAuditInfo := sender.auditInfo
      enrollmentID := eID
      revocationHandler := rID }

def extractTransferInputs (actionIndex : Nat) (metadata : TransferMetadata) : Outcome (List Input) := do
  let inputs ← metadata.inputs.zipIdx.mapM fun entry => transferInput tms failOnMissing actionIndex metadata entry.2 entry.1
  return inputs.flatten

end Extraction

namespace Request

variable (tms : ManagementService) (r : Request)

-- All issues are walked first, then all transfers; either kind is numbered from zero and the counter goes on.
def outputs (failOnMissing : Bool) : Outcome OutputWalk := do
  let walk ← foldEach (fun i (walk : OutputWalk) issue => do
    let issueAction ← wrap s!"failed deserializing issue action [{i}]" (tms.deserializeIssueAction issue)
    let issueMeta ← wrap s!"failed getting issue metadata [{i}]" (r.metadata.getIssueMetadata i)
    wrap s!"failed matching issue action with its metadata [{i}]" (issueMeta.matchAction tms.uniqueID issueAction)
    let extracted ← extractIssueOutputs tms failOnMissing false i walk.counter issueAction issueMeta
    return { outputs := walk.outputs ++ extracted.outputs, counter := extracted.counter })
    0 { outputs := [], counter := 0 } r.actions.getIssues
  foldEach (fun i (walk : OutputWalk) transfer => do
    let transferAction ← wrap s!"failed deserializing transfer action [{i}]" (tms.deserializeTransferAction transfer)
    let transferMeta ← wrap s!"failed getting transfer metadata [{i}]" (r.metadata.getTransferMetadata i)
    wrap s!"failed matching transfer action with its metadata [{i}]" (transferMeta.matchAction tms.uniqueID transferAction)
    ensure (transferAction.outputs.length = transferMeta.outputs.length)
      s!"failed matching transfer action with its metadata [{i}]: invalid metadata"
    let extracted ← extractTransferOutputs tms failOnMissing false i walk.counter transferAction transferMeta
    return { outputs := walk.outputs ++ extracted.outputs, counter := extracted.counter })
    0 walk r.actions.getTransfers

structure StreamWalk where
  inputs : List Input
  outputs : OutputWalk
  attributes : Entries

def inputsAndOutputs (failOnMissing verifyActions noOutputForRecipient : Bool) : Outcome StreamWalk := do
  let walk ← foldEach (fun i (walk : StreamWalk) issue => do
    let issueAction ← wrap s!"failed deserializing issue action [{i}]" (tms.deserializeIssueAction issue)
    let issueMeta ← wrap s!"failed getting issue metadata [{i}]" (r.metadata.getIssueMetadata i)
    wrap s!"failed matching issue action with its metadata [{i}]" (issueMeta.matchAction tms.uniqueID issueAction)
    (if verifyActions then wrap "failed verifying issue action" (tms.verifyIssue issueAction issueMeta.outputs) else .ok ())
    let extracted ← extractIssueOutputs tms failOnMissing noOutputForRecipient i walk.outputs.counter issueAction issueMeta
    return {
      inputs := walk.inputs ++ extractIssueInputs i issueMeta
      outputs := { outputs := walk.outputs.outputs ++ extracted.outputs, counter := extracted.counter }
      attributes := walk.attributes ++ issueAction.metadata })
    0 { inputs := [], outputs := { outputs := [], counter := 0 }, attributes := [] } r.actions.getIssues
  foldEach (fun i (walk : StreamWalk) transfer => do
    let transferAction ← wrap s!"failed deserializing transfer action [{i}]" (tms.deserializeTransferAction transfer)
    let transferMeta ← wrap s!"failed getting transfer metadata [{i}]" (r.metadata.getTransferMetadata i)
    wrap s!"failed matching transfer action with its metadata [{i}]" (transferMeta.matchAction tms.uniqueID transferAction)
    (if verifyActions then wrap "failed verifying transfer action" (tms.verifyTransfer transferAction transferMeta.outputs)
      else .ok ())
    ensure (¬ (transferMeta.inputs = [] ∧ failOnMissing)) s!"missing token ids for transfer [{i}]"
    let inputs ← extractTransferInputs tms failOnMissing i transferMeta
    let extracted ← extractTransferOutputs tms failOnMissing noOutputForRecipient i walk.outputs.counter transferAction
      transferMeta
    return {
      inputs := walk.inputs ++ inputs
      outputs := { outputs := walk.outputs.outputs ++ extracted.outputs, counter := extracted.counter }
      attributes := walk.attributes ++ transferAction.metadata })
    0 walk r.actions.getTransfers

end Request

open List

structure Issue where
  issuer : Identity
  extraSigners : List Identity
deriving DecidableEq, Repr

structure Transfer where
  senders : List Identity
  extraSigners : List Identity
  issuer : Option Identity
deriving DecidableEq, Repr

structure SignerWithAction where
  signer : Identity
  actionID : UInt32
deriving DecidableEq, Repr

def issueOf (metadata : IssueMetadata) : Issue :=
  { issuer := metadata.issuer.identity, extraSigners := metadata.extraSigners.map AuditableIdentity.identity }

def transferOf (metadata : TransferMetadata) : Transfer :=
  { senders := metadata.senders
    extraSigners := metadata.extraSigners.map AuditableIdentity.identity
    issuer := metadata.issuer.identity }

def Issue.signers (issue : Issue) : List Identity := issue.issuer :: issue.extraSigners
def Transfer.signers (transfer : Transfer) : List Identity :=
  transfer.senders ++ transfer.issuer.toList ++ transfer.extraSigners

-- The entries of one kind take the operations of that kind one after the other; the loop ends if there is none left.
def signersFrom {α : Type} (kind : ActionMetadataEntry → Bool) (signers : α → List Identity) (operations : List α) :
    Nat → List ActionMetadataEntry → List SignerWithAction
  | _, [] => []
  | index, action :: rest =>
    if kind action then
      match operations[index]? with
      | some operation =>
        (signers operation).map (fun signer => { signer, actionID := action.actionID }) ++
          signersFrom kind signers operations (index + 1) rest
      | none => []
    else signersFrom kind signers operations index rest

namespace Request

variable (r : Request)

def issues : List Issue := (r.metadata.actions.filterMap issueMetadata).map issueOf
def transfers : List Transfer := (r.metadata.actions.filterMap transferMetadata).map transferOf

def issueSignersWithActions : List SignerWithAction :=
  signersFrom (fun action => action.issueMetadata.isSome) Issue.signers r.issues 0 r.metadata.actions

def transferSignersWithActions : List SignerWithAction :=
  signersFrom (fun action => action.transferMetadata.isSome) Transfer.signers r.transfers 0 r.metadata.actions

def addAuditorSignature (identity : Identity) (sigma : Bytes) : Request :=
  { r with actions := { r.actions with
      signatures := r.actions.signatures ++ [{ action := none, auditor := some { identity, signature := sigma } }] } }

def appendSignatures (uniqueID : Identity → String) (sigmas : String → Option Bytes) : Request × Bool :=
  let signers := r.issueSignersWithActions ++ r.transferSignersWithActions
  let signatures : List RequestSignature := signers.map fun signer =>
    { action := some { actionID := signer.actionID, signature := (sigmas (uniqueID signer.signer)).getD [] }, auditor := none }
  ({ r with actions := { r.actions with signatures := r.actions.signatures ++ signatures } },
    signers.all fun signer => (sigmas (uniqueID signer.signer)).isSome)

-- Every call that adds an action ends like this: the identifier of the action is its position, cut to 32 bits.
def appendAction (type : ActionType) (raw : Bytes) (issueMetadata : Option IssueMetadata)
    (transferMetadata : Option TransferMetadata) : Request :=
  { r with
    actions := { r.actions with actions := r.actions.actions ++ [{ type, raw }] }
    metadata := { r.metadata with actions := r.metadata.actions ++
      [{ actionID := UInt32.ofNat r.actions.actions.length, issueMetadata, transferMetadata }] } }

end Request

def entryIssueSigners (action : ActionMetadataEntry) : List SignerWithAction :=
  (action.issueMetadata.elim [] fun metadata => (issueOf metadata).signers).map fun signer =>
    { signer, actionID := action.actionID }

def entryTransferSigners (action : ActionMetadataEntry) : List SignerWithAction :=
  (action.transferMetadata.elim [] fun metadata => (transferOf metadata).signers).map fun signer =>
    { signer, actionID := action.actionID }

theorem signers_from_entries {α β : Type} (select : ActionMetadataEntry → Option α) (operation : α → β)
    (signers : β → List Identity) (done : List β) (entries : List ActionMetadataEntry) :
    signersFrom (fun action => (select action).isSome) signers (done ++ (entries.filterMap select).map operation) done.length
        entries =
      entries.flatMap fun action => ((select action).elim [] fun metadata => signers (operation metadata)).map fun signer =>
        { signer, actionID := action.actionID } := by
  induction entries generalizing done with
  | nil => rfl
  | cons action rest ih =>
    rw [signersFrom, flatMap_cons]
    cases found : select action with
    | none =>
      rw [filterMap_cons_none found, Option.isSome_none, if_neg Bool.false_ne_true, Option.elim_none, map_nil, nil_append]
      exact ih done
    | some metadata =>
      have next := ih (done ++ [operation metadata])
      rw [append_assoc, singleton_append, length_append, length_singleton] at next
      rw [filterMap_cons_some found, Option.isSome_some, if_pos rfl, map_cons,
        getElem?_append_right (Nat.le_refl _), Nat.sub_self, getElem?_cons_zero, Option.elim_some, next]

theorem issue_signers_eq (r : Request) : r.issueSignersWithActions = r.metadata.actions.flatMap entryIssueSigners :=
  signers_from_entries issueMetadata issueOf Issue.signers [] r.metadata.actions

theorem transfer_signers_eq (r : Request) : r.transferSignersWithActions = r.metadata.actions.flatMap entryTransferSigners :=
  signers_from_entries transferMetadata transferOf Transfer.signers [] r.metadata.actions

end Panurus.Client
