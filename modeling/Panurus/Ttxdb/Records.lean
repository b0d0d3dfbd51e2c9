import Panurus.Client.Request
import Panurus.Ttx.Finality

namespace Panurus.Ttxdb

open List Lib Outcome Text Driver
open Panurus.Client (Input Output)
open Panurus.Ttx.Finality (TxStatus)

inductive TransactionKind where
  | issue
  | transfer
  | redeem
deriving DecidableEq, Repr

structure TransactionRecord where
  txID : Bytes
  senderEID : Bytes
  recipientEID : Bytes
  tokenType : Bytes
  amount : Nat
  status : TxStatus
  actionType : TransactionKind
  timestamp : Int
deriving DecidableEq, Repr

structure AuditRecord where
  anchor : Bytes
  inputs : List Input
  outputs : List Output

structure RecordAction where
  actionType : ActionType
  actionIndex : Nat
deriving DecidableEq, Repr

def actionNumber : ActionType → Int
  | .unspecified => 0
  | .issue => 1
  | .transfer => 2
  | .unknown number => number.toInt

-- The ids of a stream, each at its first occurrence. Owners without an id are left out.
def enrollmentIDs (carried : List Bytes) : List Bytes := (carried.filter (· ≠ [])).eraseDups

def uniquePerOutput (outputs : List Output) : List Output :=
  outputs.eraseDupsBy fun output first => output.index = first.index ∧ output.enrollmentID = first.enrollmentID

def sum (outputs : List Output) : Nat := (outputs.map fun output => output.quantity.toNat).sum

namespace AuditRecord

def recordActions (record : AuditRecord) : List RecordAction :=
  let seen := record.inputs.map (fun input => ⟨input.actionType, input.actionIndex⟩) ++
    record.outputs.map (fun output => ⟨output.actionType, output.actionIndex⟩)
  seen.eraseDups.insertionSort fun a b =>
    a.actionIndex < b.actionIndex ∨ a.actionIndex = b.actionIndex ∧ actionNumber a.actionType ≤ actionNumber b.actionType

def ins (record : AuditRecord) (action : RecordAction) : List Input :=
  record.inputs.filter fun t => t.actionType = action.actionType ∧ t.actionIndex = action.actionIndex

def ous (record : AuditRecord) (action : RecordAction) : List Output :=
  record.outputs.filter fun t => t.actionType = action.actionType ∧ t.actionIndex = action.actionIndex

def inEIDs (record : AuditRecord) (action : RecordAction) : List Bytes :=
  enrollmentIDs ((record.ins action).map Input.enrollmentID)

def received (record : AuditRecord) (action : RecordAction) (outEID tokenType : Bytes) : List Output :=
  (record.ous action).filter fun t => t.enrollmentID = outEID ∧ t.type = tokenType

-- The records of one action. The last recipient is the one without an id.
def actionRecords (record : AuditRecord) (timestamp : Int) (action : RecordAction) : List TransactionRecord := do
  let outEID ← enrollmentIDs ((record.ous action).map Output.enrollmentID) ++ [[]]
  let tokenType ← ((record.ous action).map Output.type).eraseDups
  let amount := sum (uniquePerOutput (record.received action outEID tokenType))
  if amount ≤ 0 then [] else [{
    txID := record.anchor
    senderEID := (record.inEIDs action).headD []
    recipientEID := outEID, tokenType, amount, status := .pending
    actionType := if record.inEIDs action = [] then .issue else if outEID = [] then .redeem else .transfer
    timestamp }]

def transactionRecords (record : AuditRecord) (timestamp : Int) : Outcome (List TransactionRecord) := do
  let txs ← record.recordActions.mapM fun action => do
    let inEIDs := record.inEIDs action
    let shown := " ".intercalate (inEIDs.map render)
    ensure (¬ inEIDs.length > 1) s!"expected at most 1 input enrollment id, got {inEIDs.length}, [[{shown}]]"
    return record.actionRecords timestamp action
  return txs.flatten

def NoOwner (record : AuditRecord) (action : RecordAction) (tx : TransactionRecord) : Prop :=
  ∀ output ∈ record.received action tx.recipientEID tx.tokenType, output.owner = []

-- The kind follows the action: an issue, a transfer to outputs without an owner, or another transfer.
def RightKind (record : AuditRecord) (action : RecordAction) (tx : TransactionRecord) : Prop :=
  (tx.actionType = .issue ↔ action.actionType = .issue) ∧
  (tx.actionType = .redeem ↔ action.actionType = .transfer ∧ tx.recipientEID = [] ∧ record.NoOwner action tx)

theorem kind_of_record {record : AuditRecord} {timestamp : Int} {action : RecordAction} {tx : TransactionRecord}
    (mem : tx ∈ record.actionRecords timestamp action) : tx.actionType =
      if record.inEIDs action = [] then .issue else if tx.recipientEID = [] then .redeem else .transfer := by
  simp only [actionRecords, bind_eq_flatMap, mem_flatMap] at mem
  obtain ⟨outEID, -, tokenType, -, mem⟩ := mem
  split at mem
  · cases mem
  · rw [mem_singleton.mp mem]

theorem transaction_kinds_right_iff (record : AuditRecord) (timestamp : Int)
    (single : ∀ action ∈ record.recordActions, (record.inEIDs action).length ≤ 1) :
    record.transactionRecords timestamp = .ok (record.recordActions.flatMap (record.actionRecords timestamp)) ∧
      ∀ action ∈ record.recordActions, ∀ tx ∈ record.actionRecords timestamp action,
        record.RightKind action tx ↔ (action.actionType = .issue ↔ record.inEIDs action = []) ∧
          (action.actionType ≠ .issue → tx.recipientEID = [] → action.actionType = .transfer ∧ record.NoOwner action tx) := by
  constructor
  · refine bind_ok_iff.mpr ⟨record.recordActions.map (record.actionRecords timestamp), mapM_ok_iff.mpr ?_, rfl⟩
    refine forall₂_map_right_iff.mpr (forall₂_same.mpr fun action mem => ?_)
    exact bind_ok_iff.mpr ⟨(), ensure_ok_iff.mpr (Nat.not_lt.mpr (single action mem)), rfl⟩
  · intro action _ tx mem
    rw [RightKind, kind_of_record mem]
    by_cases issued : action.actionType = .issue <;> by_cases unseen : record.inEIDs action = []
    · simp [issued, unseen]
    · by_cases unknown : tx.recipientEID = [] <;> simp [issued, unseen, unknown]
    · simp [issued, unseen]
    · by_cases unknown : tx.recipientEID = [] <;> simp [issued, unseen, unknown]

namespace Payment

def output (owner enrollmentID : Bytes) : Output :=
  { tok := ⟨owner, [1], [53]⟩, actionType := .transfer, actionIndex := 0, index := 0, owner, ownerAuditInfo := [], enrollmentID,
    revocationHandler := [], type := [1], quantity := .uint64 5, ledgerOutput := [], ledgerOutputFormat := [],
    ledgerOutputMetadata := [], issuer := [] }

def payment (sender : Bytes) : AuditRecord :=
  { anchor := [7], inputs := [{ Client.newInput .transfer 0 0 none with enrollmentID := sender }], outputs := [output [2] [66]] }

def action : RecordAction := ⟨.transfer, 0⟩

def recorded (sender : Bytes) (actionType : TransactionKind) : TransactionRecord :=
  { txID := [7], senderEID := sender, recipientEID := [66], tokenType := [1], amount := 5, status := .pending, actionType,
    timestamp := 0 }

theorem known_sender_recorded : (payment [65]).transactionRecords 0 = .ok [recorded [65] .transfer] ∧
    (payment [65]).RightKind action (recorded [65] .transfer) := by
  have kinds := (transaction_kinds_right_iff (payment [65]) 0 (by decide)).2
  exact ⟨rfl, (kinds action (by decide) (recorded [65] .transfer) (by decide)).mpr ⟨by decide, fun _ unknown => by cases unknown⟩⟩

-- The sender is not known to the node.
theorem unknown_sender_recorded : (payment []).transactionRecords 0 = .ok [recorded [] .issue] ∧
    ¬ (payment []).RightKind action (recorded [] .issue) :=
  ⟨rfl, fun right => absurd (right.1.mp rfl) (by decide)⟩

end Payment

end AuditRecord

end Panurus.Ttxdb
