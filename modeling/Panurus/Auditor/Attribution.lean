import Panurus.Ttxdb.Records

namespace Panurus.Auditor

open List Lib Outcome Text Core Driver Token
open Panurus.Client (Input Output)
open Panurus.Ttxdb (AuditRecord RecordAction)

-- What the completion asks the node. Owners are resolved one after the other, and the context may be done at any turn.
structure Services where
  precision : UInt64
  listAuditTokens : List (Option Rws.TokenID) → Outcome (List (Option Client.Token))
  getEIDAndRH : Nat → Identity → Bytes → Outcome (Bytes × Bytes)
  done : Nat → Bool
  unresolvable : String → Bool

def idText (item : Input) : String := item.id.elim "<nil>" Rws.TokenID.text

section

variable (s : Services) (outputs : List Output)

def issuedBy (actionIndex : Nat) : List Output :=
  outputs.filter fun o => o.actionType = .issue ∧ o.actionIndex = actionIndex ∧ o.owner ≠ []

def placeEID (actionIndex : Nat) (eIDByIndex : List (UInt64 × Bytes)) (output : Output) : Outcome (List (UInt64 × Bytes)) :=
  if output.enrollmentID = [] then .ok eIDByIndex else do
    let eID := (eIDByIndex.lookup output.index).getD output.enrollmentID
    ensure (eID = output.enrollmentID)
      (s!"output [{output.index}] of action [{actionIndex}] is issued to a composite owner whose members span " ++
        s!"enrollment IDs ([{render eID}] and [{render output.enrollmentID}]): " ++
        "no single enrollment ID to attribute its input to")
    return (output.index, output.enrollmentID) :: eIDByIndex

def issuedToEIDAndRH (actionIndex : Nat) : Outcome (Bytes × Bytes) :=
  match issuedBy outputs actionIndex with
  | [] => .ok ([], [])
  | first :: rest => do
    let issued := first :: rest
    let unresolved := issued.countP fun output => output.enrollmentID = []
    let _ ← issued.foldlM (placeEID actionIndex) []
    if unresolved = issued.length then return ([], []) else do
    ensure (¬ unresolved > 0)
      (s!"action [{actionIndex}] issues [{unresolved}] of [{issued.length}] outputs to owners resolving to no " ++
        "enrollment ID: crediting the resolved ones would leave the input undebited")
    if ∃ output ∈ rest, output.enrollmentID ≠ first.enrollmentID then return ([], []) else
    return (first.enrollmentID,
      rest.foldl (fun rH output => if output.revocationHandler ≠ rH then [] else rH) first.revocationHandler)

-- Only an owner that nothing decodes counts as one without an id.
def resolveOwner (i : Nat) (item : Input) (owner : Identity) : Outcome (Bytes × Bytes) :=
  match s.getEIDAndRH i owner item.ownerAuditInfo with
  | .ok ids => .ok ids
  | .error err =>
    if s.done i ∨ ¬ s.unresolvable err then .error s!"failed resolving enrollment id for input [{idText item}]: {err}"
    else .ok ([], [])

def completeInput (i : Nat) (item : Input) (tok : Option Client.Token) : Outcome Input := do
  let tok ← required tok s!"failed to audit inputs: nil input at [{i}]th input"
  ensure (item.actionType ≠ .unspecified) s!"failed to audit inputs: input [{idText item}] names no action kind"
  let _ ← wrap s!"failed converting token quantity [{render tok.quantity}]" (toQuantity tok.quantity s.precision)
  let ids ← resolveOwner s i item tok.owner
  let ids ← (if ids.1 = [] ∧ item.actionType = .issue then issuedToEIDAndRH outputs item.actionIndex else .ok ids)
  let item := { item with owner := tok.owner }
  return if ids.1 = [] then item else { item with enrollmentID := ids.1, revocationHandler := ids.2 }

-- The tokens are those of the inputs without an id, which are numbered on their own.
def completeInputs (tokens : List (Option Client.Token)) : Nat → List Input → Outcome (List Input)
  | _, [] => .ok []
  | i, item :: rest =>
    if item.enrollmentID = [] then do
      let tok ← required tokens[i]? "index out of range"
      let item ← completeInput s outputs i item tok
      let rest ← completeInputs tokens (i + 1) rest
      return item :: rest
    else do
      let rest ← completeInputs tokens i rest
      return item :: rest

end

def completeInputsWithEmptyEID (s : Services) (record : AuditRecord) : Outcome AuditRecord := do
  let filtered := record.inputs.filter fun input => input.enrollmentID = []
  if filtered.length = 0 then return record else do
  let shown := " ".intercalate (filtered.map idText)
  let tokens ← wrap s!"failed listing tokens for [[{shown}]]" (s.listAuditTokens (filtered.map Input.id))
  ensure (filtered.length = tokens.length) s!"expected {filtered.length} audit tokens, got {tokens.length}"
  let inputs ← completeInputs s record.outputs tokens 0 record.inputs
  return { record with inputs }

def rejectMultiOwnerActions (record : AuditRecord) : Outcome Unit := do
  let _ ← record.inputs.foldlM (fun (firstEID : List (RecordAction × Bytes)) input =>
    if input.enrollmentID = [] then .ok firstEID else
    match firstEID.lookup ⟨input.actionType, input.actionIndex⟩ with
    | none => .ok ((⟨input.actionType, input.actionIndex⟩, input.enrollmentID) :: firstEID)
    | some eID => do
      ensure (eID = input.enrollmentID)
        (s!"action [{input.actionIndex}] of request [{render record.anchor}] spends tokens of multiple enrollment IDs " ++
          s!"([{render eID}] and [{render input.enrollmentID}]): a transaction record keeps a single sender per action")
      return firstEID) []

def auditRecord (s : Services) (cached : Option AuditRecord) (request : Outcome AuditRecord) : Outcome AuditRecord :=
  match cached with
  | some record => .ok record
  | none => do
    let record ← request
    let completed ← wrap s!"failed filling gaps for request [{render record.anchor}]" (completeInputsWithEmptyEID s record)
    rejectMultiOwnerActions completed
    return completed

section

variable {s : Services} {outputs : List Output} {actionIndex i : Nat}

def Debited (before after : AuditRecord) (actionIndex : Nat) : Prop :=
  Forall₂ (fun input out => input.actionType = .issue → input.actionIndex = actionIndex → input.enrollmentID = [] →
    out.enrollmentID ≠ []) before.inputs after.inputs

def Uncredited (outputs : List Output) (actionIndex : Nat) : Prop :=
  ∀ output ∈ issuedBy outputs actionIndex, output.enrollmentID = []

-- Every output has one party, and there are several among the outputs.
structure SeveralParties (outputs : List Output) (actionIndex : Nat) : Prop where
  resolved : ∀ output ∈ issuedBy outputs actionIndex, output.enrollmentID ≠ []
  single : ∀ a ∈ issuedBy outputs actionIndex, ∀ b ∈ issuedBy outputs actionIndex, a.index = b.index →
    a.enrollmentID = b.enrollmentID
  several : ∃ a ∈ issuedBy outputs actionIndex, ∃ b ∈ issuedBy outputs actionIndex, a.enrollmentID ≠ b.enrollmentID

theorem placed_single {issued : List Output} {eIDByIndex : List (UInt64 × Bytes)}
    (placed : issued.foldlM (placeEID actionIndex) [] = .ok eIDByIndex) :
    ∀ output ∈ issued, output.enrollmentID ≠ [] → eIDByIndex.lookup output.index = some output.enrollmentID := by
  refine foldlM_invariant (fun (done : List Output) (eIDByIndex : List (UInt64 × Bytes)) => ∀ output ∈ done,
    output.enrollmentID ≠ [] → eIDByIndex.lookup output.index = some output.enrollmentID) ?_ (by simp) placed
  intro done current output next invariant step earlier mem resolved
  unfold placeEID at step
  split at step
  · rename_i unresolved
    cases step
    cases mem_append.mp mem with
    | inl before => exact invariant earlier before resolved
    | inr last =>
      cases mem_singleton.mp last
      exact absurd unresolved resolved
  · simp only [ok_iff] at step
    obtain ⟨_, same, rfl⟩ := step
    by_cases here : earlier.index = output.index
    · rw [here, lookup_cons_self]
      cases mem_append.mp mem with
      | inl before => rw [← same, ← here, invariant earlier before resolved, Option.getD_some]
      | inr last => rw [mem_singleton.mp last]
    · have before : earlier ∈ done := by
        cases mem_append.mp mem with
        | inl before => exact before
        | inr last => exact absurd (congrArg Output.index (mem_singleton.mp last)) here
      rw [lookup_cons, beq_false_of_ne here]
      exact invariant earlier before resolved

theorem issued_to_none {rH : Bytes} (answered : issuedToEIDAndRH outputs actionIndex = .ok ([], rH)) :
    Uncredited outputs actionIndex ∨ SeveralParties outputs actionIndex := by
  unfold issuedToEIDAndRH at answered
  cases listed : issuedBy outputs actionIndex with
  | nil => exact .inl (by simp [Uncredited, listed])
  | cons first rest =>
    simp only [listed, bind_ok_iff] at answered
    obtain ⟨eIDByIndex, placed, answered⟩ := answered
    split at answered
    · rename_i none
      rw [Uncredited, listed]
      exact .inl (by simpa using countP_eq_length.mp none)
    · simp only [ok_iff] at answered
      obtain ⟨-, resolved, answered⟩ := answered
      have each := countP_eq_zero.mp (Nat.eq_zero_of_not_pos resolved)
      have named : ∀ output ∈ first :: rest, output.enrollmentID ≠ [] := by simpa using each
      split at answered
      · rename_i other
        obtain ⟨output, mem, differs⟩ := other
        refine .inr ⟨listed ▸ named, ?_, listed ▸ ⟨output, mem_cons_of_mem _ mem, first, mem_cons_self, differs⟩⟩
        rw [listed]
        intro a memA b memB same
        have first := placed_single placed a memA (named a memA)
        rw [same, placed_single placed b memB (named b memB)] at first
        exact (Option.some.inj first).symm
      · exact absurd (Prod.mk.inj (Except.ok.inj answered)).1 (named first mem_cons_self)

-- An upgraded input stays without an id only if its action names no one.
theorem complete_input_upgraded {item out : Input} {tok : Option Client.Token}
    (completed : completeInput s outputs i item tok = .ok out) (upgraded : item.actionType = .issue) :
    out.enrollmentID ≠ [] ∨ ∃ rH, issuedToEIDAndRH outputs item.actionIndex = .ok ([], rH) := by
  simp only [completeInput, bind_ok_iff, pure_ok_iff, upgraded, and_true] at completed
  obtain ⟨-, -, -, -, -, -, own, -, ids, fallen, rfl⟩ := completed
  by_cases named : ids.1 = []
  · have unnamed : own.1 = [] := by
      by_contra known
      rw [if_neg known] at fallen
      exact known (Except.ok.inj fallen ▸ named)
    exact .inr ⟨ids.2, by rw [← named]; simpa [unnamed] using fallen⟩
  · exact .inl (by simp [named])

theorem complete_inputs_ok {tokens : List (Option Client.Token)} {inputs result : List Input}
    (completed : completeInputs s outputs tokens i inputs = .ok result) :
    Forall₂ (fun item out => item.enrollmentID = [] → ∃ i tok, completeInput s outputs i item tok = .ok out) inputs result := by
  induction inputs generalizing i result with
  | nil =>
    cases completed
    exact .nil
  | cons item rest ih =>
    unfold completeInputs at completed
    split at completed
    · simp only [bind_ok_iff, pure_ok_iff] at completed
      obtain ⟨tok, -, out, done, others, each, rfl⟩ := completed
      exact .cons (fun _ => ⟨i, tok, done⟩) (ih each)
    · rename_i known
      simp only [bind_ok_iff, pure_ok_iff] at completed
      obtain ⟨others, each, rfl⟩ := completed
      exact .cons (fun empty => absurd empty known) (ih each)

theorem completed_ok {record completed : AuditRecord} (filled : completeInputsWithEmptyEID s record = .ok completed) :
    completed.outputs = record.outputs ∧
      Forall₂ (fun item out => item.enrollmentID = [] → ∃ i tok, completeInput s record.outputs i item tok = .ok out)
        record.inputs completed.inputs := by
  simp only [completeInputsWithEmptyEID] at filled
  split at filled
  · rename_i full
    cases filled
    refine ⟨rfl, forall₂_same.mpr fun item mem empty => ?_⟩
    exact absurd (mem_filter.mpr ⟨mem, decide_eq_true empty⟩) (length_eq_zero_iff.mp full ▸ not_mem_nil)
  · simp only [ok_iff] at filled
    obtain ⟨tokens, -, -, -, inputs, walked, rfl⟩ := filled
    exact ⟨rfl, complete_inputs_ok walked⟩

theorem upgraded_inputs_debited {request : Outcome AuditRecord} {cached : Option AuditRecord} {completed : AuditRecord}
    (earlier : ∀ record, cached = some record → ∃ s, auditRecord s none request = .ok record)
    (returned : auditRecord s cached request = .ok completed) :
    ∃ record, request = .ok record ∧ completed.outputs = record.outputs ∧ ∀ actionIndex,
      Debited record completed actionIndex ∨ Uncredited completed.outputs actionIndex ∨
        SeveralParties completed.outputs actionIndex := by
  obtain ⟨s, returned⟩ : ∃ s, auditRecord s none request = .ok completed := by
    cases cached with
    | none => exact ⟨s, returned⟩
    | some record => exact earlier completed (congrArg some (Except.ok.inj returned))
  simp only [auditRecord, ok_iff] at returned
  obtain ⟨record, given, filled, filling, -, -, rfl⟩ := returned
  obtain ⟨kept, each⟩ := completed_ok filling
  refine ⟨record, given, kept, fun actionIndex => ?_⟩
  rw [kept]
  by_cases named : ∃ rH, issuedToEIDAndRH record.outputs actionIndex = .ok ([], rH)
  · obtain ⟨rH, answered⟩ := named
    exact .inr (issued_to_none answered)
  · refine .inl (each.imp fun item out attributed upgraded issued empty => ?_)
    obtain ⟨i, tok, done⟩ := attributed empty
    exact (complete_input_upgraded done upgraded).resolve_right (issued ▸ named)

end

namespace Upgrade

-- Nobody resolves by the owner of the token.
def services : Services :=
  { precision := 64
    listAuditTokens := fun ids => .ok (ids.map fun _ => some ⟨[2], [1], ascii "5"⟩)
    getEIDAndRH := fun _ _ _ => .ok ([], [])
    done := fun _ => false
    unresolvable := fun _ => true }

def output (index : UInt64) (enrollmentID : Bytes) : Output :=
  { AuditRecord.Payment.output [3] enrollmentID with actionType := .issue, index }

def input (enrollmentID : Bytes) : Input := { Client.newInput .issue 0 0 none with owner := [2], enrollmentID }

def record (input : Input) (second : Bytes) : AuditRecord :=
  { anchor := [7], inputs := [input], outputs := [output 0 [65], output 1 second] }

theorem one_party_debited : ∃ before after, auditRecord services none (.ok before) = .ok after ∧ after = record (input [65]) [65] ∧
    (Debited before after 0 ∨ Uncredited after.outputs 0 ∨ SeveralParties after.outputs 0) := by
  have returned : auditRecord services none (.ok (record (input []) [65])) = .ok (record (input [65]) [65]) := rfl
  obtain ⟨before, given, -, each⟩ := upgraded_inputs_debited (fun _ cached => by cases cached) returned
  exact ⟨before, _, given ▸ returned, rfl, each 0⟩

theorem two_parties_undebited : auditRecord services none (.ok (record (input []) [66])) = .ok (record (input []) [66]) ∧
    ¬ Debited (record (input []) [66]) (record (input []) [66]) 0 ∧ ¬ Uncredited (record (input []) [66]).outputs 0 := by
  refine ⟨rfl, fun debited => ?_, fun uncredited => ?_⟩
  · cases debited with
    | cons first _ => exact first rfl rfl rfl rfl
  · exact absurd (uncredited (output 0 [65]) mem_cons_self) (by decide)

end Upgrade

end Panurus.Auditor
