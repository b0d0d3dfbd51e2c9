import Mathlib.Data.List.ReduceOption
import Panurus.Client.Request
import Panurus.Lib.Pointwise

namespace Panurus.Client

open List Lib Outcome Pointwise Text Core Driver

abbrev EnrollmentReader := Identity → Bytes → Outcome Bytes

section Filter

variable (getEnrollmentID : EnrollmentReader) (eIDSet : List Bytes)

def contains : List (Option AuditableIdentity) → Outcome Bool
  | [] => .ok false
  | receiver :: rest => do
    let receiver ← required receiver "panic: nil receiver"
    let recipientEID ← wrap "failed getting enrollment ID" (getEnrollmentID receiver.identity receiver.auditInfo)
    if recipientEID ∈ eIDSet then return true else contains rest

def filterOutput (output : Option OutputMetadata) : Outcome (Option OutputMetadata) := do
  let output ← required output "panic: nil output metadata"
  let found ← wrap "failed checking receivers" (contains getEnrollmentID eIDSet output.receivers)
  return if found then some output else none

def filterIssue (issue : IssueMetadata) : Outcome IssueMetadata := do
  let outputs ← issue.outputs.mapM (filterOutput getEnrollmentID eIDSet)
  return { issuer := issue.issuer, inputs := issue.inputs, outputs, extraSigners := issue.extraSigners }

def filterInput (matched : Bool) (input : Option TransferInputMetadata) : Outcome (Option TransferInputMetadata) :=
  if matched then do
    let input ← required input "panic: nil input metadata"
    return some { tokenID := none, senders := input.senders }
  else .ok (some { tokenID := none, senders := [] })

def filterTransfer (transfer : TransferMetadata) : Outcome TransferMetadata := do
  let outputs ← transfer.outputs.mapM (filterOutput getEnrollmentID eIDSet)
  let inputs ← transfer.inputs.mapM (filterInput (outputs.any Option.isSome))
  return { inputs, outputs, extraSigners := transfer.extraSigners, issuer := { identity := none, auditInfo := [] } }

def filterEntry (action : ActionMetadataEntry) : Outcome (Option ActionMetadataEntry) :=
  match action.issueMetadata, action.transferMetadata with
  | some issue, _ => do
    let filtered ← wrap "failed filtering issue" (filterIssue getEnrollmentID eIDSet issue)
    return some { actionID := action.actionID, issueMetadata := some filtered, transferMetadata := none }
  | none, some transfer => do
    let filtered ← wrap "failed filtering transfer" (filterTransfer getEnrollmentID eIDSet transfer)
    return some { actionID := action.actionID, issueMetadata := none, transferMetadata := some filtered }
  | none, none => .ok none

def filterBy (m : TokenRequestMetadata) : Outcome TokenRequestMetadata :=
  if eIDSet = [] then .ok m else do
    let filteredActions ← m.actions.mapM (filterEntry getEnrollmentID eIDSet)
    return { actions := filteredActions.reduceOption, application := m.application }

def Request.filterMetadataBy (r : Request) (eIDs : List Bytes) : Outcome Request := do
  let eID ← required eIDs.head? "panic: runtime error: index out of range [0] with length 0"
  let metadata ← wrap s!"failed filtering metadata by [{render eID}]" (filterBy getEnrollmentID [eID] r.metadata)
  return { r with metadata }

def Due (output : OutputMetadata) : Prop :=
  ∃ receiver eID, some receiver ∈ output.receivers ∧ getEnrollmentID receiver.identity receiver.auditInfo = .ok eID ∧
    eID ∈ eIDSet

def Resolved (receivers : List (Option AuditableIdentity)) : Prop :=
  ∀ receiver ∈ receivers, ∃ id eID, receiver = some id ∧ getEnrollmentID id.identity id.auditInfo = .ok eID

abbrev Filtered : List (Option OutputMetadata) → List (Option OutputMetadata) → Prop :=
  Forall₂ fun output kept => filterOutput getEnrollmentID eIDSet output = .ok kept

def Discloses (output kept : Option OutputMetadata) : Prop :=
  ∀ metadata, output = some metadata →
    (Due getEnrollmentID eIDSet metadata → kept = some metadata) ∧ (¬ Due getEnrollmentID eIDSet metadata → kept = none)

end Filter

def described (entry : ActionMetadataEntry) : Bool := entry.issueMetadata.isSome || entry.transferMetadata.isSome

def entryOutputs (entry : ActionMetadataEntry) : List (Option OutputMetadata) :=
  match entry.issueMetadata, entry.transferMetadata with
  | some issue, _ => issue.outputs
  | none, some transfer => transfer.outputs
  | none, none => []

def DisclosesDue (getEnrollmentID : EnrollmentReader) (eIDSet : List Bytes) (m filtered : TokenRequestMetadata) : Prop :=
  Forall₂ (fun entry kept => kept.actionID = entry.actionID ∧
    Forall₂ (Discloses getEnrollmentID eIDSet) (entryOutputs entry) (entryOutputs kept))
    (m.actions.filter described) filtered.actions

variable {receivers : List (Option AuditableIdentity)} {m filtered : TokenRequestMetadata} {eID : Bytes}
  {rest : List Bytes} {α β : Type} {inputs : List (Option TransferInputMetadata)}

theorem contains_ok {getEnrollmentID : EnrollmentReader} {eIDSet : List Bytes} {found : Bool}
    (done : contains getEnrollmentID eIDSet receivers = .ok found) :
    found = true ↔ ∃ receiver eID, some receiver ∈ receivers ∧
      getEnrollmentID receiver.identity receiver.auditInfo = .ok eID ∧ eID ∈ eIDSet := by
  induction receivers with
  | nil =>
    cases done
    simp
  | cons receiver rest ih =>
    simp only [contains, ok_iff] at done
    obtain ⟨first, rfl, recipient, resolved, decided⟩ := done
    by_cases named : recipient ∈ eIDSet
    · rw [if_pos named, pure_ok_iff] at decided
      subst decided
      exact ⟨fun _ => ⟨first, recipient, mem_cons_self, resolved, named⟩, fun _ => rfl⟩
    · rw [if_neg named] at decided
      rw [ih decided]
      constructor
      · rintro ⟨other, eID, mem, found⟩
        exact ⟨other, eID, mem_cons_of_mem _ mem, found⟩
      · rintro ⟨other, eID, mem, other_resolved, other_named⟩
        rcases mem_cons.mp mem with same | later
        · obtain rfl := Option.some.inj same
          obtain rfl := Except.ok.inj (resolved.symm.trans other_resolved)
          exact absurd other_named named
        · exact ⟨other, eID, later, other_resolved, other_named⟩

section Kept

variable {getEnrollmentID : EnrollmentReader} {eIDSet : List Bytes}

theorem filter_output_ok {output filtered : Option OutputMetadata}
    (done : filterOutput getEnrollmentID eIDSet output = .ok filtered) :
    ∃ metadata, output = some metadata ∧ (Due getEnrollmentID eIDSet metadata → filtered = some metadata) ∧
      (¬ Due getEnrollmentID eIDSet metadata → filtered = none) := by
  simp only [filterOutput, ok_iff] at done
  obtain ⟨metadata, rfl, found, checked, rfl⟩ := done
  have due := contains_ok checked
  refine ⟨metadata, rfl, fun owed => ?_, fun none => ?_⟩
  · rw [if_pos (due.mpr owed)]
  · rw [if_neg fun matched => none (due.mp matched)]

structure FilteredEntry (getEnrollmentID : EnrollmentReader) (eIDSet : List Bytes)
    (entry filtered : ActionMetadataEntry) : Prop where
  actionID : filtered.actionID = entry.actionID
  outputs : Filtered getEnrollmentID eIDSet (entryOutputs entry) (entryOutputs filtered)
  entry : filterEntry getEnrollmentID eIDSet entry = .ok (some filtered)

theorem filter_entry_ok {entry : ActionMetadataEntry} {filtered : Option ActionMetadataEntry}
    (done : filterEntry getEnrollmentID eIDSet entry = .ok filtered) :
    (described entry = false ∧ filtered = none) ∨
      (described entry ∧ ∃ kept, filtered = some kept ∧ FilteredEntry getEnrollmentID eIDSet entry kept) := by
  have made := done
  obtain ⟨actionID, issueMetadata, transferMetadata⟩ := entry
  cases issueMetadata with
  | some issue =>
    simp only [filterEntry, filterIssue, ok_iff] at done
    obtain ⟨_, ⟨outputs, filtering, rfl⟩, rfl⟩ := done
    exact .inr ⟨rfl, _, rfl, rfl, mapM_ok_iff.mp filtering, made⟩
  | none =>
    cases transferMetadata with
    | some transfer =>
      simp only [filterEntry, filterTransfer, ok_iff] at done
      obtain ⟨_, ⟨outputs, filtering, _, _, rfl⟩, rfl⟩ := done
      exact .inr ⟨rfl, _, rfl, rfl, mapM_ok_iff.mp filtering, made⟩
    | none =>
      cases done
      exact .inl ⟨rfl, rfl⟩

theorem filter_by_ok (some_id : eIDSet ≠ []) (done : filterBy getEnrollmentID eIDSet m = .ok filtered) :
    Forall₂ (FilteredEntry getEnrollmentID eIDSet) (m.actions.filter described) filtered.actions := by
  simp only [filterBy, if_neg some_id, ok_iff] at done
  obtain ⟨entries, filtering, rfl⟩ := done
  have each := mapM_ok_iff.mp filtering
  clear filtering
  change Forall₂ _ _ entries.reduceOption
  generalize m.actions = actions at each
  induction each with
  | nil => exact .nil
  | cons first _ ih =>
    rcases filter_entry_ok first with ⟨bare, rfl⟩ | ⟨full, kept, rfl, filtered⟩
    · rw [filter_cons_of_neg (by simp [bare]), reduceOption_cons_of_none]
      exact ih
    · rw [filter_cons_of_pos full, reduceOption_cons_of_some]
      exact .cons filtered ih

def FirstSuffices (getEnrollmentID : EnrollmentReader) (eID : Bytes) (eIDs : List Bytes)
    (output : Option OutputMetadata) : Prop :=
  ∀ metadata, output = some metadata → Due getEnrollmentID eIDs metadata → Due getEnrollmentID [eID] metadata

theorem due_first {metadata : OutputMetadata} (due : Due getEnrollmentID [eID] metadata) :
    Due getEnrollmentID (eID :: rest) metadata := by
  obtain ⟨receiver, found, mem, resolved, named⟩ := due
  exact ⟨receiver, found, mem, resolved, mem_cons.mpr (.inl (mem_singleton.mp named))⟩

theorem discloses_iff (output kept : Option OutputMetadata) (done : filterOutput getEnrollmentID [eID] output = .ok kept) :
    Discloses getEnrollmentID (eID :: rest) output kept ↔ FirstSuffices getEnrollmentID eID (eID :: rest) output := by
  obtain ⟨metadata, rfl, present, absent⟩ := filter_output_ok done
  constructor
  · intro discloses other same due
    obtain rfl := Option.some.inj same
    by_contra undue
    have shown := (discloses metadata rfl).1 due
    rw [absent undue] at shown
    cases shown
  · intro suffices_first other same
    obtain rfl := Option.some.inj same
    refine ⟨fun due => present (suffices_first metadata rfl due), fun undue => absent fun due => undue (due_first due)⟩

theorem discloses_due_iff (done : filterBy getEnrollmentID [eID] m = .ok filtered) :
    DisclosesDue getEnrollmentID (eID :: rest) m filtered ↔ ∀ entry ∈ m.actions.filter described, ∀ output ∈ entryOutputs entry,
        FirstSuffices getEnrollmentID eID (eID :: rest) output := by
  refine forall₂_iff_left (fun entry kept made => ?_) (filter_by_ok (cons_ne_nil _ _) done)
  rw [forall₂_iff_left discloses_iff made.outputs]
  exact ⟨fun both => both.2, fun each => ⟨made.actionID, each⟩⟩

end Kept

section Agreement

variable (getEnrollmentID : EnrollmentReader) (eIDs : List Bytes)

def Hidden (output : Option OutputMetadata) : Prop := ∀ metadata, output = some metadata → ¬ Due getEnrollmentID eIDs metadata

def OutputsAgree (output other : Option OutputMetadata) : Prop :=
  output = other ∨ (Hidden getEnrollmentID eIDs output ∧ Hidden getEnrollmentID eIDs other)

structure IssuesAgree (issue other : IssueMetadata) : Prop where
  issuer : issue.issuer = other.issuer
  inputs : issue.inputs = other.inputs
  outputs : Forall₂ (OutputsAgree getEnrollmentID eIDs) issue.outputs other.outputs
  extraSigners : issue.extraSigners = other.extraSigners

structure TransfersAgree (transfer other : TransferMetadata) : Prop where
  inputs : transfer.inputs = other.inputs ∨
    ((∀ output ∈ transfer.outputs, Hidden getEnrollmentID eIDs output) ∧
      Forall₂ (fun input input' => input.map TransferInputMetadata.tokenID = input'.map TransferInputMetadata.tokenID)
        transfer.inputs other.inputs)
  outputs : Forall₂ (OutputsAgree getEnrollmentID eIDs) transfer.outputs other.outputs
  extraSigners : transfer.extraSigners = other.extraSigners
  issuer : transfer.issuer = other.issuer

structure EntriesAgree (entry other : ActionMetadataEntry) : Prop where
  actionID : entry.actionID = other.actionID
  issue : Option.Rel (IssuesAgree getEnrollmentID eIDs) entry.issueMetadata other.issueMetadata
  transfer : Option.Rel (TransfersAgree getEnrollmentID eIDs) entry.transferMetadata other.transferMetadata

structure MetadataAgree (m other : TokenRequestMetadata) : Prop where
  actions : Forall₂ (EntriesAgree getEnrollmentID eIDs) m.actions other.actions
  application : m.application = other.application

end Agreement

section Interference

variable {getEnrollmentID : EnrollmentReader} {eID : Bytes} {rest : List Bytes} {kept : Option OutputMetadata}

theorem hidden_filtered {output : Option OutputMetadata} (hidden : Hidden getEnrollmentID (eID :: rest) output)
    (done : filterOutput getEnrollmentID [eID] output = .ok kept) : kept = none := by
  obtain ⟨metadata, rfl, _, absent⟩ := filter_output_ok done
  exact absent fun due => hidden metadata rfl (due_first due)

theorem mapM_agree {related : α → α → Prop} {f : α → Outcome β} {items others : List α} {results results' : List β}
    (agree : Forall₂ related items others) (done : items.mapM f = .ok results) (done' : others.mapM f = .ok results')
    (same : ∀ a b x y, related a b → f a = .ok x → f b = .ok y → x = y) : results = results' := by
  have first := mapM_ok_iff.mp done
  have second := mapM_ok_iff.mp done'
  clear done done'
  induction agree generalizing results results' with
  | nil =>
    cases first
    cases second
    rfl
  | cons here _ ih =>
    cases first with
    | cons made first =>
      cases second with
      | cons made' second => rw [same _ _ _ _ here made made', ih first second]

theorem outputs_same {output other kept' : Option OutputMetadata}
    (agree : OutputsAgree getEnrollmentID (eID :: rest) output other)
    (done : filterOutput getEnrollmentID [eID] output = .ok kept)
    (done' : filterOutput getEnrollmentID [eID] other = .ok kept') : kept = kept' := by
  rcases agree with rfl | ⟨hidden, hidden'⟩
  · exact Except.ok.inj (done.symm.trans done')
  · rw [hidden_filtered hidden done, hidden_filtered hidden' done']

theorem issues_same {issue other kept kept' : IssueMetadata} (agree : IssuesAgree getEnrollmentID (eID :: rest) issue other)
    (done : filterIssue getEnrollmentID [eID] issue = .ok kept) (done' : filterIssue getEnrollmentID [eID] other = .ok kept') :
    kept = kept' := by
  simp only [filterIssue, ok_iff] at done done'
  obtain ⟨outputs, filtering, rfl⟩ := done
  obtain ⟨outputs', filtering', rfl⟩ := done'
  obtain rfl := mapM_agree agree.outputs filtering filtering' fun _ _ _ _ => outputs_same
  rw [agree.issuer, agree.inputs, agree.extraSigners]

theorem unmatched_inputs {filtered : List (Option TransferInputMetadata)} (done : inputs.mapM (filterInput false) = .ok filtered)
    : filtered = replicate inputs.length (some { tokenID := none, senders := [] }) := by
  have each := mapM_ok_iff.mp done
  clear done
  induction each with
  | nil => rfl
  | cons made _ ih =>
    cases made
    rw [ih, length_cons, replicate_succ]

theorem none_matched {outputs kept : List (Option OutputMetadata)}
    (gone : Forall₂ (fun _ filtered => filtered = none) outputs kept) : kept.any Option.isSome = false := by
  induction gone with
  | nil => rfl
  | cons none _ ih =>
    rw [none, any_cons, ih]
    rfl

theorem transfers_same {transfer other kept kept' : TransferMetadata}
    (agree : TransfersAgree getEnrollmentID (eID :: rest) transfer other)
    (done : filterTransfer getEnrollmentID [eID] transfer = .ok kept)
    (done' : filterTransfer getEnrollmentID [eID] other = .ok kept') : kept = kept' := by
  simp only [filterTransfer, ok_iff] at done done'
  obtain ⟨outputs, filtering, inputs, inputting, rfl⟩ := done
  obtain ⟨outputs', filtering', inputs', inputting', rfl⟩ := done'
  obtain rfl := mapM_agree agree.outputs filtering filtering' fun _ _ _ _ => outputs_same
  have same : inputs = inputs' := by
    rcases agree.inputs with equal | ⟨hidden, lined⟩
    · rw [equal] at inputting
      exact Except.ok.inj (inputting.symm.trans inputting')
    · have unmatched : outputs.any Option.isSome = false := by
        have gone := ((forall₂_and_left _ _).mpr ⟨hidden, mapM_ok_iff.mp filtering⟩).imp
          fun output kept both => hidden_filtered both.1 both.2
        exact none_matched gone
      rw [unmatched] at inputting inputting'
      rw [unmatched_inputs inputting, unmatched_inputs inputting', lined.length_eq]
  rw [same, agree.extraSigners]

theorem entries_same {entry other : ActionMetadataEntry} {kept kept' : Option ActionMetadataEntry}
    (agree : EntriesAgree getEnrollmentID (eID :: rest) entry other) (done : filterEntry getEnrollmentID [eID] entry = .ok kept)
    (done' : filterEntry getEnrollmentID [eID] other = .ok kept') : kept = kept' := by
  obtain ⟨actionID, issueMetadata, transferMetadata⟩ := entry
  obtain ⟨actionID', issueMetadata', transferMetadata'⟩ := other
  obtain ⟨rfl, issue, transfer⟩ := agree
  cases issue with
  | some issue =>
    simp only [filterEntry, ok_iff] at done done'
    obtain ⟨filtered, filtering, rfl⟩ := done
    obtain ⟨filtered', filtering', rfl⟩ := done'
    rw [issues_same issue filtering filtering']
  | none =>
    cases transfer with
    | some transfer =>
      simp only [filterEntry, ok_iff] at done done'
      obtain ⟨filtered, filtering, rfl⟩ := done
      obtain ⟨filtered', filtering', rfl⟩ := done'
      rw [transfers_same transfer filtering filtering']
    | none => exact Except.ok.inj (done.symm.trans done')

theorem filter_by_same {other filtered' : TokenRequestMetadata}
    (agree : MetadataAgree getEnrollmentID (eID :: rest) m other) (done : filterBy getEnrollmentID [eID] m = .ok filtered)
    (done' : filterBy getEnrollmentID [eID] other = .ok filtered') : filtered = filtered' := by
  simp only [filterBy, if_neg (cons_ne_nil eID []), bind_ok_iff, pure_ok_iff] at done done'
  obtain ⟨entries, filtering, rfl⟩ := done
  obtain ⟨entries', filtering', rfl⟩ := done'
  rw [mapM_agree agree.actions filtering filtering' fun _ _ _ _ => entries_same, agree.application]

end Interference

structure Resolvable (getEnrollmentID : EnrollmentReader) (m : TokenRequestMetadata) : Prop where
  outputs : ∀ entry ∈ m.actions, ∀ output ∈ entryOutputs entry,
    ∃ metadata, output = some metadata ∧ Resolved getEnrollmentID metadata.receivers
  inputs : ∀ entry ∈ m.actions, ∀ transfer, entry.transferMetadata = some transfer → none ∉ transfer.inputs

section Success

variable {getEnrollmentID : EnrollmentReader} {eIDSet : List Bytes}

theorem mapM_succeeds {f : α → Outcome β} {items : List α} (each : ∀ item ∈ items, ∃ result, f item = .ok result) :
    ∃ results, items.mapM f = .ok results := by
  induction items with
  | nil => exact ⟨[], rfl⟩
  | cons item rest ih =>
    obtain ⟨result, made⟩ := each item mem_cons_self
    obtain ⟨results, others⟩ := ih fun other mem => each other (mem_cons_of_mem _ mem)
    exact ⟨result :: results, mapM_ok_iff.mpr (.cons made (mapM_ok_iff.mp others))⟩

theorem contains_succeeds (resolved : Resolved getEnrollmentID receivers) :
    ∃ found, contains getEnrollmentID eIDSet receivers = .ok found := by
  induction receivers with
  | nil => exact ⟨false, rfl⟩
  | cons receiver rest ih =>
    obtain ⟨id, eID, rfl, known⟩ := resolved receiver mem_cons_self
    obtain ⟨found, later⟩ := ih fun other mem => resolved other (mem_cons_of_mem _ mem)
    by_cases named : eID ∈ eIDSet
    · refine ⟨true, ?_⟩
      simp only [contains, ok_iff]
      exact ⟨id, rfl, eID, known, by rw [if_pos named]; rfl⟩
    · refine ⟨found, ?_⟩
      simp only [contains, ok_iff]
      exact ⟨id, rfl, eID, known, by rw [if_neg named]; exact later⟩

theorem filter_output_succeeds {output : Option OutputMetadata}
    (known : ∃ metadata, output = some metadata ∧ Resolved getEnrollmentID metadata.receivers) :
    ∃ kept, filterOutput getEnrollmentID eIDSet output = .ok kept := by
  obtain ⟨metadata, rfl, resolved⟩ := known
  obtain ⟨found, checked⟩ : ∃ found, contains getEnrollmentID eIDSet metadata.receivers = .ok found :=
    contains_succeeds resolved
  refine ⟨if found then some metadata else none, ?_⟩
  simp only [filterOutput, ok_iff]
  exact ⟨metadata, rfl, found, checked, rfl⟩

theorem filter_inputs_succeed (matched : Bool) (there : none ∉ inputs) :
    ∃ filtered, inputs.mapM (filterInput matched) = .ok filtered := by
  refine mapM_succeeds fun input mem => ?_
  cases input with
  | none => exact absurd mem there
  | some metadata => cases matched <;> exact ⟨_, rfl⟩

theorem filter_entry_succeeds {entry : ActionMetadataEntry}
    (outputs : ∃ kept, (entryOutputs entry).mapM (filterOutput getEnrollmentID eIDSet) = .ok kept)
    (inputs : ∀ transfer, entry.transferMetadata = some transfer → none ∉ transfer.inputs) :
    ∃ kept, filterEntry getEnrollmentID eIDSet entry = .ok kept := by
  obtain ⟨actionID, issueMetadata, transferMetadata⟩ := entry
  obtain ⟨kept, filtering⟩ := outputs
  cases issueMetadata with
  | some issue =>
    refine ⟨some ⟨actionID, some { issue with outputs := kept }, none⟩, ?_⟩
    simp only [filterEntry, filterIssue, ok_iff]
    exact ⟨_, ⟨kept, filtering, rfl⟩, rfl⟩
  | none =>
    cases transferMetadata with
    | some transfer =>
      obtain ⟨filtered, inputting⟩ := filter_inputs_succeed (kept.any Option.isSome) (inputs transfer rfl)
      refine ⟨some ⟨actionID, none, some ⟨filtered, kept, transfer.extraSigners, ⟨none, []⟩⟩⟩, ?_⟩
      simp only [filterEntry, filterTransfer, ok_iff]
      exact ⟨_, ⟨kept, filtering, filtered, inputting, rfl⟩, rfl⟩
    | none => exact ⟨none, rfl⟩

theorem filter_by_succeeds (some_id : eIDSet ≠ []) (resolvable : Resolvable getEnrollmentID m) :
    ∃ filtered, filterBy getEnrollmentID eIDSet m = .ok filtered := by
  have each : ∀ entry ∈ m.actions, ∃ kept, filterEntry getEnrollmentID eIDSet entry = .ok kept := fun entry mem =>
    filter_entry_succeeds
      (mapM_succeeds fun output inside => filter_output_succeeds (resolvable.outputs entry mem output inside))
      (resolvable.inputs entry mem)
  obtain ⟨entries, filtering⟩ := mapM_succeeds each
  refine ⟨⟨entries.reduceOption, m.application⟩, ?_⟩
  simp only [filterBy, if_neg some_id, ok_iff]
  exact ⟨entries, filtering, rfl⟩

end Success

theorem filter_metadata_ok {getEnrollmentID : EnrollmentReader} {r filtered : Request}
    (done : r.filterMetadataBy getEnrollmentID (eID :: rest) = .ok filtered) :
    filterBy getEnrollmentID [eID] r.metadata = .ok filtered.metadata ∧ filtered = { r with metadata := filtered.metadata } := by
  simp only [Request.filterMetadataBy, head?_cons, ok_iff, Option.some.injEq, exists_eq_left'] at done
  obtain ⟨metadata, filtering, rfl⟩ := done
  exact ⟨filtering, rfl⟩

theorem filter_discloses_due (getEnrollmentID : EnrollmentReader) (r : Request) (eID : Bytes) (rest : List Bytes) :
    (Resolvable getEnrollmentID r.metadata → ∃ filtered, r.filterMetadataBy getEnrollmentID (eID :: rest) = .ok filtered) ∧
    ∀ filtered, r.filterMetadataBy getEnrollmentID (eID :: rest) = .ok filtered →
      (DisclosesDue getEnrollmentID (eID :: rest) r.metadata filtered.metadata ↔
        ∀ entry ∈ r.metadata.actions.filter described, ∀ output ∈ entryOutputs entry,
          FirstSuffices getEnrollmentID eID (eID :: rest) output) ∧
      ∀ other filtered' : Request, MetadataAgree getEnrollmentID (eID :: rest) r.metadata other.metadata →
        other.filterMetadataBy getEnrollmentID (eID :: rest) = .ok filtered' → filtered.metadata = filtered'.metadata := by
  constructor
  · intro resolvable
    obtain ⟨metadata, filtering⟩ : ∃ metadata, filterBy getEnrollmentID [eID] r.metadata = .ok metadata :=
      filter_by_succeeds (cons_ne_nil _ _) resolvable
    refine ⟨{ r with metadata }, ?_⟩
    simp only [Request.filterMetadataBy, head?_cons, ok_iff, Option.some.injEq, exists_eq_left']
    exact ⟨metadata, filtering, rfl⟩
  · intro filtered done
    refine ⟨discloses_due_iff (filter_metadata_ok done).1, fun other filtered' agree done' => ?_⟩
    exact filter_by_same agree (filter_metadata_ok done).1 (filter_metadata_ok done').1

namespace TwoReceivers

def getEnrollmentID (_identity : Identity) (auditInfo : Bytes) : Outcome Bytes := .ok auditInfo

def output (eID : UInt8) : OutputMetadata :=
  { outputMetadata := [1], outputAuditInfo := [eID], receivers := [some { identity := [eID], auditInfo := [eID] }] }

def transfer (sender : AuditableIdentity) (issuer : Option Bytes) (outputs : List (Option OutputMetadata)) : TransferMetadata :=
  { inputs := [some { tokenID := none, senders := [some sender] }], outputs, extraSigners := []
    issuer := { identity := issuer, auditInfo := [] } }

def entry (metadata : TransferMetadata) : ActionMetadataEntry :=
  { actionID := 0, issueMetadata := none, transferMetadata := some metadata }

def oneTransfer (metadata : TransferMetadata) : Request :=
  { anchor := [0x61]
    actions := { version := 1, actions := [{ type := .transfer, raw := [1] }], signatures := [] }
    metadata := { actions := [entry metadata], application := [] } }

def request (outputs : List (Option OutputMetadata)) : Request :=
  oneTransfer (transfer { identity := [7], auditInfo := [7] } none outputs)

def sent : Request := request [some (output 1), some (output 2)]

theorem one_identifier_discloses : ∃ filtered, sent.filterMetadataBy getEnrollmentID [[1]] = .ok filtered ∧
    DisclosesDue getEnrollmentID [[1]] sent.metadata filtered.metadata := by
  obtain ⟨succeeds, law⟩ := filter_discloses_due getEnrollmentID sent [1] []
  have resolvable : Resolvable getEnrollmentID sent.metadata := by
    constructor
    · simp [sent, request, oneTransfer, entry, transfer, entryOutputs, output, Resolved, getEnrollmentID]
    · simp [sent, request, oneTransfer, entry, transfer]
  obtain ⟨filtered, done⟩ := succeeds resolvable
  exact ⟨filtered, done, (law filtered done).1.mpr fun _ _ _ _ _ _ due => due⟩

-- With both identifiers the output of the second one is gone.
theorem second_receiver_left_out :
    sent.filterMetadataBy getEnrollmentID [[1], [2]] = .ok (request [some (output 1), none]) ∧
    Due getEnrollmentID [[1], [2]] (output 2) :=
  ⟨rfl, { identity := [2], auditInfo := [2] }, [2], by decide, by decide, by decide⟩

end TwoReceivers

end Panurus.Client
