import Panurus.Client.Filter
import Panurus.Client.Wire

namespace Panurus.Client

open List Lib Outcome Pointwise Text Core Driver TokenRequestMetadata TransferMetadata ActionMetadataEntry

def issuesOf (m : TokenRequestMetadata) : List IssueMetadata := m.actions.filterMap issueMetadata

def transfersOf (m : TokenRequestMetadata) : List TransferMetadata := m.actions.filterMap transferMetadata

def IssueMatched (tms : ManagementService) (raw : Bytes) (metadata : IssueMetadata) : Prop :=
  ∃ action, tms.deserializeIssueAction raw = .ok action ∧ metadata.matchAction tms.uniqueID action = .ok ()

def TransferMatched (tms : ManagementService) (raw : Bytes) (metadata : TransferMetadata) : Prop :=
  ∃ action, tms.deserializeTransferAction raw = .ok action ∧ metadata.matchAction tms.uniqueID action = .ok ()

structure Matched (tms : ManagementService) (r : Request) : Prop where
  issues : Forall₂ (IssueMatched tms) r.actions.getIssues (issuesOf r.metadata)
  transfers : Forall₂ (TransferMatched tms) r.actions.getTransfers (transfersOf r.metadata)

def passedOver (transfer : TransferMetadata) (j : Nat) : Bool :=
  (transfer.outputs[j]?.join.filter fun metadata => metadata.outputMetadata ≠ []).isNone

def keptFlags (m : TokenRequestMetadata) : List Bool :=
  (issuesOf m).flatMap (fun issue => issue.outputs.map Option.isSome) ++
    (transfersOf m).flatMap fun transfer => transfer.outputs.map Option.isSome

-- What a recipient needs of a request that was filtered and sent: the filtered one says which outputs are gone, and the
-- walk is over the outputs of the original.
structure Usable (tms : ManagementService) (walk : OutputWalk) (filtered received : Request) : Prop where
  matched : Matched tms received
  issuesAbsent : Forall₂ (fun sent issue => ∀ j, issue.isOutputAbsent j = sent.isOutputAbsent j)
    (issuesOf filtered.metadata) (issuesOf received.metadata)
  transfersAbsent : Forall₂ (fun sent transfer => ∀ j, transfer.isOutputAbsent j = sent.isOutputAbsent j ∧
    passedOver transfer j = sent.isOutputAbsent j) (transfersOf filtered.metadata) (transfersOf received.metadata)
  outputs : ∃ extracted, received.outputs tms false = .ok extracted ∧
    extracted.outputs = walk.outputs.filter fun o => (keptFlags filtered.metadata)[o.index.toNat]? ≠ some false

theorem passed_over_extracts_nothing {transfer : TransferMetadata} {j : Nat} (passed : passedOver transfer j)
    (tms : ManagementService) (noOutputForRecipient : Bool) (i : Nat) (counter : UInt64) (recipientCounter : Nat)
    (action : ActionInterface) {output : OutputInterface} {raw : Bytes} (serialized : output.serialize = .ok raw) :
    transferOutput tms false noOutputForRecipient i j counter recipientCounter action transfer (some output) = .ok [] := by
  rw [passedOver, Option.isNone_iff_eq_none] at passed
  simp only [transferOutput, ok_iff, serialized, Option.some.injEq, Except.ok.injEq, exists_eq_left', passed, and_self,
    exists_const]

variable {issue : IssueMetadata} {text : Bytes → String} {r : Request}

section Congruence

theorem issue_match_congr {other : IssueMetadata} (inputs : issue.inputs.length = other.inputs.length)
    (outputs : issue.outputs.length = other.outputs.length) (signers : issue.extraSigners = other.extraSigners)
    (issuer : issue.issuer = other.issuer) (text : Bytes → String) (action : ActionInterface) :
    issue.matchAction text action = other.matchAction text action := by
  simp [IssueMetadata.matchAction, inputs, outputs, signers, issuer]

structure SameShape (transfer other : TransferMetadata) : Prop where
  inputs : transfer.inputs.length = other.inputs.length
  outputs : transfer.outputs.length = other.outputs.length
  extraSigners : transfer.extraSigners = other.extraSigners

variable {transfer other : TransferMetadata}

theorem transfer_match_congr (shape : SameShape transfer other)
    (issuer : transfer.issuer.identity.getD [] = other.issuer.identity.getD []) (text : Bytes → String)
    (action : ActionInterface) : transfer.matchAction text action = other.matchAction text action := by
  simp [matchAction, shape.inputs, shape.outputs, shape.extraSigners, issuer]

theorem transfer_match_iff (shape : SameShape transfer other)
    {action : ActionInterface} (matched : transfer.matchAction text action = .ok ()) :
    other.matchAction text action = .ok () ↔ transfer.issuer.identity.getD [] = other.issuer.identity.getD [] := by
  constructor
  · intro passed
    simp only [matchAction, ok_iff] at matched passed
    obtain ⟨_, _, _, _, _, _, _, _, _, _, issuer⟩ := matched
    obtain ⟨_, _, _, _, _, _, _, _, _, _, issuer'⟩ := passed
    exact issuer.trans issuer'.symm
  · intro issuer
    rw [← transfer_match_congr shape issuer, matched]

-- The outputs depend on a transfer's metadata only as far as it is matched and its outputs.
structure SameOutputs (transfer other : TransferMetadata) : Prop where
  shape : SameShape transfer other
  outputs : transfer.outputs = other.outputs
  issuer : transfer.issuer.identity.getD [] = other.issuer.identity.getD []

theorem get_issue_metadata_eq (m : TokenRequestMetadata) (i : Nat) :
    m.getIssueMetadata i = select "issue" (issuesOf m) i := rfl

theorem get_transfer_metadata_eq (m : TokenRequestMetadata) (i : Nat) :
    m.getTransferMetadata i = select "transfer" (transfersOf m) i := rfl

theorem select_related {α : Type} {related : α → α → Prop} {found others : List α} (all : Forall₂ related found others)
    (kind : String) (i : Nat) :
    (∃ item other, select kind found i = .ok item ∧ select kind others i = .ok other ∧ related item other) ∨
    ∃ cause, select kind found i = .error cause ∧ select kind others i = .error cause := by
  by_cases bound : i < found.length
  · have bound' : i < others.length := all.length_eq ▸ bound
    exact .inl ⟨found[i], others[i], required_ok_iff.mpr (getElem?_eq_getElem bound),
      required_ok_iff.mpr (getElem?_eq_getElem bound'), all.get bound bound'⟩
  · have beyond : found[i]? = none := getElem?_eq_none (Nat.not_lt.mp bound)
    have beyond' : others[i]? = none := getElem?_eq_none (all.length_eq ▸ Nat.not_lt.mp bound)
    refine .inr ⟨_, by rw [select, beyond]; rfl, ?_⟩
    rw [select, beyond', all.length_eq]
    rfl

theorem outputs_congr (tms : ManagementService) {other : Request} (actions : r.actions.actions = other.actions.actions)
    (issues : issuesOf r.metadata = issuesOf other.metadata)
    (transfers : Forall₂ SameOutputs (transfersOf r.metadata) (transfersOf other.metadata)) (failOnMissing : Bool) :
    r.outputs tms failOnMissing = other.outputs tms failOnMissing := by
  have getIssues : r.actions.getIssues = other.actions.getIssues := by simp [TokenRequest.getIssues, actions]
  have getTransfers : r.actions.getTransfers = other.actions.getTransfers := by simp [TokenRequest.getTransfers, actions]
  simp only [Request.outputs, get_issue_metadata_eq, get_transfer_metadata_eq, issues, getIssues, getTransfers]
  congr 1
  funext walk
  congr 1
  funext i state transfer
  congr 1
  rcases select_related transfers "transfer" i with ⟨metadata, metadata', found, found', same⟩ | ⟨cause, missing, missing'⟩
  · simp [found, found', wrap, bind, Except.bind, transfer_match_congr same.shape same.issuer, same.outputs,
      extractTransferOutputs, transferOutput]
  · simp [missing, missing']

end Congruence

def AllDue (getEnrollmentID : EnrollmentReader) (eID : Bytes) (outputs : List (Option OutputMetadata)) : Prop :=
  ∀ output ∈ outputs, ∀ metadata, output = some metadata → Due getEnrollmentID [eID] metadata

def AllDescribed (outputs : List (Option OutputMetadata)) : Prop :=
  ∀ output ∈ outputs, ∀ metadata, output = some metadata → metadata.outputMetadata ≠ []

section Outputs

variable {getEnrollmentID : EnrollmentReader} {eID : Bytes} {outputs kept : List (Option OutputMetadata)}

section

variable (each : Filtered getEnrollmentID [eID] outputs kept)
include each

theorem none_filtered_iff : (∀ output ∈ kept, output ≠ none) ↔ AllDue getEnrollmentID eID outputs := by
  refine forall_mem_through each fun output result done => ?_
  obtain ⟨metadata, rfl, present, absent⟩ := filter_output_ok done
  constructor
  · intro there other same
    obtain rfl := Option.some.inj same
    exact Classical.byContradiction fun undue => there (absent undue)
  · intro due gone
    rw [present (due metadata rfl)] at gone
    cases gone

theorem all_due_kept (due : AllDue getEnrollmentID eID outputs) : kept = outputs := by
  induction each with
  | nil => rfl
  | cons done _ ih =>
    obtain ⟨metadata, rfl, present, _⟩ := filter_output_ok done
    rw [present (due _ mem_cons_self metadata rfl), ih fun output mem => due output (mem_cons_of_mem _ mem)]

end

theorem received_at (outputs : List (Option OutputMetadata)) (j : Nat) :
    (outputsReceived outputs)[j]?.join = outputs[j]?.map outputReceived := by
  rw [outputsReceived, getElem?_map]
  cases outputs[j]? <;> rfl

theorem received_absent_iff (absent : Option OutputMetadata → Bool) (unknown : absent none = true) :
    (∀ j : Nat, absent (outputsReceived outputs)[j]?.join = outputs[j]?.join.isNone) ↔
      ∀ output ∈ outputs, absent (some (outputReceived output)) = output.isNone := by
  simp only [received_at]
  constructor
  · intro same output mem
    obtain ⟨j, found⟩ := mem_iff_getElem?.mp mem
    simpa [found] using same j
  · intro each j
    cases found : outputs[j]? with
    | none => exact unknown
    | some output => exact each output (mem_of_getElem? found)

theorem absence_kept_iff (outputs : List (Option OutputMetadata)) :
    (∀ j : Nat, (outputsReceived outputs)[j]?.join.isNone = outputs[j]?.join.isNone) ↔ ∀ output ∈ outputs, output ≠ none := by
  refine (received_absent_iff Option.isNone rfl).trans (forall₂_congr fun output _ => ?_)
  cases output <;> simp

theorem passed_over_kept_iff (there : ∀ output ∈ outputs, output ≠ none) :
    (∀ j : Nat, ((outputsReceived outputs)[j]?.join.filter fun metadata => metadata.outputMetadata ≠ []).isNone =
      outputs[j]?.join.isNone) ↔ AllDescribed outputs := by
  refine (received_absent_iff (fun found => (found.filter _).isNone) rfl).trans (forall₂_congr fun output mem => ?_)
  cases output with
  | none => exact absurd rfl (there none mem)
  | some metadata => by_cases empty : metadata.outputMetadata = [] <;> simp [outputReceived, OutputMetadata.received, empty]

end Outputs

section Kinds

variable {getEnrollmentID : EnrollmentReader} {eID : Bytes} {m : TokenRequestMetadata}

def OneKind (entry : ActionMetadataEntry) : Prop := entry.issueMetadata.isSome → entry.transferMetadata = none

structure FilteredKinds (getEnrollmentID : EnrollmentReader) (eID : Bytes) (m filtered : TokenRequestMetadata) : Prop where
  issues : Forall₂ (fun issue kept => filterIssue getEnrollmentID [eID] issue = .ok kept) (issuesOf m) (issuesOf filtered)
  transfers : Forall₂ (fun transfer kept => filterTransfer getEnrollmentID [eID] transfer = .ok kept) (transfersOf m)
    (transfersOf filtered)
  one : ∀ entry ∈ filtered.actions, OneKind entry

theorem FilteredKinds.cons {entry kept : ActionMetadataEntry} {actions filtered : List ActionMetadataEntry}
    {application application' : Entries} (complete : EntryComplete entry)
    (done : filterEntry getEnrollmentID [eID] entry = .ok (some kept))
    (rest : FilteredKinds getEnrollmentID eID ⟨actions, application⟩ ⟨filtered, application'⟩) :
    FilteredKinds getEnrollmentID eID ⟨entry :: actions, application⟩ ⟨kept :: filtered, application'⟩ := by
  obtain ⟨actionID, issueMetadata, transferMetadata⟩ := entry
  cases issueMetadata with
  | some issue =>
    cases transferMetadata with
    | some transfer => exact complete.elim
    | none =>
      simp only [filterEntry, ok_iff, Option.some.injEq] at done
      obtain ⟨result, made, rfl⟩ := done
      exact ⟨.cons made rest.issues, rest.transfers, forall_mem_cons.mpr ⟨fun _ => rfl, rest.one⟩⟩
  | none =>
    cases transferMetadata with
    | none => exact complete.elim
    | some transfer =>
      simp only [filterEntry, ok_iff, Option.some.injEq] at done
      obtain ⟨result, made, rfl⟩ := done
      exact ⟨rest.issues, .cons made rest.transfers, forall_mem_cons.mpr ⟨fun one => (by cases one), rest.one⟩⟩

theorem complete_described {entry : ActionMetadataEntry} (complete : EntryComplete entry) : described entry := by
  obtain ⟨actionID, issueMetadata, transferMetadata⟩ := entry
  cases issueMetadata <;> cases transferMetadata <;> simp_all [described, EntryComplete]

theorem filtered_kinds {filtered : TokenRequestMetadata} (complete : ∀ entry ∈ m.actions, EntryComplete entry)
    (done : filterBy getEnrollmentID [eID] m = .ok filtered) : FilteredKinds getEnrollmentID eID m filtered := by
  have each := filter_by_ok (cons_ne_nil _ _) done
  rw [filter_eq_self.mpr fun entry mem => complete_described (complete entry mem)] at each
  clear done
  obtain ⟨actions, application⟩ := m
  obtain ⟨kept, application'⟩ := filtered
  change Forall₂ _ actions kept at each
  induction each with
  | nil => exact ⟨.nil, .nil, by simp⟩
  | cons first _ ih =>
    obtain ⟨here, others⟩ := forall_mem_cons.mp complete
    exact .cons here first.entry (ih others)

theorem issues_received (m : TokenRequestMetadata) (application : Entries) :
    issuesOf { actions := m.actions.map received, application } = (issuesOf m).map IssueMetadata.received := by
  simp only [issuesOf, filterMap_map, map_filterMap]
  congr 1
  funext entry
  obtain ⟨actionID, issueMetadata, transferMetadata⟩ := entry
  cases issueMetadata <;> rfl

theorem transfers_received (one : ∀ entry ∈ m.actions, OneKind entry) (application : Entries) :
    transfersOf { actions := m.actions.map received, application } =
      (transfersOf m).map TransferMetadata.received := by
  simp only [transfersOf, filterMap_map, map_filterMap]
  refine filterMap_congr fun entry mem => ?_
  have single := one entry mem
  obtain ⟨actionID, issueMetadata, transferMetadata⟩ := entry
  cases issueMetadata with
  | none => rfl
  | some issue =>
    obtain rfl : transferMetadata = none := single rfl
    rfl

theorem complete_issue (complete : ∀ entry ∈ m.actions, EntryComplete entry)
    (mem : issue ∈ issuesOf m) : OutputsComplete issue.outputs := by
  obtain ⟨entry, inside, found⟩ := mem_filterMap.mp mem
  have here := complete entry inside
  obtain ⟨actionID, issueMetadata, transferMetadata⟩ := entry
  obtain rfl : issueMetadata = some issue := found
  cases transferMetadata with
  | none => exact here
  | some transfer => exact here.elim

theorem complete_transfer (complete : ∀ entry ∈ m.actions, EntryComplete entry)
    {transfer : TransferMetadata} (mem : transfer ∈ transfersOf m) : OutputsComplete transfer.outputs := by
  obtain ⟨entry, inside, found⟩ := mem_filterMap.mp mem
  have here := complete entry inside
  obtain ⟨actionID, issueMetadata, transferMetadata⟩ := entry
  obtain rfl : transferMetadata = some transfer := found
  cases issueMetadata with
  | none => exact here.2
  | some issue => exact here.elim

end Kinds

section Action

variable {getEnrollmentID : EnrollmentReader} {eID : Bytes} {transfer kept : TransferMetadata}

theorem filter_issue_ok {kept : IssueMetadata} (done : filterIssue getEnrollmentID [eID] issue = .ok kept) :
    Filtered getEnrollmentID [eID] issue.outputs kept.outputs ∧ kept = { issue with outputs := kept.outputs } := by
  simp only [filterIssue, ok_iff] at done
  obtain ⟨outputs, filtering, rfl⟩ := done
  exact ⟨mapM_ok_iff.mp filtering, rfl⟩

structure FilteredTransfer (getEnrollmentID : EnrollmentReader) (eID : Bytes) (transfer kept : TransferMetadata) : Prop where
  outputs : Filtered getEnrollmentID [eID] transfer.outputs kept.outputs
  shape : SameShape transfer kept
  issuer : kept.issuer = { identity := none, auditInfo := [] }

theorem filter_transfer_ok (done : filterTransfer getEnrollmentID [eID] transfer = .ok kept) :
    FilteredTransfer getEnrollmentID eID transfer kept := by
  simp only [filterTransfer, ok_iff] at done
  obtain ⟨outputs, filtering, inputs, inputting, rfl⟩ := done
  have each := mapM_ok_iff.mp filtering
  exact ⟨each, ⟨(mapM_ok_iff.mp inputting).length_eq, each.length_eq, rfl⟩, rfl⟩

theorem shape_received (shape : SameShape transfer kept) : SameShape transfer kept.received :=
  ⟨by simpa [TransferMetadata.received] using shape.inputs,
    by simpa [TransferMetadata.received, outputsReceived] using shape.outputs, shape.extraSigners⟩

theorem issue_match_received {kept : IssueMetadata} (done : filterIssue getEnrollmentID [eID] issue = .ok kept)
    (text : Bytes → String) (action : ActionInterface) : issue.matchAction text action = kept.received.matchAction text action := by
  obtain ⟨each, same⟩ := filter_issue_ok done
  rw [same]
  apply issue_match_congr
  · rfl
  · simpa [IssueMetadata.received, outputsReceived] using each.length_eq
  · rfl
  · rfl

theorem transfer_match_received (done : filterTransfer getEnrollmentID [eID] transfer = .ok kept) {action : ActionInterface}
    (matched : transfer.matchAction text action = .ok ()) :
    kept.received.matchAction text action = .ok () ↔ transfer.issuer.identity.getD [] = [] := by
  have made := filter_transfer_ok done
  rw [transfer_match_iff (shape_received made.shape) matched]
  have none : kept.received.issuer.identity.getD [] = [] := by
    simp [TransferMetadata.received, TransferIssuer.received, made.issuer]
  rw [none]

end Action

-- Nothing is filtered out, no transfer has an issuer, and every output of a transfer has its metadata.
structure Disclosed (getEnrollmentID : EnrollmentReader) (eID : Bytes) (m : TokenRequestMetadata) : Prop where
  issues : ∀ issue ∈ issuesOf m, AllDue getEnrollmentID eID issue.outputs
  transfers : ∀ transfer ∈ transfersOf m, AllDue getEnrollmentID eID transfer.outputs ∧ AllDescribed transfer.outputs
  issuers : ∀ transfer ∈ transfersOf m, transfer.issuer.identity.getD [] = []

section Use

variable {getEnrollmentID : EnrollmentReader} {eID : Bytes} {m filtered : TokenRequestMetadata}

section

variable (kinds : FilteredKinds getEnrollmentID eID m filtered)
include kinds

theorem issues_absent_iff :
    Forall₂ (fun sent issue => ∀ j, IssueMetadata.isOutputAbsent issue j = IssueMetadata.isOutputAbsent sent j)
      (issuesOf filtered) ((issuesOf filtered).map IssueMetadata.received) ↔
      ∀ issue ∈ issuesOf m, AllDue getEnrollmentID eID issue.outputs := by
  rw [forall₂_map_right_iff, forall₂_same]
  refine forall_mem_through kinds.issues fun issue kept done => ?_
  exact (absence_kept_iff kept.outputs).trans (none_filtered_iff (filter_issue_ok done).1)

theorem transfers_absent_iff :
    Forall₂ (fun sent transfer => ∀ j, isOutputAbsent transfer j = isOutputAbsent sent j ∧
      passedOver transfer j = isOutputAbsent sent j)
      (transfersOf filtered) ((transfersOf filtered).map TransferMetadata.received) ↔
      ∀ transfer ∈ transfersOf m, AllDue getEnrollmentID eID transfer.outputs ∧ AllDescribed transfer.outputs := by
  rw [forall₂_map_right_iff, forall₂_same]
  refine forall_mem_through kinds.transfers fun transfer kept done => ?_
  have each := (filter_transfer_ok done).outputs
  rw [forall_and]
  constructor
  · rintro ⟨absent, passed⟩
    have there := (absence_kept_iff kept.outputs).mp absent
    have due := (none_filtered_iff each).mp there
    exact ⟨due, all_due_kept each due ▸ (passed_over_kept_iff there).mp passed⟩
  · rintro ⟨due, described⟩
    have there := (none_filtered_iff each).mpr due
    exact ⟨(absence_kept_iff kept.outputs).mpr there, (passed_over_kept_iff there).mpr (all_due_kept each due ▸ described)⟩

theorem flags_all_kept (disclosed : Disclosed getEnrollmentID eID m) : ∀ flag ∈ keptFlags filtered, flag = true := by
  have issues := (forall_mem_through kinds.issues fun _ _ done => none_filtered_iff (filter_issue_ok done).1).mpr disclosed.issues
  have transfers := (forall_mem_through kinds.transfers fun _ _ done => none_filtered_iff (filter_transfer_ok done).outputs).mpr
    fun transfer mem => (disclosed.transfers transfer mem).1
  intro flag mem
  simp only [keptFlags, mem_append, mem_flatMap, mem_map] at mem
  rcases mem with ⟨issue, inside, output, found, rfl⟩ | ⟨transfer, inside, output, found, rfl⟩
  · exact Option.isSome_iff_ne_none.mpr (issues issue inside output found)
  · exact Option.isSome_iff_ne_none.mpr (transfers transfer inside output found)

end

section

variable (complete : ∀ entry ∈ m.actions, EntryComplete entry) (kinds : FilteredKinds getEnrollmentID eID m filtered)
  (disclosed : Disclosed getEnrollmentID eID m)
include complete kinds disclosed

theorem issues_unchanged : issuesOf m = (issuesOf filtered).map IssueMetadata.received := by
  have each : Forall₂ (fun issue kept => issue = IssueMetadata.received kept) (issuesOf m) (issuesOf filtered) := by
    refine (forall₂_with_mem kinds.issues).imp ?_
    rintro issue kept ⟨mem, done⟩
    obtain ⟨outputs, same⟩ := filter_issue_ok done
    have unchanged := all_due_kept outputs (disclosed.issues issue mem)
    rw [same, unchanged, IssueMetadata.received, outputs_complete (complete_issue complete mem)]
  have mapped := forall₂_map_right_iff.mpr each
  rwa [forall₂_eq_eq_eq] at mapped

theorem transfers_unchanged : Forall₂ SameOutputs (transfersOf m) ((transfersOf filtered).map TransferMetadata.received) := by
  rw [forall₂_map_right_iff]
  refine (forall₂_with_mem kinds.transfers).imp ?_
  rintro transfer kept ⟨mem, done⟩
  have made := filter_transfer_ok done
  have unchanged := all_due_kept made.outputs (disclosed.transfers transfer mem).1
  refine ⟨shape_received made.shape, ?_, ?_⟩
  · rw [TransferMetadata.received, unchanged, outputs_complete (complete_transfer complete mem)]
  · rw [disclosed.issuers transfer mem, TransferMetadata.received, made.issuer]
    rfl

end

theorem received_matched_iff {tms : ManagementService} {received : Request} (matched : Matched tms r)
    (kinds : FilteredKinds getEnrollmentID eID r.metadata filtered) (actions : received.actions.actions = r.actions.actions)
    (issues : issuesOf received.metadata = (issuesOf filtered).map IssueMetadata.received)
    (transfers : transfersOf received.metadata = (transfersOf filtered).map TransferMetadata.received) :
    Matched tms received ↔ ∀ transfer ∈ transfersOf r.metadata, transfer.issuer.identity.getD [] = [] := by
  have getIssues : received.actions.getIssues = r.actions.getIssues := by simp [TokenRequest.getIssues, actions]
  have getTransfers : received.actions.getTransfers = r.actions.getTransfers := by
    simp [TokenRequest.getTransfers, actions]
  have issuesMatch : Forall₂ (IssueMatched tms) received.actions.getIssues (issuesOf received.metadata) := by
    rw [getIssues, issues, forall₂_map_right_iff]
    have always : ∀ issue ∈ issuesOf r.metadata, True := fun _ _ => trivial
    refine (forall₂_through matched.issues kinds.issues ?_).mpr always
    rintro raw issue kept ⟨action, read, passed⟩ done
    exact ⟨fun _ => trivial, fun _ => ⟨action, read, by rw [← issue_match_received done, passed]⟩⟩
  have transfersMatch : Forall₂ (TransferMatched tms) received.actions.getTransfers (transfersOf received.metadata) ↔
      ∀ transfer ∈ transfersOf r.metadata, transfer.issuer.identity.getD [] = [] := by
    rw [getTransfers, transfers, forall₂_map_right_iff]
    refine forall₂_through matched.transfers kinds.transfers ?_
    rintro raw transfer kept ⟨action, read, passed⟩ done
    constructor
    · rintro ⟨other, read', passed'⟩
      obtain rfl := Except.ok.inj (read.symm.trans read')
      exact (transfer_match_received done passed).mp passed'
    · intro none
      exact ⟨action, read, (transfer_match_received done passed).mpr none⟩
  exact ⟨fun all => transfersMatch.mp all.transfers, fun none => ⟨issuesMatch, transfersMatch.mpr none⟩⟩

end Use

theorem filtered_request_usable (wire : Wire) (sound : wire.RoundTrips) (tms : ManagementService)
    (getEnrollmentID : EnrollmentReader) (r : Request) (valid : r.Valid) (matched : Matched tms r)
    (walk : OutputWalk) (extracted : r.outputs tms false = .ok walk) (eID : Bytes) (rest : List Bytes) (filtered : Request)
    (done : r.filterMetadataBy getEnrollmentID (eID :: rest) = .ok filtered) (raw : Bytes)
    (written : filtered.bytes wire = .ok raw) (anchor : Bytes) :
    ∃ received, (Request.new anchor).fromBytes wire raw = .ok received ∧
      (Usable tms walk filtered received ↔ Disclosed getEnrollmentID eID r.metadata) := by
  obtain ⟨filtering, same⟩ := filter_metadata_ok done
  have actions : filtered.actions = r.actions := by rw [same]
  have kinds := filtered_kinds valid.complete filtering
  obtain ⟨application, _, reads⟩ := from_bytes_iff sound (actions ▸ valid.sendable) written
  refine ⟨(Request.new anchor).received filtered application, (reads _ _).mpr ⟨?_, rfl⟩, ?_⟩
  · rw [actions]
    exact (validate_ok_iff.mp valid.sendable.valid).2
  generalize received_eq : (Request.new anchor).received filtered application = received
  have issues : issuesOf received.metadata = (issuesOf filtered.metadata).map IssueMetadata.received := by
    rw [← received_eq]
    exact issues_received filtered.metadata application
  have transfers : transfersOf received.metadata = (transfersOf filtered.metadata).map TransferMetadata.received := by
    rw [← received_eq]
    exact transfers_received kinds.one application
  have sent : received.actions.actions = r.actions.actions := by
    rw [← received_eq, ← actions]
    rfl
  have passes := received_matched_iff matched kinds sent issues transfers
  have issuesAbsent := issues_absent_iff kinds
  have transfersAbsent := transfers_absent_iff kinds
  rw [← issues] at issuesAbsent
  rw [← transfers] at transfersAbsent
  constructor
  · intro usable
    exact ⟨issuesAbsent.mp usable.issuesAbsent, transfersAbsent.mp usable.transfersAbsent, passes.mp usable.matched⟩
  · intro disclosed
    refine ⟨passes.mpr disclosed.issuers, issuesAbsent.mpr disclosed.issues, transfersAbsent.mpr disclosed.transfers, walk, ?_, ?_⟩
    · rw [← extracted]
      exact (outputs_congr tms sent.symm (issues ▸ issues_unchanged valid.complete kinds disclosed)
        (transfers ▸ transfers_unchanged valid.complete kinds disclosed) false).symm
    · refine (filter_eq_self.mpr fun o _ => ?_).symm
      rw [decide_eq_true_iff]
      intro gone
      cases flags_all_kept kinds disclosed false (mem_of_getElem? gone)

-- A transfer with an output for each enrollment identifier, signed by an issuer or not.
namespace Redeem

open TwoReceivers (getEnrollmentID output entry oneTransfer)

def transfer (issuer : Option Bytes) (outputs : List (Option OutputMetadata)) : TransferMetadata :=
  TwoReceivers.transfer { identity := [7], auditInfo := [7] } issuer outputs

def request (issuer : Option Bytes) (outputs : List (Option OutputMetadata)) : Request := oneTransfer (transfer issuer outputs)

def action (issuer : Option Bytes) (receivers : List UInt8) : ActionInterface :=
  { validate := .ok ()
    numInputs := 1
    outputs := receivers.map fun receiver => some { serialize := .ok [receiver], isRedeem := false }
    extraSigners := []
    issuer
    metadata := [] }

def tms (issuer : Option Bytes) (receivers : List UInt8) : ManagementService :=
  { uniqueID := fun _ => ""
    precision := 64
    deserializeIssueAction := fun _ => .error "no issue"
    deserializeTransferAction := fun _ => .ok (action issuer receivers)
    verifyIssue := fun _ _ => .ok ()
    verifyTransfer := fun _ _ => .ok ()
    deobfuscate := fun raw _ =>
      .ok { tok := { owner := raw, type := [1], quantity := ascii "0x1" }, issuer := [], recipients := [raw], format := [] }
    getEIDAndRH := fun _ auditInfo => .ok (auditInfo, []) }

def message (outputs : List (Option OutputMetadata)) : Proto.TokenRequestWithMetadata :=
  { version := 1
    anchor := [0x61]
    request := some { version := 1, actions := [some (.typedAction .transfer [1])], signatures := [] }
    metadata := some
      { version := 1
        metadata := [some { actionId := 0, metadata := .transferMetadata (transfer none outputs).toProtos }]
        applicationMetadata := [] } }

open Proto (field) in
def octets (outputs : List (Option OutputMetadata)) : Bytes :=
  let sender := field 2 (identityOctets { identity := [7], auditInfo := [7] })
  let metadata := field 1 sender ++ outputs.flatMap fun o => field 2 (o.elim [] outputOctets)
  withMetadataOctets (message outputs) (field 3 metadata)

def wire (outputs : List (Option OutputMetadata)) : Wire := .carrying (message outputs) (octets outputs)

-- Its second receiver is that of the first output.
def shared : OutputMetadata :=
  { outputMetadata := [2]
    outputAuditInfo := [2]
    receivers := [some { identity := [2], auditInfo := [2] }, some { identity := [1], auditInfo := [1] }] }

def toOne : List (Option OutputMetadata) := [some (output 1), some shared]

theorem request_valid : (request none toOne).Valid := by
  constructor
  · exact ⟨.inr rfl, by simp [request, oneTransfer], rfl⟩
  · simp [request, oneTransfer, entry, transfer, TwoReceivers.transfer, EntryComplete, InputsComplete, OutputsComplete, toOne,
      output, shared]

theorem request_matched : Matched (tms none [1, 2]) (request none toOne) := by
  refine ⟨.nil, .cons ⟨action none [1, 2], rfl, ?_⟩ .nil⟩
  simp [matchAction, transfer, TwoReceivers.transfer, action, bind_ok_iff, checkEach, toOne]

theorem both_outputs_usable : ∃ walk received, (request none toOne).outputs (tms none [1, 2]) false = .ok walk ∧
    (Request.new []).fromBytes (wire toOne) (octets toOne) = .ok received ∧
    Usable (tms none [1, 2]) walk (request none toOne) received := by
  obtain ⟨walk, extracted⟩ : ∃ walk, (request none toOne).outputs (tms none [1, 2]) false = .ok walk :=
    is_ok_exists (by decide +kernel)
  have written : (request none toOne).bytes (wire toOne) = .ok (octets toOne) := by decide +kernel
  obtain ⟨received, read, usable⟩ := filtered_request_usable (wire toOne) (carrying_round_trips _ _) (tms none [1, 2])
    getEnrollmentID (request none toOne) request_valid request_matched walk extracted [1] [] (request none toOne) rfl
    (octets toOne) written []
  refine ⟨walk, received, extracted, read, usable.mpr ⟨by simp [request, oneTransfer, entry, issuesOf], ?_, ?_⟩⟩
  · have first : Due getEnrollmentID [[1]] (output 1) := ⟨_, _, mem_singleton.mpr rfl, rfl, mem_singleton.mpr rfl⟩
    have second : Due getEnrollmentID [[1]] shared := ⟨{ identity := [1], auditInfo := [1] }, [1], by decide, rfl, by decide⟩
    simpa [request, oneTransfer, entry, transfersOf, transfer, TwoReceivers.transfer, AllDue, AllDescribed, toOne, output,
      shared] using And.intro first second
  · simp [request, oneTransfer, entry, transfersOf, transfer, TwoReceivers.transfer]

-- The recipient of the first output reads a transfer that does not match its action, and finds the second output there.
theorem issuer_and_absence_lost :
    (request (some [9]) [some (output 1), some (output 2)]).filterMetadataBy getEnrollmentID [[1]] =
      .ok (request none [some (output 1), none]) ∧
    ∃ received transferMeta, (Request.new []).fromBytes (wire [some (output 1), none]) (octets [some (output 1), none]) = .ok received ∧
      (request none [some (output 1), none]).bytes (wire [some (output 1), none]) = .ok (octets [some (output 1), none]) ∧
      received.metadata.getTransferMetadata 0 = .ok transferMeta ∧
      (transfer (some [9]) [some (output 1), some (output 2)]).matchAction (fun _ => "") (action (some [9]) [1, 2]) = .ok () ∧
      transferMeta.matchAction (fun _ => "") (action (some [9]) [1, 2]) = .error "expected issuer [] but got []" ∧
      (transfer none [some (output 1), none]).isOutputAbsent 1 ∧ transferMeta.isOutputAbsent 1 = false :=
  ⟨rfl, _, _, rfl, rfl, rfl, rfl, rfl, rfl, rfl⟩

end Redeem

end Panurus.Client
