import Panurus.Client.OutputIndexes
import Panurus.Fabtoken.Supply

namespace Panurus.Fabtoken

open List Lib Outcome Core Driver Client

def Output.view (output : Output) : OutputInterface := { serialize := .ok output.serialize, isRedeem := output.isRedeem }

open Output

-- The client makes its actions without limits of their own, so the default ones count.
def IssueAction.view (action : IssueAction) : ActionInterface :=
  { validate := action.validate defaultResourceLimits
    numInputs := 0
    outputs := action.outputs.map fun output => output.map Output.view
    extraSigners := []
    issuer := some action.issuer
    metadata := action.metadata }

def TransferAction.view (action : TransferAction) : ActionInterface :=
  { validate := action.validate defaultResourceLimits
    numInputs := action.inputs.length
    outputs := action.outputs.map fun output => output.map Output.view
    extraSigners := []
    issuer := action.issuer
    metadata := action.metadata }

open TransferAction

-- The services of the driver that read actions; the other services are any.
def clientService (protobuf : Protobuf) (others : ManagementService) : ManagementService :=
  { others with
    deserializeIssueAction := fun raw => do
      let action ← wrap "failed deserializing issue action" (IssueAction.deserialize protobuf.issueAction defaultResourceLimits raw)
      return action.view
    deserializeTransferAction := fun raw => do
      let action ← wrap "failed deserializing transfer action"
        (deserialize protobuf.transferAction defaultResourceLimits raw)
      return action.view }

def kindOf : AnyAction → ActionType
  | .issue _ => .issue
  | .transfer _ => .transfer

def viewAs (kind : ActionType) : AnyAction → Option ActionInterface
  | .issue action => if kind = .issue then some action.view else none
  | .transfer action => if kind = .transfer then some action.view else none

def planOf (values : List AnyAction) : Plan :=
  values.map fun value => (kindOf value, (outputsAt value).length)

def keptAt (value : AnyAction) (output : Output) : Prop :=
  match value with
  | .issue _ => True
  | .transfer _ => output.isRedeem = false

def Shows (o : Client.Output) (tok : Output) : Prop := o.ledgerOutput = tok.serialize ∨ o.ledgerOutput = []

structure ClientPlace (values : List AnyAction) (o : Client.Output) (position : Nat) (value : AnyAction) (j : Nat)
    (tok : Output) : Prop where
  action : values[position]? = some value
  output : (outputsAt value)[j]? = some (some tok)
  actionType : o.actionType = kindOf value
  actionIndex : o.actionIndex = ((values.take position).filter fun other => kindOf other = kindOf value).length
  index : o.index = UInt64.ofNat (clientStart (planOf values) position (kindOf value) + j)
  shows : Shows o tok

structure OutputIndexes (d : Deployment) (s : Submission) (values : List AnyAction) (outputs : List Client.Output) : Prop where
  client : ∀ o ∈ outputs, ∃ position value j tok, ClientPlace values o position value j tok
  ledger : ∀ (position : Nat) (value : AnyAction) (j : Nat) (tok : Output),
    values[position]? = some value → (outputsAt value)[j]? = some (some tok) → keptAt value tok →
    (⟨s.txID, UInt64.ofNat (ledgerStart (planOf values) position + j)⟩, tok.serialize) ∈ (d.request s).stored

def ExtractedBy (tms : ManagementService) (r : Client.Request) (outputs : List Client.Output) : Prop :=
  (∃ failOnMissing walk, r.outputs tms failOnMissing = .ok walk ∧ outputs = walk.outputs) ∨
  (∃ failOnMissing verifyActions noOutputForRecipient walk,
    r.inputsAndOutputs tms failOnMissing verifyActions noOutputForRecipient = .ok walk ∧ outputs = walk.outputs.outputs)

def IndexesAgree (values : List AnyAction) : Prop :=
  ∀ (position : Nat) (value : AnyAction), values[position]? = some value →
    ∀ j < (outputsAt value).length, UInt64.ofNat (clientStart (planOf values) position (kindOf value) + j) =
      UInt64.ofNat (ledgerStart (planOf values) position + j)

def NoIssueAfterTransfer (values : List AnyAction) : Prop :=
  values.Pairwise fun first later => kindOf first = .transfer → kindOf later ≠ .issue

variable {i j : Nat} {values : List AnyAction}

theorem filter_map_position {α β : Type} (f : α → Option β) {items : List α} {found : β}
    (at_ : (items.filterMap f)[i]? = some found) : ∃ (position : Nat) (item : α), items[position]? = some item ∧
      f item = some found ∧ (items.filterMap f).take i = (items.take position).filterMap f := by
  induction items generalizing i with
  | nil => simp at at_
  | cons item tail ih =>
    cases here : f item with
    | none =>
      rw [filterMap_cons_none here] at at_
      obtain ⟨position, other, placed, same, before⟩ := ih at_
      refine ⟨position + 1, other, placed, same, ?_⟩
      rw [filterMap_cons_none here, take_succ_cons, filterMap_cons_none here, before]
    | some value =>
      rw [filterMap_cons_some here] at at_ ⊢
      cases i with
      | zero =>
        obtain rfl : value = found := by simpa using at_
        exact ⟨0, item, rfl, here, rfl⟩
      | succ i =>
        obtain ⟨position, other, placed, same, before⟩ := ih at_
        refine ⟨position + 1, other, placed, same, ?_⟩
        rw [take_succ_cons, take_succ_cons, filterMap_cons_some here, before]

section Views

variable {protobuf : Protobuf} {others : ManagementService} {limits : ResourceLimits} {entries : List TypedAction}
  {entry : TypedAction} {value : AnyAction} {view : ActionInterface}

theorem issue_view (here : DeserializedBy protobuf limits entry value) (kind : entry.type = .issue)
    (viewed : (clientService protobuf others).deserializeIssueAction entry.raw = .ok view) : viewAs .issue value = some view := by
  cases value with
  | transfer action => simp [here.1] at kind
  | issue action =>
    have decoded := here.2
    simp only [clientService, IssueAction.deserialize, ok_iff] at decoded viewed
    obtain ⟨message, found, _, _, _, _, _, _, rfl⟩ := decoded
    obtain ⟨_, ⟨message', found', _, _, _, _, _, _, rfl⟩, rfl⟩ := viewed
    obtain rfl := Except.ok.inj (found.symm.trans found')
    rfl

theorem transfer_view (here : DeserializedBy protobuf limits entry value) (kind : entry.type = .transfer)
    (viewed : (clientService protobuf others).deserializeTransferAction entry.raw = .ok view) :
    viewAs .transfer value = some view := by
  cases value with
  | issue action => simp [here.1] at kind
  | transfer action =>
    have decoded := here.2
    simp only [clientService, deserialize, ok_iff] at decoded viewed
    obtain ⟨message, found, _, _, _, _, _, _, _, _, rfl⟩ := decoded
    obtain ⟨_, ⟨message', found', _, _, _, _, _, _, _, _, rfl⟩, rfl⟩ := viewed
    obtain rfl := Except.ok.inj (found.symm.trans found')
    rfl

theorem kind_views {kind : ActionType} {decode : Bytes → Outcome ActionInterface} {views : List ActionInterface}
    (each : ∀ {entry value view}, DeserializedBy protobuf limits entry value → entry.type = kind →
      decode entry.raw = .ok view → viewAs kind value = some view)
    (read : List.Forall₂ (DeserializedBy protobuf limits) entries values)
    (viewed : List.Forall₂ (fun raw view => decode raw = .ok view) (rawsOf kind entries) views) :
    views = values.filterMap (viewAs kind) := by
  induction read generalizing views with
  | nil =>
    cases viewed
    rfl
  | @cons entry value entries values here rest ih =>
    by_cases same : entry.type = kind
    · rw [raws_of_cons_same same] at viewed
      obtain ⟨view, views, first, more, rfl⟩ := forall₂_cons_left_iff.mp viewed
      rw [filterMap_cons_some (each here same first), ih more]
    · rw [raws_of_cons_other same] at viewed
      have other : viewAs kind value = none := by
        cases value <;> simp [viewAs, ← here.1, Ne.symm same]
      rw [filterMap_cons_none other, ih viewed]

end Views

section Positions

variable {values : List AnyAction} {kind : ActionType}
  {value : AnyAction} {action : ActionInterface}

theorem view_as_some (viewed : viewAs kind value = some action) :
    kindOf value = kind ∧ action.outputs = (outputsAt value).map fun output => output.map Output.view := by
  cases value with
  | issue issue =>
    by_cases same : kind = .issue
    · rw [viewAs, if_pos same, Option.some.injEq] at viewed
      exact ⟨same.symm, viewed ▸ rfl⟩
    · simp [viewAs, same] at viewed
  | transfer transfer =>
    by_cases same : kind = .transfer
    · rw [viewAs, if_pos same, Option.some.injEq] at viewed
      exact ⟨same.symm, viewed ▸ rfl⟩
    · simp [viewAs, same] at viewed

theorem view_as_none (viewed : viewAs kind value = none) : kindOf value ≠ kind := by
  rintro rfl
  cases value <;> simp [viewAs, kindOf] at viewed

theorem views_total (values : List AnyAction) (kind : ActionType) :
    outputTotal (values.filterMap (viewAs kind)) = outputsOf kind (planOf values) ∧
      (values.filterMap (viewAs kind)).length = (values.filter fun value => kindOf value = kind).length := by
  induction values with
  | nil => exact ⟨rfl, rfl⟩
  | cons value tail ih =>
    cases viewed : viewAs kind value with
    | none =>
      have other := view_as_none viewed
      rw [filterMap_cons_none viewed, filter_cons_of_neg (by simpa using other)]
      refine ⟨?_, ih.2⟩
      rw [ih.1, planOf, planOf, map_cons, outputsOf, outputsOf, filter_cons_of_neg (by simpa using other)]
    | some action =>
      obtain ⟨same, outputs⟩ := view_as_some viewed
      rw [filterMap_cons_some viewed, filter_cons_of_pos (by simpa using same)]
      refine ⟨?_, by rw [length_cons, length_cons, ih.2]⟩
      have total := ih.1
      rw [outputTotal, planOf, outputsOf] at total
      rw [outputTotal, planOf, outputsOf, map_cons, map_cons, filter_cons_of_pos (by simpa using same),
        map_cons, sum_cons, sum_cons, total, outputs, length_map]

theorem extracted_position {output : Option OutputInterface} {o : Client.Output}
    (found : (values.filterMap (viewAs kind))[i]? = some action) (at_ : action.outputs[j]? = some output)
    (facts : Extracted kind i (UInt64.ofNat ((if kind = .issue then 0 else outputsOf .issue (planOf values)) +
      outputTotal ((values.filterMap (viewAs kind)).take i) + j)) output o) :
    ∃ position value j tok, ClientPlace values o position value j tok := by
  obtain ⟨position, value, placed, viewed, before⟩ := filter_map_position (viewAs kind) found
  obtain ⟨rfl, outputs⟩ := view_as_some viewed
  obtain ⟨total, count⟩ := views_total (values.take position) (kindOf value)
  obtain ⟨out, raw, rfl, serialized, shown⟩ := facts.ledger
  rw [outputs, getElem?_map, Option.map_eq_some_iff] at at_
  obtain ⟨source, listed, mapped⟩ := at_
  obtain ⟨tok, rfl, rfl⟩ := Option.map_eq_some_iff.mp mapped
  obtain rfl : tok.serialize = raw := Except.ok.inj serialized
  have bound := (List.getElem?_eq_some_iff.mp found).1
  refine ⟨position, value, j, tok, placed, listed, facts.kind, ?_, ?_, shown⟩
  · rw [facts.action, ← count, ← before, List.length_take]
    omega
  · rw [facts.index, before, total, clientStart, planOf, planOf, map_take]

theorem client_outputs_placed {protobuf : Protobuf} {others : ManagementService} {limits : ResourceLimits} {r : Client.Request}
    {outputs : List Client.Output} (read : List.Forall₂ (DeserializedBy protobuf limits) r.actions.actions values)
    (extracted : ExtractedBy (clientService protobuf others) r outputs) :
    ∀ o ∈ outputs, ∃ position value j tok, ClientPlace values o position value j tok := by
  obtain ⟨walk, issues, transfers, rfl, indexes⟩ : ∃ walk issues transfers, outputs = walk.outputs ∧
      ClientIndexes (clientService protobuf others) r walk issues transfers := by
    rcases extracted with ⟨_, walk, done, rfl⟩ | ⟨_, _, _, walk, done, rfl⟩
    · obtain ⟨issues, transfers, indexes⟩ := outputs_indexes done
      exact ⟨walk, issues, transfers, rfl, indexes⟩
    · obtain ⟨issues, transfers, indexes⟩ := inputs_and_outputs_indexes done
      exact ⟨walk.outputs, issues, transfers, rfl, indexes⟩
  have issuesAre := kind_views issue_view read (by simpa [rawsOf, TokenRequest.getIssues] using indexes.issuesRead)
  have transfersAre := kind_views transfer_view read (by simpa [rawsOf, TokenRequest.getTransfers] using indexes.transfersRead)
  intro o mem
  obtain ⟨i, action, j, output, at_, either⟩ := indexes.outputs o mem
  rcases either with ⟨found, facts⟩ | ⟨found, facts⟩
  · rw [issuesAre] at found facts
    exact extracted_position found at_ (by simpa using facts)
  · rw [issuesAre, transfersAre, (views_total values .issue).1] at facts
    rw [transfersAre] at found
    exact extracted_position found at_ facts

end Positions

section Ledger

variable {action : IssueAction} {value : AnyAction} {toks : List Output}

theorem translated_issue_outputs (present : action.outputs = toks.map some) :
    (toTranslator (.issue action)).outputs = (toks.map serialize).map Rws.issuedOutput := by
  simp [toTranslator, Rws.Action.outputs, IssueAction.toTranslator, issue_raws present]

theorem translated_count (present : outputsAt value = toks.map some) :
    (toTranslator value).outputs.length = (outputsAt value).length := by
  cases value with
  | issue action =>
    have listed : action.outputs = toks.map some := present
    rw [translated_issue_outputs listed, length_map, length_map, present, length_map]
  | transfer action => simp [toTranslator, Rws.Action.outputs, TransferAction.toTranslator, outputsAt]

theorem translated_kept (present : outputsAt value = toks.map some) {tok : Output} (at_ : (outputsAt value)[j]? = some (some tok))
    (kept : keptAt value tok) : ∃ output, (toTranslator value).outputs[j]? = some output ∧ output.kept = some tok.serialize := by
  cases value with
  | issue action =>
    have listed : action.outputs = toks.map some := present
    rw [present, getElem?_map, Option.map_eq_some_iff] at at_
    obtain ⟨_, found, same⟩ := at_
    obtain rfl := Option.some.inj same
    refine ⟨Rws.issuedOutput _, ?_, rfl⟩
    rw [translated_issue_outputs listed, getElem?_map, getElem?_map, found]
    rfl
  | transfer action =>
    have here : action.outputs[j]? = some (some tok) := at_
    have stays : tok.isRedeem = false := kept
    refine ⟨{ isRedeem := tok.isRedeem, serialized := .ok tok.serialize }, ?_, ?_⟩
    · simp [toTranslator, Rws.Action.outputs, TransferAction.toTranslator, here, TransferAction.translatorOutput]
    · simp only [Rws.TransferOutput.kept, stays, Bool.false_eq_true, if_false]
      rfl

end Ledger

theorem translated_total (present : ∀ value ∈ values, ∃ toks : List Output, toks ≠ [] ∧ outputsAt value = toks.map some) :
    Rws.outputCount (values.map toTranslator) = ((planOf values).map Prod.snd).sum := by
  rw [Rws.outputCount, planOf, map_map, map_map]
  congr 1
  refine map_congr_left fun value mem => ?_
  obtain ⟨toks, _, listed⟩ := present value mem
  exact translated_count listed

theorem output_indexes_agree_iff (d : Deployment) (lawful : d.protobuf.Lawful) (s : Submission) (values : List AnyAction)
    (attributes : ValidationAttributes) (accepted : d.verify s = .ok (values, attributes)) (others : ManagementService)
    (r : Client.Request) (sent : TokenRequest.fromBytes d.protobuf.tokenRequest s.raw = .ok r.actions)
    (outputs : List Client.Output) (extracted : ExtractedBy (clientService d.protobuf others) r outputs) :
    (IndexesAgree values ↔ NoIssueAfterTransfer values) ∧ OutputIndexes d s values outputs ∧
    (NoIssueAfterTransfer values → ∀ o ∈ outputs, ∃ (value : AnyAction) (tok : Output),
      value ∈ values ∧ some tok ∈ outputsAt value ∧ Shows o tok ∧
      (keptAt value tok → (o.id s.txID, tok.serialize) ∈ (d.request s).stored)) := by
  have verified := verify_verified lawful accepted
  obtain ⟨request, message, all⟩ := verify_read accepted
  have read := read_entries all
  obtain rfl : request = r.actions := Except.ok.inj (all.parsed.symm.trans sent)
  have present : ∀ value ∈ values, ∃ toks : List Output, toks ≠ [] ∧ outputsAt value = toks.map some := by
    intro value mem
    obtain ⟨_, _, moves, _⟩ := verified.moves value mem
    exact moves.present
  have actions : d.actions s = values := by simp [Deployment.actions, accepted]
  have agree : IndexesAgree values ↔ NoIssueAfterTransfer values := by
    have known : (planOf values).Known := by
      constructor
      · intro entry mem
        obtain ⟨value, _, rfl⟩ := mem_map.mp mem
        cases value with
        | issue action => exact .inl rfl
        | transfer action => exact .inr rfl
      · intro entry mem
        obtain ⟨value, found, rfl⟩ := mem_map.mp mem
        obtain ⟨toks, nonempty, listed⟩ := present value found
        rw [listed, length_map]
        exact length_pos_iff.mpr nonempty
    have general := indexes_agree_iff known (translated_total present ▸ verified.count)
    have ordered : (planOf values).IssuesFirst ↔ NoIssueAfterTransfer values := pairwise_map
    rw [← ordered, ← general]
    constructor
    · intro same position kind count found
      rw [planOf, getElem?_map, Option.map_eq_some_iff] at found
      obtain ⟨value, here, equal⟩ := found
      obtain ⟨rfl, rfl⟩ := Prod.mk.inj equal
      exact same position value here
    · intro same position value here
      refine same position (kindOf value) (outputsAt value).length ?_
      rw [planOf, getElem?_map, here, Option.map_some]
  have indexes : OutputIndexes d s values outputs := by
    refine ⟨client_outputs_placed read extracted, ?_⟩
    intro position value j tok here at_ kept
    obtain ⟨toks, _, listed⟩ := present value (mem_of_getElem? here)
    obtain ⟨output, translated, stays⟩ := translated_kept listed at_ kept
    have placed : (values.map toTranslator)[position]? = some (toTranslator value) := by
      rw [getElem?_map, here, Option.map_some]
    have start : Rws.outputCount ((values.map toTranslator).take position) = ledgerStart (planOf values) position := by
      rw [← map_take, translated_total fun other mem => present other (mem_of_mem_take mem), ledgerStart, planOf, planOf,
        map_take]
    rw [Deployment.request, actions]
    refine Rws.mem_stored_from_iff.mpr ⟨position, _, j, output, placed, translated, stays, ?_⟩
    rw [start, UInt64.zero_add]
  refine ⟨agree, indexes, fun ordered o mem => ?_⟩
  obtain ⟨position, value, j, tok, here, at_, _, _, index, shows⟩ := indexes.client o mem
  refine ⟨value, tok, List.mem_of_getElem? here, List.mem_of_getElem? at_, shows, fun kept => ?_⟩
  have same := agree.mpr ordered position value here j (List.getElem?_eq_some_iff.mp at_).1
  rw [Client.Output.id, index, same]
  exact indexes.ledger position value j tok here at_ kept

namespace Mixed

open IssueAndRedeem

def issueFirstRequest : Driver.Proto.TokenRequest := signed [issueEntry, spendEntry] [2, 1]
def transferFirstRequest : Driver.Proto.TokenRequest := signed [spendEntry, issueEntry] [1, 2]

def mixed : Deployment := deploymentOf [issueFirstRequest, transferFirstRequest]

def issueFirst : Submission := { txID := spendTx, raw := issueFirstRequest.octets, clock := RedeemAndIssue.clock }
def transferFirst : Submission := { txID := spendTx, raw := transferFirstRequest.octets, clock := RedeemAndIssue.clock }

def issueValue : AnyAction :=
  .issue { issuer := [7], outputs := [some (fromProto (token owner 0x35))], metadata := [] }

def transferValue : AnyAction :=
  .transfer
    { inputs := [some { id := some ⟨issueTx, 0⟩, input := some (fromProto (token owner 0x35)) }]
      outputs := [some (fromProto (token owner 0x33)), some (fromProto (token [] 0x32))]
      metadata := []
      issuer := none }

-- Deobfuscation is the identity on these tokens; the metadata of an issued output is its issuer.
def services : ManagementService :=
  { uniqueID := fun _ => ""
    precision := 64
    deserializeIssueAction := fun _ => .error ""
    deserializeTransferAction := fun _ => .error ""
    verifyIssue := fun _ _ => .ok ()
    verifyTransfer := fun _ _ => .ok ()
    deobfuscate := fun _ metadata => .ok
      { tok := { owner, type := [0x54], quantity := [0x33] }, issuer := metadata, recipients := [owner], format := [] }
    getEIDAndRH := fun _ _ => .ok ([], []) }

def issueMetadata : IssueMetadata :=
  { issuer := { identity := [7], auditInfo := [] }
    inputs := []
    outputs := [some { outputMetadata := [7], outputAuditInfo := [], receivers := [some { identity := owner, auditInfo := [] }] }]
    extraSigners := [] }

def transferMetadata : TransferMetadata :=
  { inputs := [some { tokenID := some ⟨issueTx, 0⟩, senders := [some { identity := owner, auditInfo := [] }] }]
    outputs := [none, none]
    extraSigners := []
    issuer := { identity := none, auditInfo := [] } }

def issueMetadataEntry (actionID : UInt32) : ActionMetadataEntry :=
  { actionID, issueMetadata := some issueMetadata, transferMetadata := none }

def transferMetadataEntry (actionID : UInt32) : ActionMetadataEntry :=
  { actionID, issueMetadata := none, transferMetadata := some transferMetadata }

def signature (actionID : UInt32) (key : UInt8) : RequestSignature :=
  { action := some { actionID, signature := [key] }, auditor := none }

def sentIssueFirst : Client.Request :=
  { anchor := spendTx
    actions :=
      { version := 1
        actions := [⟨.issue, issue.octets⟩, ⟨.transfer, spend.octets⟩]
        signatures := [signature 0 2, signature 1 1] }
    metadata := { actions := [issueMetadataEntry 0, transferMetadataEntry 1], application := [] } }

def sentTransferFirst : Client.Request :=
  { anchor := spendTx
    actions :=
      { version := 1
        actions := [⟨.transfer, spend.octets⟩, ⟨.issue, issue.octets⟩]
        signatures := [signature 0 1, signature 1 2] }
    metadata := { actions := [transferMetadataEntry 0, issueMetadataEntry 1], application := [] } }

def recorded : Client.Output :=
  { tok := { owner, type := [0x54], quantity := [0x33] }
    actionType := .issue
    actionIndex := 0
    index := 0
    owner
    ownerAuditInfo := []
    enrollmentID := []
    revocationHandler := []
    type := [0x54]
    quantity := .uint64 3
    ledgerOutput := (fromProto (token owner 0x35)).serialize
    ledgerOutputFormat := []
    ledgerOutputMetadata := [7]
    issuer := [7] }

theorem verified_values {s : Submission}
    (computed : (mixed.verify s).map Prod.fst = .ok values) : ∃ attributes, mixed.verify s = .ok (values, attributes) := by
  obtain ⟨⟨_, attributes⟩, verified, rfl⟩ := map_ok_iff.mp computed
  exact ⟨attributes, verified⟩

theorem issue_first_agrees : NoIssueAfterTransfer [issueValue, transferValue] ∧ IndexesAgree [issueValue, transferValue] := by
  have ordered : NoIssueAfterTransfer [issueValue, transferValue] := by
    unfold NoIssueAfterTransfer
    decide
  obtain ⟨attributes, verified⟩ : ∃ attributes, mixed.verify issueFirst = .ok ([issueValue, transferValue], attributes) :=
    verified_values (by decide +kernel)
  have extracted : ExtractedBy (clientService mixed.protobuf services) sentIssueFirst [recorded] :=
    .inl ⟨false, { outputs := [recorded], counter := 3 }, rfl, rfl⟩
  exact ⟨ordered, (output_indexes_agree_iff mixed (deployment_lawful _) issueFirst [issueValue, transferValue] attributes
    verified services sentIssueFirst (by decide +kernel) [recorded] extracted).1.mpr ordered⟩

-- The transfer has the outputs 0 and 1 on the ledger and the issue the output 2; the client records the issued token as 0.
theorem transfer_first_disagrees :
    (∃ attributes, mixed.verify transferFirst = .ok ([transferValue, issueValue], attributes)) ∧
    TokenRequest.fromBytes mixed.protobuf.tokenRequest transferFirst.raw = .ok sentTransferFirst.actions ∧
    ExtractedBy (clientService mixed.protobuf services) sentTransferFirst [recorded] ∧ recorded.id spendTx = ⟨spendTx, 0⟩ ∧
    (⟨spendTx, 2⟩, recorded.ledgerOutput) ∈ (mixed.request transferFirst).stored ∧
    (recorded.id spendTx, recorded.ledgerOutput) ∉ (mixed.request transferFirst).stored := by
  refine ⟨verified_values (by decide +kernel), by decide +kernel,
    .inl ⟨false, { outputs := [recorded], counter := 3 }, rfl, rfl⟩, rfl, ?_, ?_⟩
  · decide +kernel
  · decide +kernel

end Mixed

end Panurus.Fabtoken
