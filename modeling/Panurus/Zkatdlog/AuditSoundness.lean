import Mathlib.Algebra.Field.ZMod
import Mathlib.Algebra.Module.Prod
import Panurus.Lib.Pointwise
import Panurus.Zkatdlog.Auditor

namespace Panurus.Zkatdlog

open List Lib Outcome Pointwise Text Core Driver Panurus.Token

def ReceiverKnown (matcher : InfoMatcher) (receiver : Option AuditableIdentity) (recipient : Identity) : Prop :=
  ∃ named, receiver = some named ∧ named.identity = recipient ∧ matcher.matchIdentity recipient named.auditInfo = .ok ()

structure OwnerKnown (matcher : InfoMatcher) (owner : Identity) (metadata : OutputMetadata) : Prop where
  matched : matcher.matchIdentity owner metadata.outputAuditInfo = .ok ()
  receivers : ∃ recipients, matcher.recipients owner = .ok recipients ∧
    Forall₂ (ReceiverKnown matcher) metadata.receivers recipients

variable {matcher : InfoMatcher} {index i : Nat} {described : OutputMetadata}

theorem inspect_identity_ok {identity : InspectableIdentity} (inspected : inspectIdentity matcher identity index = .ok ()) :
    identity.identity ≠ [] ∧ matcher.matchIdentity identity.identity identity.auditInfo = .ok () := by
  simp only [inspectIdentity, ok_iff] at inspected
  obtain ⟨_, there, _, _, _, _, matched⟩ := inspected
  exact ⟨there, matched⟩

theorem validate_output_receivers_ok {owner : Identity} {receivers : List (Option AuditableIdentity)} {requireNonEmpty : Bool}
    (valid : validateOutputReceivers matcher owner receivers index requireNonEmpty = .ok ()) :
    ∃ recipients, matcher.recipients owner = .ok recipients ∧ Forall₂ (ReceiverKnown matcher) receivers recipients := by
  simp only [validateOutputReceivers, ok_iff] at valid
  obtain ⟨recipients, extracted, _, _, _, lengths, each⟩ := valid
  refine ⟨recipients, extracted, forall₂_iff_get.mpr ⟨lengths, fun j bound bound' => ?_⟩⟩
  have here := check_each_ok_iff.mp each j (receivers[j], recipients[j])
    (getElem?_zip_eq_some.mpr ⟨getElem?_eq_getElem bound, getElem?_eq_getElem bound'⟩)
  simp only [ok_iff] at here
  obtain ⟨named, present, _, same, inspected⟩ := here
  obtain ⟨there, matched⟩ := inspect_identity_ok inspected
  -- Neither form of the comparison lets a name through that is there and differs.
  have equal : named.identity = recipients[j] := by
    cases requireNonEmpty with
    | true =>
      simp only [if_true, ensure_ok_iff, not_or, not_not] at same
      exact same.2.symm
    | false =>
      simp only [Bool.false_eq_true, if_false, ensure_ok_iff, not_and, not_not] at same
      exact (same there).symm
  refine ⟨named, present, equal, ?_⟩
  rw [get_eq_getElem, ← equal]
  exact matched

theorem open_metadata_ok_iff {metadata : List (Option OutputMetadata)} :
    openMetadata metadata i = .ok described ↔ metadata[i]? = some (some described) := by
  simp [openMetadata, ok_iff]

theorem token_metadata_ok {F G : Type} {codec : AuditCodec F G} {checkIssuer : Bool} {opening : TokenMetadata F}
    (read : tokenMetadataOf codec checkIssuer described i = .ok opening) :
    codec.deserializeMetadata described.outputMetadata = .ok opening := by
  simp only [tokenMetadataOf, ok_iff] at read
  obtain ⟨_, decoded, _, _, rfl⟩ := read
  exact decoded

section Inputs

variable {F G : Type} {params : AuditParams F G}

def InputKnown (matcher : InfoMatcher) (auditTokens : AuditTokens) (input : Option (ActionInput F G))
    (metadata : Option TransferInputMetadata) : Prop :=
  ∃ spent token id described sender recorded, input = some spent ∧ spent.token = some token ∧ spent.id = some id ∧
    metadata = some described ∧ described.tokenID = some id ∧ auditTokens.lookup id.text = some (some recorded) ∧
    described.senders = [some sender] ∧ sender.identity = token.owner ∧
    matcher.matchIdentity token.owner sender.auditInfo = .ok ()

theorem validate_input_owned {input : ActionInput F G} {token : Token G}
    (valid : validateInput index (some input) = .ok ()) (found : input.token = some token) : token.owner ≠ [] := by
  simp only [validateInput, Token.validate, ok_iff, Option.some.injEq, exists_eq_left', true_and] at valid
  obtain ⟨_, _, _, _, other, present, _, ⟨_, owned, _⟩, _⟩ := valid
  obtain rfl := Option.some.inj (found.symm.trans present)
  exact owned

theorem validate_transfer_inputs_ok {action : Action F G} {metadata : List (Option TransferInputMetadata)}
    {auditTokens : AuditTokens} {tokens : List Client.Token} (lengths : action.inputs.length = metadata.length)
    (wellFormed : action.validate defaultLimits = .ok ()) (valid : validateTransferInputs params action.inputs metadata = .ok ())
    (recorded : Forall₂ (Recorded auditTokens) metadata tokens) :
    Forall₂ (InputKnown params.infoMatcher auditTokens) action.inputs metadata := by
  refine forall₂_of_positions lengths fun i input found other found' => ?_
  have here := check_each_ok_iff.mp valid i input found
  simp only [Nat.zero_add, ok_iff] at here
  obtain ⟨spent, rfl, token, carried, id, named, _, placed, described, rfl, _, one, sender, first, _, same, _, ids, inspected⟩ :=
    here
  obtain rfl := Option.some.inj (found'.symm.trans placed)
  obtain ⟨bound, at_⟩ := List.getElem?_eq_some_iff.mp found'
  obtain ⟨metadata', id', there, given, onRecord⟩ := recorded.get bound (recorded.length_eq ▸ bound)
  obtain rfl : described = metadata' := Option.some.inj (at_.symm.trans there)
  obtain rfl : id' = id := ids id' given
  have owned : token.owner ≠ [] := by
    simp only [Action.validate, ok_iff] at wellFormed
    obtain ⟨_, _, _, _, _, inputs, _⟩ := wellFormed
    exact validate_input_owned (check_each_ok_iff.mp inputs i _ found) carried
  rw [if_pos owned, wrap_ok_iff] at inspected
  have senders : described.senders = [some sender] := by
    obtain ⟨only, senders⟩ := length_eq_one_iff.mp one
    rw [senders] at first ⊢
    simpa using first
  exact ⟨spent, token, id', described, sender, _, rfl, carried, named, rfl, given, onRecord, senders, same,
    (inspect_identity_ok inspected).2⟩

end Inputs

section Openings

variable {F G : Type} [Field F] [AddCommGroup G] [Module F G] {params : AuditParams F G} {codec : AuditCodec F G}

def Commits (params : AuditParams F G) (token : Token G) (opening : TokenMetadata F) : Prop :=
  ∃ (g h k : G) (value blinding : F),
    params.pedersenParams[0]? = some (some ⟨params.curveID, g⟩) ∧
    params.pedersenParams[1]? = some (some ⟨params.curveID, h⟩) ∧
    params.pedersenParams[2]? = some (some ⟨params.curveID, k⟩) ∧
    opening.value = some ⟨params.curveID, value⟩ ∧ opening.blindingFactor = some ⟨params.curveID, blinding⟩ ∧
    token.data = some ⟨params.curveID, params.curve.hashToZr opening.type • g + value • h + blinding • k⟩

theorem audit_commit_ok {curveID : CurveID} {type : F} {value blinding : Option (Element F)} {generators : Elements G}
    {com : Element G} (computed : auditCommit curveID [some ⟨curveID, type⟩, value, blinding] generators = .ok com) :
    ∃ (g h k : G) (v b : F), generators[0]? = some (some ⟨curveID, g⟩) ∧ generators[1]? = some (some ⟨curveID, h⟩) ∧
      generators[2]? = some (some ⟨curveID, k⟩) ∧ value = some ⟨curveID, v⟩ ∧ blinding = some ⟨curveID, b⟩ ∧
      com = ⟨curveID, type • g + v • h + b • k⟩ := by
  simp only [auditCommit, foldEach, ok_iff, operand_ok_iff, zero_add, Except.ok.injEq] at computed
  obtain ⟨_, ⟨_, ⟨_, first, g, rfl, _, typed, rfl⟩, _, ⟨_, second, h, rfl, v, valued, rfl⟩, _,
    ⟨_, third, k, rfl, b, blinded, rfl⟩, rfl⟩, rfl⟩ := computed
  obtain ⟨_, rfl⟩ := Element.mk.inj (Option.some.inj typed)
  exact ⟨g, h, k, v, b, first, second, third, valued, blinded, rfl⟩

variable [DecidableEq G] {outputs : List (Option (Token G))}

theorem inspect_output_ok {output : InspectableToken F G} (inspected : inspectOutput params output index = .ok ()) :
    (∃ com, auditCommit params.curveID [some ⟨params.curveID, params.curve.hashToZr output.data.tokenType⟩, output.data.value,
      output.data.bf] params.pedersenParams = .ok com ∧ output.data.data = some com) ∧ (output.identity.identity ≠ [] →
      params.infoMatcher.matchIdentity output.identity.identity output.identity.auditInfo = .ok ()) := by
  simp only [inspectOutput, ok_iff, operand_ok_iff] at inspected
  obtain ⟨_, _, com, computed, data, found, _, same, owner⟩ := inspected
  refine ⟨⟨com, computed, by rw [found, ← same]⟩, fun there => ?_⟩
  rw [if_pos there, wrap_ok_iff] at owner
  exact (inspect_identity_ok owner).2

theorem inspected_commits {output : Token G} {metadata : OutputMetadata} {opening : TokenMetadata F}
    (inspected : inspectOutput params (inspectable output metadata opening) index = .ok ()) :
    Commits params output opening ∧
      (output.owner ≠ [] → params.infoMatcher.matchIdentity output.owner metadata.outputAuditInfo = .ok ()) := by
  obtain ⟨⟨com, computed, found⟩, owner⟩ := inspect_output_ok inspected
  obtain ⟨g, h, k, v, b, first, second, third, valued, blinded, rfl⟩ := audit_commit_ok computed
  exact ⟨⟨g, h, k, v, b, first, second, third, valued, blinded, found⟩, owner⟩

def OutputKnown (params : AuditParams F G) (codec : AuditCodec F G) (output : Option (Token G)) (metadata : Option OutputMetadata) :
    Prop :=
  ∃ token described opening, output = some token ∧ metadata = some described ∧
    codec.deserializeMetadata described.outputMetadata = .ok opening ∧ Commits params token opening ∧
    (token.owner ≠ [] → OwnerKnown params.infoMatcher token.owner described)

section

variable {metadata : List (Option OutputMetadata)} (lengths : outputs.length = metadata.length)

include lengths

theorem validate_issue_outputs_ok (valid : validateIssueOutputs params codec outputs metadata = .ok ()) :
    Forall₂ (OutputKnown params codec) outputs metadata := by
  refine forall₂_of_positions lengths fun i output found other found' => ?_
  have here := check_each_ok_iff.mp valid i output found
  simp only [Nat.zero_add, ok_iff, open_metadata_ok_iff] at here
  obtain ⟨token, rfl, described, opened, _, _, opening, read, _, inspected, receivers⟩ := here
  obtain rfl : other = some described := Option.some.inj (found'.symm.trans opened)
  obtain ⟨commits, owner⟩ := inspected_commits inspected
  exact ⟨token, described, opening, rfl, rfl, token_metadata_ok read, commits,
    fun there => ⟨owner there, validate_output_receivers_ok receivers⟩⟩

theorem validate_transfer_outputs_ok (valid : validateTransferOutputs params codec outputs metadata = .ok ()) :
    Forall₂ (OutputKnown params codec) outputs metadata := by
  refine forall₂_of_positions lengths fun i output found other found' => ?_
  have here := check_each_ok_iff.mp valid i output found
  simp only [Nat.zero_add, ok_iff, open_metadata_ok_iff] at here
  obtain ⟨token, rfl, described, opened, _, receivers, opening, read, inspected⟩ := here
  obtain rfl : other = some described := Option.some.inj (found'.symm.trans opened)
  obtain ⟨commits, owner⟩ := inspected_commits inspected
  refine ⟨token, described, opening, rfl, rfl, token_metadata_ok read, commits, fun there => ⟨owner there, ?_⟩⟩
  have owned : token.isRedeem = false := by simpa [Token.isRedeem] using there
  simp only [owned, Bool.false_eq_true, if_false] at receivers
  exact validate_output_receivers_ok receivers

end

end Openings

section Check

variable {F G : Type} [Field F] [AddCommGroup G] [Module F G] [DecidableEq G] {params : AuditParams F G}
  {codec : AuditCodec F G} {entry : ActionMetadataEntry}

def ActionKnown (params : AuditParams F G) (codec : AuditCodec F G) (auditTokens : AuditTokens) (action : TypedAction)
    (entry : ActionMetadataEntry) : Prop :=
  (action.type = .issue ∧ ∃ issue metadata, codec.deserializeIssue action.raw = .ok issue ∧
    entry.issueMetadata = some metadata ∧ entry.transferMetadata = none ∧
    Forall₂ (OutputKnown params codec) issue.outputs metadata.outputs) ∨
  (action.type = .transfer ∧ ∃ transfer metadata, codec.deserializeTransfer action.raw = .ok transfer ∧
    entry.transferMetadata = some metadata ∧ entry.issueMetadata = none ∧
    Forall₂ (OutputKnown params codec) transfer.outputs metadata.outputs ∧
    Forall₂ (InputKnown params.infoMatcher auditTokens) transfer.inputs metadata.inputs)

theorem new_auditor_reads : (newAuditor params codec).Reads (fun raw issue => codec.deserializeIssue raw = .ok issue)
    (fun raw transfer => codec.deserializeTransfer raw = .ok transfer) := by
  intro request issues transfers read
  simp only [newAuditor, deserializeActions, ok_iff, Prod.mk.injEq] at read
  obtain ⟨_, issuesRead, _, transfersRead, rfl, rfl⟩ := read
  exact ⟨mapM_ok_iff.mp issuesRead, mapM_ok_iff.mp transfersRead⟩

theorem issue_audit_validate_ok {ctx : AuditContext (AuditParams F G) (IssueAction G)}
    (found : ctx.tokenRequestMetadata.actions[ctx.actionIndex]? = some entry)
    (valid : issueAuditValidate params codec ctx = .ok ()) :
    ∃ metadata, entry.issueMetadata = some metadata ∧ Forall₂ (OutputKnown params codec) ctx.action.outputs metadata.outputs := by
  simp only [issueAuditValidate, entryAt, ok_iff] at valid
  obtain ⟨_, placed, metadata, present, _, matched, _, _, _, outputs, _⟩ := valid
  obtain rfl := Option.some.inj (found.symm.trans placed)
  simp only [IssueMetadata.matchAction, ok_iff] at matched
  obtain ⟨_, _, _, _, _, lengths, _⟩ := matched
  exact ⟨metadata, present, validate_issue_outputs_ok (by simpa [IssueAction.view] using lengths.symm) outputs⟩

structure TransferChecked (params : AuditParams F G) (codec : AuditCodec F G) (auditTokens : AuditTokens) (transfer : Action F G)
    (metadata : TransferMetadata) : Prop where
  wellFormed : transfer.validate defaultLimits = .ok ()
  outputs : Forall₂ (OutputKnown params codec) transfer.outputs metadata.outputs
  inputs : Forall₂ (InputKnown params.infoMatcher auditTokens) transfer.inputs metadata.inputs
  totalled : ∃ tokens quantities, Totalled auditTokens params.precision metadata.inputs tokens quantities

theorem transfer_audit_validate_ok {ctx : AuditContext (AuditParams F G) (Action F G)}
    (found : ctx.tokenRequestMetadata.actions[ctx.actionIndex]? = some entry)
    (valid : transferAuditValidate params codec ctx = .ok ()) :
    ∃ metadata, entry.transferMetadata = some metadata ∧ TransferChecked params codec ctx.auditTokens ctx.action metadata := by
  simp only [transferAuditValidate, entryAt, validateTransferActionTokenTypes, ok_iff] at valid
  obtain ⟨_, placed, metadata, present, _, matched, _, inputs, _, outputs, _, ⟨_, _, total, totalled, _⟩, _⟩ := valid
  obtain rfl := Option.some.inj (found.symm.trans placed)
  simp only [TransferMetadata.matchAction, ok_iff] at matched
  obtain ⟨_, wellFormed, _, counted, _, lengths, _⟩ := matched
  obtain ⟨tokens, quantities, totals⟩ := input_total_ok totalled
  exact ⟨metadata, present, wellFormed, validate_transfer_outputs_ok (by simpa [Action.view] using lengths.symm) outputs,
    validate_transfer_inputs_ok counted.symm wellFormed inputs totals.recorded, tokens, quantities, totals⟩

theorem audit_sees_truth (params : AuditParams F G) (codec : AuditCodec F G) (request : TokenRequest)
    (metadata : TokenRequestMetadata) (txID : Bytes) (auditTokens : AuditTokens)
    (accepted : (newAuditor params codec).check (some request) (some metadata) txID (some auditTokens) = .ok ()) :
    Forall₂ (ActionKnown params codec auditTokens) request.actions metadata.actions := by
  have checked := check_ok new_auditor_reads accepted
  refine forall₂_iff_get.mpr ⟨checked.count, fun i bound bound' => ?_⟩
  have found : request.actions[i]? = some request.actions[i] := getElem?_eq_getElem bound
  have found' : metadata.actions[i]? = some metadata.actions[i] := getElem?_eq_getElem bound'
  obtain ⟨_, kinds⟩ := validate_action_structure_ok (checked.entries i _ _ found found')
  rcases checked.actions i _ found with ⟨kind, issue, read, passed⟩ | ⟨kind, transfer, read, passed⟩
  · have valid := check_each_mem.mp passed _ (mem_singleton.mpr rfl)
    obtain ⟨described, present, outputs⟩ := issue_audit_validate_ok found' valid
    rcases kinds with ⟨_, _, none⟩ | ⟨other, _⟩
    · exact .inl ⟨kind, issue, described, read, present, none, outputs⟩
    · rw [kind] at other
      cases other
  · have valid := check_each_mem.mp passed _ (mem_singleton.mpr rfl)
    obtain ⟨described, present, known⟩ := transfer_audit_validate_ok found' valid
    rcases kinds with ⟨other, _⟩ | ⟨_, _, none⟩
    · rw [kind] at other
      cases other
    · exact .inr ⟨kind, transfer, described, read, present, none, known.outputs, known.inputs⟩

end Check

-- A token issued to one owner and one passed on to another, over the field of two elements.
namespace Audited

abbrev Scalar : Type := ZMod 2
abbrev Point : Type := Scalar × Scalar × Scalar

def gold : Bytes := ascii "gold"

def curve : Curve Scalar Point := { hashToZr := fun type => if type = gold then 1 else 0, bytes := fun _ => [] }

def point (type value blinding : Scalar) : Option (Element Point) := some ⟨0, (type, value, blinding)⟩

def params : AuditParams Scalar Point :=
  { infoMatcher := { matchIdentity := fun _ _ => .ok (), recipients := fun owner => .ok [owner] }
    pedersenParams := [point 1 0 0, point 0 1 0, point 0 0 1]
    curveID := 0
    curve
    precision := 64
    issuers := [[9]] }

def id : Rws.TokenID := { txId := ascii "tx", index := 0 }

def issue : IssueAction Point :=
  { issuer := [9]
    inputs := []
    outputs := [some { owner := [1], data := point 1 1 0 }]
    proofType := .rangeProofType
    proof := [1]
    metadata := [] }

def transfer (type value : Scalar) : Action Scalar Point :=
  { inputs := [some { id := some id, token := some { owner := [1], data := point 1 1 0 }, upgradeWitness := none }]
    outputs := [some { owner := [2], data := point type value 1 }]
    proofType := .rangeProofType
    proof := [1]
    metadata := []
    issuer := none }

def codec (type : Bytes) (value : Scalar) : AuditCodec Scalar Point :=
  { deserializeIssue := fun _ => .ok issue
    deserializeTransfer := fun _ => .ok (transfer (curve.hashToZr type) value)
    deserializeMetadata := fun raw =>
      if raw = [1] then .ok { type := gold, value := some ⟨0, 1⟩, blindingFactor := some ⟨0, 0⟩, issuer := [9] }
      else .ok { type, value := some ⟨0, value⟩, blindingFactor := some ⟨0, 1⟩, issuer := [] }
    serialize := fun _ => .ok []
    identityText := fun _ => "" }

def output (owner : UInt8) : OutputMetadata :=
  { outputMetadata := [owner], outputAuditInfo := [owner], receivers := [some { identity := [owner], auditInfo := [owner] }] }

def request : TokenRequest :=
  { version := 1, actions := [{ type := .transfer, raw := [2] }, { type := .issue, raw := [1] }], signatures := [] }

def transferMetadata : TransferMetadata :=
  { inputs := [some { tokenID := some id, senders := [some { identity := [1], auditInfo := [1] }] }]
    outputs := [some (output 2)]
    extraSigners := []
    issuer := { identity := none, auditInfo := [] } }

def metadata : TokenRequestMetadata :=
  { actions :=
      [{ actionID := 0, issueMetadata := none, transferMetadata := some transferMetadata },
        { actionID := 1
          issueMetadata := some
            { issuer := { identity := [9], auditInfo := [9] }, inputs := [], outputs := [some (output 1)], extraSigners := [] }
          transferMetadata := none }]
    application := [] }

def auditTokens : AuditTokens := [(id.text, some { owner := [1], type := gold, quantity := ascii "0x1" })]

theorem issue_and_transfer_known : Forall₂ (ActionKnown params (codec gold 1) auditTokens) request.actions metadata.actions :=
  audit_sees_truth params (codec gold 1) request metadata (ascii "tx") auditTokens (by decide +kernel)

end Audited

section Openings

variable {F G : Type} {params : AuditParams F G} {codec : AuditCodec F G}

def Opens (codec : AuditCodec F G) (metadata : Option OutputMetadata) (opening : TokenMetadata F) : Prop :=
  ∃ described, metadata = some described ∧ codec.deserializeMetadata described.outputMetadata = .ok opening

def openedValue (valueOf : F → Nat) (opening : TokenMetadata F) : Nat :=
  (opening.value.map fun value => valueOf value.value).getD 0

def openedSum (valueOf : F → Nat) (openings : List (TokenMetadata F)) : Nat :=
  (openings.map (openedValue valueOf)).sum

structure Conserves (valueOf : F → Nat) (tokens : List Client.Token) (quantities : List Quantity)
    (openings : List (TokenMetadata F)) : Prop where
  types : ∀ opening ∈ openings, ∀ token ∈ tokens, opening.type = token.type
  sum : openedSum valueOf openings = (quantities.map Quantity.toNat).sum

structure AuditedTransfer (params : AuditParams F G) (codec : AuditCodec F G) (auditTokens : AuditTokens)
    (metadata : TransferMetadata) (tokens : List Client.Token) (quantities : List Quantity) (openings : List (TokenMetadata F)) :
    Prop where
  inputs : Totalled auditTokens params.precision metadata.inputs tokens quantities
  outputs : Forall₂ (Opens codec) metadata.outputs openings

def RequestConserves (params : AuditParams F G) (codec : AuditCodec F G) (valueOf : F → Nat) (request : TokenRequest)
    (metadata : TokenRequestMetadata) (auditTokens : AuditTokens) : Prop :=
  ∀ (i : Nat) action entry described tokens quantities openings, request.actions[i]? = some action →
    action.type = .transfer → metadata.actions[i]? = some entry → entry.transferMetadata = some described →
    AuditedTransfer params codec auditTokens described tokens quantities openings → Conserves valueOf tokens quantities openings

theorem audited_retyped {auditTokens : AuditTokens} {metadata : TransferMetadata} {tokens : List Client.Token}
    {quantities : List Quantity} {openings : List (TokenMetadata F)} (type : Bytes)
    (audited : AuditedTransfer params codec auditTokens metadata tokens quantities openings) :
    AuditedTransfer params codec (retyped type auditTokens) metadata (tokens.map fun token => { token with type }) quantities
      openings := by
  refine ⟨⟨forall₂_map_right_iff.mpr (audited.inputs.recorded.imp ?_), forall₂_map_left_iff.mpr audited.inputs.converted⟩,
    audited.outputs⟩
  rintro input token ⟨described, id, rfl, named, found⟩
  refine ⟨described, id, rfl, named, ?_⟩
  rw [lookup_retyped, found]
  rfl

end Openings

section Check

variable {F G : Type} [Field F] [AddCommGroup G] [Module F G] {params : AuditParams F G} {codec : AuditCodec F G}

theorem known_outputs_open {outputs : List (Option (Token G))} {metadata : List (Option OutputMetadata)}
    (known : Forall₂ (OutputKnown params codec) outputs metadata) : ∃ openings, Forall₂ (Opens codec) metadata openings := by
  induction known with
  | nil => exact ⟨[], .nil⟩
  | cons here _ ih =>
    obtain ⟨_, described, opening, _, named, read, _⟩ := here
    obtain ⟨openings, others⟩ := ih
    exact ⟨opening :: openings, .cons ⟨described, named, read⟩ others⟩

theorem transfer_checked_audited {auditTokens : AuditTokens} {transfer : Action F G} {metadata : TransferMetadata}
    (checked : TransferChecked params codec auditTokens transfer metadata) : ∃ tokens quantities openings,
      AuditedTransfer params codec auditTokens metadata tokens quantities openings ∧ tokens ≠ [] ∧ openings ≠ [] := by
  obtain ⟨tokens, quantities, totalled⟩ := checked.totalled
  obtain ⟨openings, opened⟩ := known_outputs_open checked.outputs
  have wellFormed := checked.wellFormed
  simp only [Action.validate, ok_iff] at wellFormed
  obtain ⟨_, inputs, _, _, _, _, _, outputs, _⟩ := wellFormed
  refine ⟨tokens, quantities, openings, ⟨totalled, opened⟩, ?_, ?_⟩
  · exact forall₂_ne_nil totalled.recorded (forall₂_ne_nil checked.inputs inputs)
  · exact forall₂_ne_nil opened (forall₂_ne_nil checked.outputs outputs)

variable [DecidableEq G]

theorem check_retyped {request : TokenRequest} {metadata : TokenRequestMetadata} {txID type : Bytes} {auditTokens : AuditTokens}
    (typed : type ≠ [])
    (accepted : (newAuditor params codec).check (some request) (some metadata) txID (some auditTokens) = .ok ()) :
    (newAuditor params codec).check (some request) (some metadata) txID (some (retyped type auditTokens)) = .ok () := by
  refine check_follows (fun action i passed => ?_) (fun action i passed => ?_) accepted
  · refine check_each_mem.mpr fun _ only => ?_
    obtain rfl := mem_singleton.mp only
    have valid := check_each_mem.mp passed _ (mem_singleton.mpr rfl)
    simp only [issueAuditValidate, entryAt, Auditor.context, ok_iff] at valid ⊢
    obtain ⟨entry, placed, described, present, _, matched, _, inputs, _, outputs, _, types, issuer⟩ := valid
    exact ⟨entry, placed, described, present, (), matched, (), inputs, (), outputs, (), retyped_issue typed types, issuer⟩
  · refine check_each_mem.mpr fun _ only => ?_
    obtain rfl := mem_singleton.mp only
    have valid := check_each_mem.mp passed _ (mem_singleton.mpr rfl)
    simp only [transferAuditValidate, entryAt, Auditor.context, ok_iff] at valid ⊢
    obtain ⟨entry, placed, described, present, _, matched, _, inputs, _, outputs, _, types, issuer⟩ := valid
    exact ⟨entry, placed, described, present, (), matched, (), inputs, (), outputs, (), retyped_transfer types, issuer⟩

-- The type and the sum of the inputs are gathered and then dropped: no output is compared with them. The tokens of an
-- accepted transfer may as well be on record under another type.
theorem audit_conserves_iff (params : AuditParams F G) (codec : AuditCodec F G) (valueOf : F → Nat) (request : TokenRequest)
    (metadata : TokenRequestMetadata) (txID : Bytes) (auditTokens : AuditTokens)
    (accepted : (newAuditor params codec).check (some request) (some metadata) txID (some auditTokens) = .ok ()) :
    (∀ recorded, (newAuditor params codec).check (some request) (some metadata) txID (some recorded) = .ok () →
      RequestConserves params codec valueOf request metadata recorded) ↔ ∀ action ∈ request.actions, action.type ≠ .transfer := by
  constructor
  · intro conserved action mem kind
    obtain ⟨i, found⟩ := mem_iff_getElem?.mp mem
    have checked := check_ok new_auditor_reads accepted
    have bound : i < metadata.actions.length := by
      rw [← checked.count]
      exact (List.getElem?_eq_some_iff.mp found).1
    have placed : metadata.actions[i]? = some metadata.actions[i] := getElem?_eq_getElem bound
    rcases checked.actions i action found with ⟨other, _⟩ | ⟨_, transfer, _, passed⟩
    · rw [kind] at other
      cases other
    · have valid := check_each_mem.mp passed _ (mem_singleton.mpr rfl)
      obtain ⟨described, present, known⟩ := transfer_audit_validate_ok placed valid
      obtain ⟨tokens, quantities, openings, audited, spends, creates⟩ := transfer_checked_audited known
      obtain ⟨token, spent⟩ := exists_mem_of_ne_nil tokens spends
      obtain ⟨opening, created⟩ := exists_mem_of_ne_nil openings creates
      have same := (conserved _ (check_retyped (cons_ne_nil 0x00 opening.type) accepted) i action _ described _ _ _ found kind
        placed present (audited_retyped _ audited)).types opening created _ (mem_map_of_mem spent)
      exact cons_ne_self _ _ same.symm
  · intro none recorded _ i action entry described tokens quantities openings found kind
    exact absurd kind (none action (mem_of_getElem? found))

end Check

namespace Audited

def stored : Client.Token := { owner := [1], type := gold, quantity := ascii "0x1" }

def opened (type : Bytes) (value : Scalar) : TokenMetadata Scalar :=
  { type, value := some ⟨0, value⟩, blindingFactor := some ⟨0, 1⟩, issuer := [] }

theorem transfer_audited (type : Bytes) (value : Scalar) :
    AuditedTransfer params (codec type value) auditTokens transferMetadata [stored] [.uint64 1] [opened type value] where
  inputs := ⟨.cons ⟨_, id, rfl, rfl, by decide⟩ .nil, .cons (by decide +kernel) .nil⟩
  outputs := .cons ⟨output 2, rfl, rfl⟩ .nil

theorem gold_to_gold_unchecked : ¬ ∀ recorded,
    (newAuditor params (codec gold 1)).check (some request) (some metadata) (ascii "tx") (some recorded) = .ok () →
      RequestConserves params (codec gold 1) ZMod.val request metadata recorded := by
  rw [audit_conserves_iff params (codec gold 1) ZMod.val request metadata (ascii "tx") auditTokens (by decide +kernel)]
  decide

-- Gold goes in, silver of no value comes out.
theorem gold_to_silver_accepted :
    (newAuditor params (codec (ascii "silver") 0)).check (some request) (some metadata) (ascii "tx") (some auditTokens) = .ok () ∧
      AuditedTransfer params (codec (ascii "silver") 0) auditTokens transferMetadata [stored] [.uint64 1]
        [opened (ascii "silver") 0] ∧
      (opened (ascii "silver") 0).type ≠ stored.type ∧
      openedSum ZMod.val [opened (ascii "silver") 0] = 0 ∧ ([Quantity.uint64 1].map Quantity.toNat).sum = 1 ∧
      ¬ Conserves ZMod.val [stored] [.uint64 1] [opened (ascii "silver") 0] := by
  refine ⟨by decide +kernel, transfer_audited _ _, by decide, by decide, by decide, ?_⟩
  intro conserved
  exact absurd conserved.sum (by decide)

end Audited

end Panurus.Zkatdlog
