import Panurus.Fabtoken.SignatureSteps
import Panurus.Rws.Unspent

namespace Panurus.Fabtoken

open List Lib Outcome Core Driver Token Output TransferAction

def amount (pp : PublicParams) (tok : Output) : Nat :=
  match toQuantity tok.quantity pp.quantityPrecision with
  | .ok q => q.toNat
  | .error _ => 0

def total (pp : PublicParams) (type : Bytes) (toks : List Output) : Nat :=
  (toks.map fun tok => if tok.type = type then amount pp tok else 0).sum

def Countable (pp : PublicParams) (tok : Output) : Prop := ∃ q, toQuantity tok.quantity pp.quantityPrecision = .ok q

def toTranslator : AnyAction → Rws.Action
  | .issue action => .issue action.toTranslator
  | .transfer action => .transfer action.toTranslator

def outputsAt : AnyAction → List (Option Output)
  | .issue action | .transfer action => action.outputs

def issuedTokens : AnyAction → List Output
  | .issue action => action.outputs.reduceOption
  | .transfer _ => []

def redeemedTokens : AnyAction → List Output
  | .issue _ => []
  | .transfer action => action.outputs.reduceOption.filter isRedeem

def inputIDs : AnyAction → List Rws.TokenID
  | .issue _ => []
  | .transfer action => action.getInputs.reduceOption

def namedTokens : AnyAction → List Output
  | .issue action => action.outputs.reduceOption
  | .transfer action => action.tokens ++ action.outputs.reduceOption

theorem total_append (pp : PublicParams) (type : Bytes) (toks more : List Output) :
    total pp type (toks ++ more) = total pp type toks + total pp type more := by
  rw [total, map_append, sum_append, total, total]

variable {pp : PublicParams} {toks : List Output} {limits : ResourceLimits} {lib : Htlc.Libraries}

theorem total_same_type {typ : Bytes} (typed : ∀ tok ∈ toks, tok.type = typ)
    (type : Bytes) : total pp type toks = if typ = type then (toks.map (amount pp)).sum else 0 := by
  have each : (toks.map fun tok => if tok.type = type then amount pp tok else 0) =
      toks.map fun tok => if typ = type then amount pp tok else 0 :=
    map_congr_left fun tok mem => by rw [typed tok mem]
  rw [total, each]
  by_cases same : typ = type
  · simp [if_pos same]
  · simp [same]

theorem total_partition (pp : PublicParams) (type : Bytes) (toks : List Output) :
    total pp type (toks.filter fun tok => ¬ tok.isRedeem) + total pp type (toks.filter isRedeem) = total pp type toks := by
  rw [← total_append]
  refine List.Perm.sum_eq (List.Perm.map _ ?_)
  simpa using perm_append_comm.trans (filter_append_perm isRedeem toks)

section Sums

variable {pp : PublicParams} {typ : Bytes} {sum : Quantity}

structure Summed (pp : PublicParams) (typ : Bytes) (toks : List Output) (sum : Quantity) : Prop where
  amounts : sum.toNat = (toks.map (amount pp)).sum
  typed : ∀ tok ∈ toks, tok.type = typ
  countable : ∀ tok ∈ toks, Countable pp tok

theorem summed_zero (pp : PublicParams) (typ : Bytes) : Summed pp typ [] (Quantity.zero pp.quantityPrecision) :=
  ⟨zero_to_nat _, by simp, by simp⟩

theorem summed_step {side : String} {next : Quantity} {tok : Output} (before : Summed pp typ toks sum)
    (added : addQuantity side pp typ sum tok = .ok next) : Summed pp typ (toks ++ [tok]) next := by
  simp only [addQuantity, ok_iff, exists_const] at added
  obtain ⟨q, parsed, result, sums, typed, rfl⟩ := added
  have here : amount pp tok = q.toNat := by rw [amount, parsed]
  refine ⟨?_, forall_mem_append.mpr ⟨before.typed, by simpa using typed⟩,
    forall_mem_append.mpr ⟨before.countable, by simpa using ⟨q, parsed⟩⟩⟩
  rw [add_ok sums, before.amounts]
  simp [here]

theorem all_summed {side : String}
    (run : toks.foldlM (addQuantity side pp typ) (Quantity.zero pp.quantityPrecision) = .ok sum) : Summed pp typ toks sum :=
  foldlM_invariant (Summed pp typ) (fun _ _ _ _ => summed_step) (summed_zero pp typ) run

end Sums

structure Moves (pp : PublicParams) (value : AnyAction) (consumed : List (Rws.TokenID × Output))
    (stored : List Output) : Prop where
  spent : (toTranslator value).spent = consumed.map fun entry => (entry.1, entry.2.serialize)
  inputs : inputIDs value = consumed.map Prod.fst
  owners : ownersOf (consumed.map Prod.snd) <+: requiredSigners pp value
  kept : (toTranslator value).kept = stored.map serialize
  present : ∃ toks : List Output, toks ≠ [] ∧ outputsAt value = toks.map some
  named : ∀ tok ∈ consumed.map Prod.snd ++ stored, tok ∈ namedTokens value
  filled : ∀ tok ∈ consumed.map Prod.snd ++ stored, tok.type ≠ [] ∧ tok.quantity ≠ []
  countable : ∀ tok ∈ stored, Countable pp tok
  balance : ∀ type, total pp type stored + total pp type (redeemedTokens value) =
    total pp type (issuedTokens value) + total pp type (consumed.map Prod.snd)

theorem serialized_outputs_ok (toks : List Output) (start : Nat) :
    ((toks.map some).zipIdx start).mapM (fun entry => do
      let output ← required entry.1 s!"cannot serialize issue action outputs: nil output at index [{entry.2}]"
      return output.serialize) = (.ok (toks.map serialize) : Outcome (List Bytes)) := by
  induction toks generalizing start with
  | nil => rfl
  | cons tok tail ih =>
    rw [map_cons, zipIdx_cons, mapM_cons, ih]
    rfl

theorem present_eq {α : Type} (entries : List (Option α)) : entries.reduceOption = entries.filterMap id := rfl

theorem issue_raws {action : IssueAction} (listed : action.outputs = toks.map some) :
    action.getSerializedOutputs = .ok (toks.map serialize) := by
  rw [IssueAction.getSerializedOutputs, listed]
  exact serialized_outputs_ok toks 0

theorem issue_moves {action : IssueAction} (valid : action.validate limits = .ok ())
    (quantities : ∀ output ∈ action.outputs, validateIssuedQuantity pp output = .ok ()) :
    ∃ stored, Moves pp (.issue action) [] stored := by
  simp only [IssueAction.validate, ok_iff, within_ok_iff] at valid
  obtain ⟨_, _, _, nonempty, _, _, ⟨⟩, checked, _⟩ := valid
  obtain ⟨outputs, listed, filled⟩ := outputs_present checked
  have present : action.outputs.reduceOption = outputs := by simp [listed, present_eq]
  refine ⟨outputs, rfl, rfl, nil_prefix, ?_, ⟨outputs, by simpa [listed] using nonempty, listed⟩,
    by simp [namedTokens, present], by simpa using filled, ?_, ?_⟩
  · simp only [Rws.Action.kept, Rws.Action.outputs, toTranslator, IssueAction.toTranslator, issue_raws listed]
    rw [filterMap_map, filterMap_map]
    exact congrFun (filterMap_eq_map (f := serialize)) outputs
  · intro tok mem
    have issued := quantities (some tok) (listed ▸ mem_map_of_mem mem)
    simp only [validateIssuedQuantity, ok_iff, Option.some.injEq, exists_eq_left'] at issued
    obtain ⟨q, parsed, _⟩ := issued
    exact ⟨q, parsed⟩
  · intro type
    simp [issuedTokens, redeemedTokens, present]

theorem translator_outputs_kept (toks : List Output) (start : Nat) :
    (((toks.map some).zipIdx start).map translatorOutput).filterMap Rws.TransferOutput.kept =
      (toks.filter fun tok => ¬ tok.isRedeem).map serialize := by
  induction toks generalizing start with
  | nil => rfl
  | cons tok tail ih =>
    rw [map_cons, zipIdx_cons, map_cons, filterMap_cons, ih]
    by_cases redeem : tok.isRedeem
    · simp [translatorOutput, Rws.TransferOutput.kept, redeem]
    · simp [translatorOutput, Rws.TransferOutput.kept, redeem, Except.toOption]

theorem transfer_moves {ctx signed scripted final : TransferContext}
    (fresh : ctx.signatures = []) (steps : TransferSteps limits lib ctx signed scripted final) :
    ∃ consumed stored, Moves ctx.pp (.transfer ctx.action) consumed stored := by
  have step := transfer_signature_ok fresh steps.signature
  have valid := steps.valid
  simp only [TransferAction.validate, ok_iff, within_ok_iff, exists_const] at valid
  obtain ⟨_, _, ⟨⟩, inputsChecked, _, ⟨⟩, outputsChecked, _⟩ := valid
  obtain ⟨consumed, inputs, inputsFilled⟩ := inputs_spent inputsChecked
  obtain ⟨outputs, listed, outputsFilled⟩ := outputs_present outputsChecked
  have tokens : signed.inputTokens = consumed.map Prod.snd := by
    have named := step.tokens
    rw [inputs, map_map] at named
    have same : (consumed.map Prod.snd).map some = signed.inputTokens.map some := by
      rw [← named, map_map]
      rfl
    exact (map_injective_iff.mpr (Option.some_injective _) same).symm
  have balance := steps.balance
  simp only [transferBalanceValidate, ok_iff, exists_const] at balance
  obtain ⟨nonempty, first, _, inputSum, inputsAdded, outputSum, outputsAdded, equal, _⟩ := balance
  rw [step.action, listed] at outputsAdded nonempty
  obtain ⟨toks, same, outputsAdded⟩ := output_quantities_ok_iff.mp outputsAdded
  obtain rfl := map_injective_iff.mpr (Option.some_injective _) same
  have before := all_summed inputsAdded
  have after := all_summed outputsAdded
  rw [step.pp] at before after
  rw [tokens] at before
  have present : ctx.action.outputs.reduceOption = outputs := by simp [listed, present_eq]
  have consumes : ctx.action.tokens = consumed.map Prod.snd := by
    rw [TransferAction.tokens, tokens_filter_map step.tokens, tokens]
  refine ⟨consumed, outputs.filter fun tok => ¬ tok.isRedeem, ?_, ?_, consumes ▸ prefix_append _ _, ?_,
    ⟨outputs, by simpa using nonempty, listed⟩, ?_, ?_, ?_, ?_⟩
  · simp only [toTranslator, Rws.Action.spent, Rws.ActionWithInputs.spent, TransferAction.toTranslator,
      TransferAction.getInputs, TransferAction.getSerializedInputs, inputs, map_map]
    rw [← zip_map', present_eq, filterMap_map]
    congr 1
    exact congrFun (filterMap_eq_map (f := Prod.fst)) consumed
  · simp only [inputIDs, TransferAction.getInputs, inputs, map_map]
    rw [present_eq, filterMap_map]
    exact congrFun (filterMap_eq_map (f := Prod.fst)) consumed
  · simp only [toTranslator, Rws.Action.kept, Rws.Action.outputs, TransferAction.toTranslator, listed]
    exact translator_outputs_kept outputs 0
  · rw [namedTokens, present, consumes]
    refine forall_mem_append.mpr ⟨fun tok => mem_append_left _, fun tok mem => ?_⟩
    exact mem_append_right _ (mem_of_mem_filter mem)
  · refine forall_mem_append.mpr ⟨?_, fun tok mem => outputsFilled tok (mem_of_mem_filter mem)⟩
    intro tok mem
    obtain ⟨entry, found, rfl⟩ := mem_map.mp mem
    exact (inputsFilled entry found).2
  · exact fun tok mem => after.countable tok (mem_of_mem_filter mem)
  · intro type
    have redeemed : redeemedTokens (.transfer ctx.action) = outputs.filter isRedeem := by
      rw [redeemedTokens, present]
    have amounts : ((consumed.map Prod.snd).map (amount ctx.pp)).sum = (outputs.map (amount ctx.pp)).sum := by
      rw [← before.amounts, ← after.amounts]
      exact (cmp_eq_zero_iff _ _).mp equal
    rw [redeemed, total_partition, total_same_type after.typed, total_same_type before.typed, amounts]
    simp [issuedTokens, total]

theorem verified_action_ok {protobuf : Protobuf} {deserializer : Deserializer} {version : UInt32} {clock : Clock}
    {request : TokenRequest} {provider consumed : Backend} {action : DeserializedAction IssueAction TransferAction}
    (done : ((newValidator protobuf lib pp deserializer limits).setMinProtocolVersion version).verifyDeserializedAction
      clock request provider action = .ok consumed) :
    (∃ verifiers, verifiers ≠ [] ∧ Required pp deserializer action.value verifiers ∧ Signed provider verifiers consumed) ∧
      ∃ inputs stored, Moves pp action.value inputs stored := by
  cases kind : action.value with
  | issue issue =>
    simp only [Validator.verifyDeserializedAction, kind, ok_iff, Validator.verifyIssue, runValidators,
      Validator.setMinProtocolVersion, newValidator, issueValidators, foldlM_cons, foldlM_nil] at done
    obtain ⟨final, ⟨middle, issued, _, data, rfl⟩, _, _, rfl⟩ := done
    obtain ⟨valid, quantities, verifier, deserialized, signed⟩ := issue_validate_ok issued
    obtain ⟨keys, rfl⟩ := application_data_counts data
    exact ⟨⟨[verifier], by simp, .cons deserialized .nil, signed⟩, [], issue_moves valid quantities⟩
  | transfer transfer =>
    simp only [Validator.verifyDeserializedAction, kind, ok_iff, Validator.verifyTransfer] at done
    obtain ⟨final, run, _, _, rfl⟩ := done
    obtain ⟨signed, scripted, steps⟩ := transfer_steps run
    have step := transfer_signature_ok rfl steps.signature
    obtain ⟨verifiers, needed, signing⟩ := step.signed
    obtain ⟨keys, rfl⟩ := counts_trans (transfer_htlc_counts steps.htlc) (application_data_counts steps.applicationData)
    exact ⟨⟨verifiers, required_nonempty step.tokens step.nonempty needed, needed, signing⟩, transfer_moves rfl steps⟩

end Panurus.Fabtoken
