import Panurus.Fabtoken.Validator
import Panurus.Htlc.MetadataKeys

namespace Panurus.Fabtoken

open List Lib Outcome Core Driver Identity

inductive Signer where
  | owner (id : Identity)
  | issuer (id : Identity)
deriving DecidableEq, Repr

def Signer.verifier (deserializer : Deserializer) : Signer → Outcome (Option Verifier)
  | .owner id => deserializer.getOwnerVerifier id
  | .issuer id => deserializer.getIssuerVerifier id

def TransferAction.tokens (t : TransferAction) : List Output := t.inputs.filterMap inputToken

def TransferAction.redeems (t : TransferAction) : Bool := t.outputs.any fun output => output.any Output.isRedeem

abbrev ownersOf (toks : List Output) : List Signer := toks.map fun tok => .owner tok.owner

abbrev redeemSigners (pp : PublicParams) (action : TransferAction) : List Signer :=
  if pp.issuers ≠ [] ∧ action.redeems then [.issuer (action.issuer.getD [])] else []

-- The signers an action needs: the issuer; or the owners of the inputs, then the issuer of a redeem when issuers are
-- configured.
def requiredSigners (pp : PublicParams) : AnyAction → List Signer
  | .issue action => [.issuer action.issuer]
  | .transfer action => ownersOf action.tokens ++ redeemSigners pp action

abbrev VerifiersOf (deserializer : Deserializer) : List Signer → List Verifier → Prop :=
  List.Forall₂ fun signer verifier => signer.verifier deserializer = .ok (some verifier)

def Required (pp : PublicParams) (deserializer : Deserializer) (value : AnyAction) (verifiers : List Verifier) : Prop :=
  VerifiersOf deserializer (requiredSigners pp value) verifiers

def CacheSound (deserializer : Deserializer) (cache : List (Identity × Option Verifier)) : Prop :=
  ∀ owner verifier, cache.lookup owner = some verifier → deserializer.getOwnerVerifier owner = .ok verifier

-- After some inputs: a verifier from the cache is the one its owner deserializes to, and the signatures are those that
-- stand from the cursor on.
structure SignedInputs (deserializer : Deserializer) (b : Backend) (inputs : List (Option TransferActionInput))
    (walk : SignatureWalk) : Prop where
  cached : CacheSound deserializer walk.verifierCache
  tokens : inputs.map inputToken = walk.inputTokens.map some
  signed : ∃ verifiers, Signed b verifiers walk.provider ∧ VerifiersOf deserializer (ownersOf walk.inputTokens) verifiers
  count : walk.signatures.length = walk.inputTokens.length
  taken : walk.signatures = (b.sigs.drop b.cursor).take walk.inputTokens.length

variable {deserializer : Deserializer} {index : Nat} {walk : SignatureWalk} {input : Option TransferActionInput}
  {b : Backend} {inputs : List (Option TransferActionInput)} {toks : List Output} {pp : PublicParams}
  {action : TransferAction} {next ctx : TransferContext} {lib : Htlc.Libraries} {limits : ResourceLimits}

theorem cache_sound_cons {cache : List (Identity × Option Verifier)} {owner : Identity} {verifier : Option Verifier}
    (sound : CacheSound deserializer cache) (deserialized : deserializer.getOwnerVerifier owner = .ok verifier) :
    CacheSound deserializer ((owner, verifier) :: cache) := by
  intro other found hit
  rw [lookup_cons] at hit
  by_cases same : other = owner
  · subst same
    obtain rfl : verifier = found := by simpa using hit
    exact deserialized
  · have different : (other == owner) = false := by simpa using same
    rw [different] at hit
    exact sound other found hit

theorem sign_input_ok {next : SignatureWalk} (done : signInput deserializer index walk input = .ok next)
    (sound : CacheSound deserializer walk.verifierCache) :
    ∃ tok verifier sigma, inputToken input = some tok ∧
      deserializer.getOwnerVerifier tok.owner = .ok (some verifier) ∧ Signed walk.provider [verifier] next.provider ∧
      walk.provider.sigs[walk.provider.cursor]? = some sigma ∧ next.signatures = walk.signatures ++ [sigma] ∧
      next.inputTokens = walk.inputTokens ++ [tok] ∧ next.verifierCache = (tok.owner, some verifier) :: walk.verifierCache := by
  simp only [signInput, ok_iff, Prod.exists] at done
  obtain ⟨tok, found, verifier, obtained, sigma, provider, signing, rfl⟩ := done
  have deserialized : deserializer.getOwnerVerifier tok.owner = .ok verifier := by
    cases hit : walk.verifierCache.lookup tok.owner with
    | some cached =>
      simp only [hit, Except.ok.injEq] at obtained
      rw [← obtained]
      exact sound _ _ hit
    | none => simpa only [hit, wrap_ok_iff] using obtained
  obtain ⟨checker, rfl, signed, there⟩ := has_been_signed_by_ok signing
  exact ⟨tok, checker, sigma, found, deserialized, signed, there, rfl, rfl, rfl⟩

theorem sign_input_step {done : List (Option TransferActionInput)}
    {next : SignatureWalk} (before : SignedInputs deserializer b done walk)
    (stepped : signInput deserializer index walk input = .ok next) : SignedInputs deserializer b (done ++ [input]) next := by
  obtain ⟨tok, verifier, sigma, found, deserialized, signed, there, signatures, tokens, cache⟩ :=
    sign_input_ok stepped before.cached
  obtain ⟨verifiers, signedBefore, owners⟩ := before.signed
  refine ⟨?_, ?_, ⟨verifiers ++ [verifier], signed_append signedBefore signed, ?_⟩, ?_, ?_⟩
  · rw [cache]
    exact cache_sound_cons before.cached deserialized
  · rw [tokens, map_append, map_append, before.tokens, map_singleton, map_singleton, found]
  · rw [tokens, ownersOf, map_append]
    exact rel_append owners (.cons deserialized .nil)
  · rw [signatures, tokens, length_append, length_append, before.count, length_singleton, length_singleton]
  · have place : walk.provider.cursor = b.cursor + walk.inputTokens.length := by
      rw [signedBefore.cursor, ← owners.length_eq, length_map]
    rw [signedBefore.sigs, place, ← getElem?_drop] at there
    rw [signatures, tokens, before.taken, length_append, length_singleton, take_add_one, there, Option.toList_some]

theorem sign_inputs_ok (run : foldEach (signInput deserializer) 0
      { provider := b, signatures := [], inputTokens := [], verifierCache := [] } inputs = .ok walk) :
    SignedInputs deserializer b inputs walk := by
  refine fold_each_invariant (SignedInputs deserializer b) (fun done state input next before stepped =>
    sign_input_step before stepped) ?_ run
  exact ⟨by simp [CacheSound], by simp, ⟨[], signed_nil b, .nil⟩, rfl, by simp⟩

theorem find_redeem_ok {outputs : List (Option Output)} {found : Bool}
    (done : findRedeem index outputs = .ok found) : found = outputs.any fun output => output.any Output.isRedeem := by
  induction outputs generalizing index with
  | nil =>
    rw [findRedeem, Except.ok.injEq] at done
    rw [← done]
    rfl
  | cons output tail ih =>
    cases output with
    | none => simp [findRedeem] at done
    | some output =>
      rw [findRedeem] at done
      by_cases redeem : output.isRedeem
      · rw [if_pos redeem, Except.ok.injEq] at done
        simp [← done, redeem]
      · rw [if_neg redeem] at done
        simpa [redeem] using ih done

theorem tokens_filter_map (listed : inputs.map inputToken = toks.map some) : inputs.filterMap inputToken = toks := by
  have same := congrArg (filterMap id) listed
  simpa using same

structure SignatureStep (ctx next : TransferContext) : Prop where
  pp : next.pp = ctx.pp
  deserializer : next.deserializer = ctx.deserializer
  action : next.action = ctx.action
  now : next.now = ctx.now
  tokens : ctx.action.inputs.map inputToken = next.inputTokens.map some
  nonempty : ctx.action.inputs ≠ []
  signed : ∃ verifiers, Required ctx.pp ctx.deserializer (.transfer ctx.action) verifiers ∧
    Signed ctx.signatureProvider verifiers next.signatureProvider
  taken : ∀ k, k < next.inputTokens.length → next.signatures[k]? =
    ctx.signatureProvider.sigs[ctx.signatureProvider.cursor + k]?

theorem sign_redeem_ok {next : SignatureWalk} (done : signRedeem pp deserializer action walk = .ok next) :
    next.inputTokens = walk.inputTokens ∧ walk.signatures <+: next.signatures ∧
      ∃ verifiers, VerifiersOf deserializer (redeemSigners pp action) verifiers ∧ Signed walk.provider verifiers next.provider := by
  unfold signRedeem at done
  by_cases unrestricted : pp.issuers = []
  · rw [if_pos unrestricted, Except.ok.injEq] at done
    subst done
    refine ⟨rfl, prefix_rfl, [], ?_, signed_nil _⟩
    simp [unrestricted]
  · simp only [if_neg unrestricted, bind_ok_iff] at done
    obtain ⟨isRedeem, found, rest⟩ := done
    have redeems : isRedeem = action.redeems := find_redeem_ok found
    by_cases redeem : isRedeem
    · simp only [if_pos redeem, ok_iff, Prod.exists, exists_const] at rest
      obtain ⟨issuer, named, _, verifier, deserialized, sigma, provider, signing, rfl⟩ := rest
      obtain ⟨checker, rfl, signed, _⟩ := has_been_signed_by_ok signing
      refine ⟨rfl, prefix_append _ _, [checker], ?_, signed⟩
      rw [redeemSigners, if_pos ⟨unrestricted, redeems ▸ redeem⟩, named]
      exact .cons deserialized .nil
    · rw [if_neg redeem, pure_ok_iff] at rest
      subst rest
      refine ⟨rfl, prefix_rfl, [], ?_, signed_nil _⟩
      rw [redeemSigners, if_neg (by rw [← redeems]; exact fun both => redeem both.2)]
      exact .nil

theorem transfer_signature_ok (fresh : ctx.signatures = [])
    (done : transferSignatureValidate ctx = .ok next) : SignatureStep ctx next := by
  simp only [transferSignatureValidate, ok_iff, exists_const, fresh] at done
  obtain ⟨nonempty, walk, run, final, redeemed, rfl⟩ := done
  have inputs := sign_inputs_ok run
  obtain ⟨sameTokens, extended, issuers, issuersRequired, issuersSigned⟩ := sign_redeem_ok redeemed
  obtain ⟨owners, ownersSigned, ownersRequired⟩ := inputs.signed
  refine ⟨rfl, rfl, rfl, rfl, by rw [inputs.tokens, sameTokens], nonempty,
    ⟨owners ++ issuers, ?_, signed_append ownersSigned issuersSigned⟩, ?_⟩
  · refine rel_append ?_ issuersRequired
    rwa [TransferAction.tokens, tokens_filter_map inputs.tokens]
  · intro k bound
    have early : k < walk.inputTokens.length := by simpa only [sameTokens] using bound
    have kept : final.signatures[k]? = walk.signatures[k]? := by
      obtain ⟨more, equal⟩ := extended
      rw [← equal, getElem?_append_left (by rwa [inputs.count])]
    rw [kept, inputs.taken, getElem?_take_of_lt early, getElem?_drop]

theorem required_nonempty {verifiers : List Verifier} (listed : action.inputs.map inputToken = toks.map some)
    (nonempty : action.inputs ≠ []) (needed : Required pp deserializer (.transfer action) verifiers) : verifiers ≠ [] := by
  rintro rfl
  have none := forall₂_nil_right_iff.mp needed
  simp only [requiredSigners, append_eq_nil_iff, map_eq_nil_iff, TransferAction.tokens, tokens_filter_map listed] at none
  rw [none.1] at listed
  exact nonempty (map_eq_nil_iff.mp listed)

def ownerOf (output : Option Output) : Identity := (output.map Output.owner).getD []

structure ScriptInput (lib : Htlc.Libraries) (ctx : TransferContext) (index : Nat) (input output : Output)
    (script : Htlc.Script) (op : Htlc.OperationType) (sigma key : Bytes) : Prop where
  inputs : ctx.inputTokens.length = 1
  outputs : ctx.action.outputs = [some output]
  type : input.type = output.type
  quantity : input.quantity = output.quantity
  owner : Htlc.verifyOwner lib input.owner output.owner ctx.now = .ok (script, op)
  signature : ctx.signatures[index]? = some sigma
  metadata : Htlc.metadataClaimKeyCheck lib ctx.action.metadata script op sigma = .ok key

theorem htlc_input_ok {input : Output} (done : htlcInput lib index ctx input = .ok next) :
    ∃ si, unmarshalTypedIdentity input.owner = .ok si ∧ ((si.type ≠ htlcScriptIdentityType ∧ next = ctx) ∨
      (si.type = htlcScriptIdentityType ∧ ∃ output script op sigma key,
        ScriptInput lib ctx index input output script op sigma key ∧
        next = if op = .reclaim then ctx else ctx.countMetadataKey key)) := by
  simp only [htlcInput, ok_iff] at done
  obtain ⟨si, typed, rest⟩ := done
  refine ⟨si, typed, ?_⟩
  by_cases scripted : si.type = htlcScriptIdentityType
  · simp only [if_pos scripted, ok_iff, exists_const] at rest
    obtain ⟨⟨inputs, outputs⟩, output, head, type, quantity, _, ⟨script, op⟩, owner, sigma, signature, key, metadata, rfl⟩ := rest
    obtain ⟨only, single⟩ := length_eq_one_iff.mp outputs
    rw [single] at head
    obtain rfl : only = some output := by simpa using head
    exact .inr ⟨scripted, output, script, op, sigma, key, ⟨inputs, single, type, quantity, owner, signature, metadata⟩, rfl⟩
  · rw [if_neg scripted, pure_ok_iff] at rest
    exact .inl ⟨scripted, rest.symm⟩

theorem htlc_input_claims (index : Nat) (ctx next : TransferContext) (input : Output)
    (done : htlcInput lib index ctx input = .ok next) : Htlc.ClaimStep lib ctx.action.metadata ctx index input.owner next := by
  obtain ⟨si, typed, ⟨other, rfl⟩ | ⟨scripted, output, script, op, sigma, key, checked, rfl⟩⟩ := htlc_input_ok done
  · exact .plain (Htlc.script_of_other typed other)
  · exact Htlc.claim_step_of_checks checked.inputs (Htlc.script_of_typed typed scripted) (Htlc.verify_owner_ok typed checked.owner)
      checked.signature checked.metadata

theorem htlc_output_locks (index : Nat) (ctx next : TransferContext) (output : Option Output)
    (done : htlcOutput lib index ctx output = .ok next) :
    Htlc.LockStep lib (Htlc.unmarshalStrict lib.decodeScript) ctx.action.metadata ctx (ownerOf output) next := by
  simp only [htlcOutput, ok_iff] at done
  obtain ⟨out, rfl, rest⟩ := done
  by_cases redeem : out.isRedeem
  · rw [if_pos redeem, pure_ok_iff] at rest
    have unowned : ownerOf (some out) = [] := by simpa [Output.isRedeem, ownerOf] using redeem
    exact rest ▸ .plain (unowned ▸ Htlc.script_of_nil)
  · rw [if_neg redeem] at rest
    exact Htlc.lock_output_ok rest

theorem htlc_input_counts {input : Output} (done : htlcInput lib index ctx input = .ok next) : Counts ctx next :=
  (htlc_input_claims index ctx next input done).counts

theorem transfer_htlc_counts (done : transferHTLCValidate lib ctx = .ok next) : Counts ctx next := by
  rw [transferHTLCValidate, bind_ok_iff] at done
  obtain ⟨middle, inputs, outputs⟩ := done
  exact counts_trans (fold_counts (fun _ _ _ _ => htlc_input_counts) inputs)
    (fold_counts (fun _ _ _ _ done => (htlc_output_locks _ _ _ _ done).counts) outputs)

theorem transfer_balance_keeps (done : transferBalanceValidate ctx = .ok next) : next = ctx := by
  simp only [transferBalanceValidate, ok_iff] at done
  obtain ⟨_, _, _, _, _, _, _, _, _, _, rfl⟩ := done
  rfl

structure TransferSteps (limits : ResourceLimits) (lib : Htlc.Libraries) (ctx signed scripted final : TransferContext) :
    Prop where
  valid : ctx.action.validate limits = .ok ()
  signature : transferSignatureValidate ctx = .ok signed
  balance : transferBalanceValidate signed = .ok signed
  htlc : transferHTLCValidate lib signed = .ok scripted
  applicationData : applicationDataValidate TransferAction.metadata scripted = .ok final

theorem transfer_steps {final : TransferContext} (done : runValidators (transferValidators limits lib) ctx = .ok final) :
    ∃ signed scripted, TransferSteps limits lib ctx signed scripted final := by
  simp only [runValidators, transferValidators, foldlM_cons, foldlM_nil, ok_iff, transferActionValidate] at done
  obtain ⟨checked, ⟨⟨⟩, valid, rfl⟩, signed, signature, balanced, balance, scripted, htlc, _, data, rfl⟩ := done
  obtain rfl := transfer_balance_keeps balance
  exact ⟨balanced, scripted, valid, signature, balance, htlc, data⟩

theorem issue_validate_ok {ctx next : IssueContext} (done : issueValidate limits ctx = .ok next) :
    ctx.action.validate limits = .ok () ∧ (∀ output ∈ ctx.action.outputs, validateIssuedQuantity ctx.pp output = .ok ()) ∧
    ∃ verifier, ctx.deserializer.getIssuerVerifier ctx.action.issuer = .ok (some verifier) ∧
      Signed ctx.signatureProvider [verifier] next.signatureProvider := by
  simp only [issueValidate, ok_iff, Prod.exists] at done
  obtain ⟨⟨⟩, valid, _, _, ⟨⟩, quantities, _, _, verifier, deserialized, sigma, provider, signing, rfl⟩ := done
  obtain ⟨checker, rfl, signed, _⟩ := has_been_signed_by_ok signing
  exact ⟨valid, check_each_mem.mp quantities, checker, deserialized, signed⟩

end Panurus.Fabtoken
