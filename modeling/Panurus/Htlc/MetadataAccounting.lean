import Panurus.Fabtoken.HtlcSafety
import Panurus.Zkatdlog.HtlcLocks
import Panurus.Zkatdlog.TransferSafety

variable {now : Int}

namespace Panurus.Fabtoken

open Lib Outcome Core Driver Identity Zkatdlog.Split Htlc

def TransferAction.outputOwners (t : TransferAction) : List Identity := t.outputs.map ownerOf

variable {ctx next : TransferContext}

theorem first_signed (step : SignatureStep ctx next) (tok : Output) (only : next.inputTokens = [tok]) :
    ∃ sigma verifier, FirstSigned ctx.deserializer ctx.signatureProvider tok.owner sigma verifier ∧
      next.signatures[0]? = some sigma := by
  obtain ⟨verifiers, needed, signing⟩ := step.signed
  obtain ⟨verifier, first, deserialized⟩ := first_owner_verifier (tokens_filter_map step.tokens) only needed
  obtain ⟨sigma, taken, verified⟩ := signing.verified 0 verifier first
  have kept := step.taken 0 (by simp [only])
  exact ⟨sigma, verifier, ⟨deserialized, taken, verified⟩, kept.trans taken⟩

theorem signature_keeps_counter (done : transferSignatureValidate ctx = .ok next) :
    next.metadataCounter = ctx.metadataCounter := by
  simp only [transferSignatureValidate, ok_iff] at done
  obtain ⟨_, _, _, _, _, _, rfl⟩ := done
  rfl

theorem transfer_metadata_accounted {protobuf : Protobuf} {lib : Libraries} {others : Int32 → List TypedDeserializer}
    {uniqueID : Identity → String} {pp : PublicParams} {limits : ResourceLimits} {request : TokenRequest}
    {action : TransferAction} {provider consumed : Backend}
    (done : (newValidator protobuf lib pp (newDeserializer lib others uniqueID limits) limits).verifyTransfer request action
      provider now = .ok consumed) :
    Accounted lib (unmarshalStrict lib.decodeScript) provider now (action.tokens.map Output.owner)
      action.outputOwners action.metadata := by
  simp only [Validator.verifyTransfer, bind_ok_iff] at done
  obtain ⟨final, run, _, counted, _⟩ := done
  obtain ⟨signed, scripted, steps⟩ := transfer_steps run
  have step := transfer_signature_ok rfl steps.signature
  have htlc := steps.htlc
  rw [transferHTLCValidate, bind_ok_iff] at htlc
  obtain ⟨middle, inputsRun, outputsRun⟩ := htlc
  have sameAction : signed.action = action := step.action
  have sameNow : signed.now = now := step.now
  have tokens : action.tokens = signed.inputTokens := tokens_filter_map step.tokens
  obtain ⟨keys, rfl⟩ := fold_counts (fun _ _ _ _ => htlc_input_counts) inputsRun
  have accounted := transfer_accounted htlc_input_claims htlc_output_locks (first_signed step) (signature_keeps_counter steps.signature)
    inputsRun outputsRun steps.applicationData (by rw [sameAction]; exact counted)
  rw [sameNow, ← tokens, sameAction] at accounted
  exact accounted

end Panurus.Fabtoken

namespace Panurus.Zkatdlog

open Lib Outcome Core Driver Identity

variable {F G RB RC : Type} {deserializer : Deserializer} {walk next : SignatureWalk G}

def Action.tokens (t : Action F G) : List (Option (Token G)) := t.inputs.map fun input => input.bind ActionInput.token

def Action.outputOwners (t : Action F G) : List Identity := t.outputs.map ownerOf

structure SignedInputs (deserializer : Deserializer) (b : Backend) (inputs : List (Option (ActionInput F G)))
    (walk : SignatureWalk G) : Prop where
  tokens : (inputs.map fun input => input.bind ActionInput.token) = walk.inputTokens.map some
  untouched : walk.inputTokens = [] → walk.provider = b ∧ walk.signatures = []
  first : ∀ tok, walk.inputTokens.head? = some tok → ∃ sigma verifier,
    Htlc.FirstSigned deserializer b tok.owner sigma verifier ∧ walk.signatures[0]? = some sigma

theorem sign_input_step {b : Backend} {done : List (Option (ActionInput F G))} {index : Nat}
    {input : Option (ActionInput F G)} (before : SignedInputs deserializer b done walk)
    (stepped : signInput deserializer index walk input = .ok next) : SignedInputs deserializer b (done ++ [input]) next := by
  simp only [signInput, ok_iff, Prod.exists] at stepped
  obtain ⟨tok, found, verifier, deserialized, sigma, provider, signing, rfl⟩ := stepped
  obtain ⟨checker, rfl, signed, taken⟩ := has_been_signed_by_ok signing
  refine ⟨?_, by simp, ?_⟩
  · rw [List.map_append, List.map_append, before.tokens, List.map_singleton, List.map_singleton, found]
  · intro head heads
    cases earlier : walk.inputTokens with
    | nil =>
      obtain ⟨rfl, none⟩ := before.untouched earlier
      obtain rfl : tok = head := by simpa [earlier] using heads
      obtain ⟨sigma', taken', verified⟩ := signed.verified 0 checker rfl
      obtain rfl : sigma = sigma' := Option.some.inj (taken.symm.trans taken')
      exact ⟨sigma, checker, ⟨deserialized, taken, verified⟩, by simp [none]⟩
    | cons other rest =>
      obtain rfl : other = head := by simpa [earlier] using heads
      obtain ⟨sigma', verifier, first, same⟩ := before.first other (by rw [earlier]; rfl)
      exact ⟨sigma', verifier, first, List.getElem?_append_left (List.getElem?_eq_some_iff.mp same).1 ▸ same⟩

variable {pp : Params G} {action : Action F G}

theorem sign_redeem_keeps (done : signRedeem pp deserializer action walk = .ok next) :
    next.inputTokens = walk.inputTokens ∧ walk.signatures <+: next.signatures := by
  rw [signRedeem] at done
  split_ifs at done
  · simp only [ok_iff, Prod.exists] at done
    obtain ⟨_, _, _, _, _, _, sigma, _, _, rfl⟩ := done
    exact ⟨rfl, List.prefix_append _ _⟩
  · rw [pure_ok_iff] at done
    exact done ▸ ⟨rfl, List.prefix_rfl⟩

theorem transfer_signature_ok {ctx next : TransferContext F G} (done : transferSignatureValidate ctx = .ok next) :
    ∃ provider signatures, next = { ctx with signatureProvider := provider, signatures, inputTokens := ctx.action.tokens } ∧
      ∀ tok, ctx.action.tokens = [tok] → ∃ sigma verifier,
        Htlc.FirstSigned ctx.deserializer ctx.signatureProvider (ownerOf tok) sigma verifier ∧ signatures[0]? = some sigma := by
  simp only [transferSignatureValidate, ok_iff, exists_const] at done
  obtain ⟨_, walk, run, final, redeemed, rfl⟩ := done
  have inputs : SignedInputs ctx.deserializer ctx.signatureProvider ctx.action.inputs walk :=
    fold_each_invariant (SignedInputs ctx.deserializer ctx.signatureProvider)
      (fun _ _ _ _ before stepped => sign_input_step before stepped) ⟨rfl, fun _ => ⟨rfl, rfl⟩, by simp⟩ run
  obtain ⟨sameTokens, extended⟩ := sign_redeem_keeps redeemed
  have tokens : ctx.action.tokens = walk.inputTokens.map some := inputs.tokens
  refine ⟨final.provider, final.signatures, by rw [tokens, sameTokens], fun tok only => ?_⟩
  rw [tokens, List.map_eq_singleton_iff] at only
  obtain ⟨first, listed, rfl⟩ := only
  obtain ⟨sigma, verifier, signed, taken⟩ := inputs.first first (by rw [listed]; rfl)
  obtain ⟨more, same⟩ := extended
  exact ⟨sigma, verifier, signed, same ▸ List.getElem?_append_left (List.getElem?_eq_some_iff.mp taken).1 ▸ taken⟩

section Pipeline

variable [Field F] [DecidableEq F] [AddCommGroup G] [Module F G] [DecidableEq G]

theorem transfer_metadata_accounted {IA : Type} {issues : IssueSide F G IA} {lib : Htlc.Libraries} {curve : Curve F G}
    {systems : Systems F G RB RC} {others : Int32 → List TypedDeserializer} {uniqueID : Identity → String}
    {limits : Limits} {request : TokenRequest} {provider consumed : Backend}
    (done : (newValidator issues lib curve systems pp (Htlc.newDeserializer lib others uniqueID limits.toResourceLimits)
      limits).verifyTransfer request action provider now = .ok consumed) :
    Htlc.Accounted lib (Htlc.unmarshal lib.decodeScript) provider now (action.tokens.map ownerOf) action.outputOwners
      action.metadata := by
  simp only [Validator.verifyTransfer, ok_iff, runValidators, newValidator, transferValidators, List.foldlM_cons,
    List.foldlM_nil, transferActionValidate, transferUpgradeWitnessValidate, transferProofValidate, transferHTLCValidate] at done
  obtain ⟨final, ⟨_, ⟨_, _, rfl⟩, signed, signature, _, ⟨_, _, rfl⟩, _, ⟨_, _, rfl⟩, scripted, ⟨middle, inputsRun, outputsRun⟩,
    _, data, rfl⟩, _, counted, _⟩ := done
  obtain ⟨provider', signatures, rfl, first⟩ := transfer_signature_ok signature
  obtain ⟨keys, rfl⟩ := fold_counts (fun _ _ _ _ => htlc_input_counts) inputsRun
  exact Htlc.transfer_accounted htlc_input_claims htlc_output_locks first rfl inputsRun outputsRun data counted

end Pipeline

end Panurus.Zkatdlog

namespace Panurus.Htlc

open Lib Outcome Text Core Driver Identity

theorem transfer_metadata_exact (lib : Libraries) (others : Int32 → List TypedDeserializer) (uniqueID : Identity → String)
    (request : TokenRequest) (provider consumed : Backend) (now : Int) :
    (∀ (protobuf : Fabtoken.Protobuf) (pp : Fabtoken.PublicParams) (limits : ResourceLimits) (action : Fabtoken.TransferAction),
      (Fabtoken.newValidator protobuf lib pp (newDeserializer lib others uniqueID limits) limits).verifyTransfer request action
        provider now = .ok consumed →
      Accounted lib (unmarshalStrict lib.decodeScript) provider now (action.tokens.map Fabtoken.Output.owner)
        action.outputOwners action.metadata) ∧
    (∀ (F G RB RC IA : Type) [Field F] [DecidableEq F] [AddCommGroup G] [Module F G] [DecidableEq G]
      (issues : Zkatdlog.IssueSide F G IA) (curve : Zkatdlog.Curve F G) (systems : Zkatdlog.Systems F G RB RC)
      (pp : Zkatdlog.Params G) (limits : Zkatdlog.Limits) (action : Zkatdlog.Action F G),
      (Zkatdlog.newValidator issues lib curve systems pp (newDeserializer lib others uniqueID limits.toResourceLimits)
        limits).verifyTransfer request action provider now = .ok consumed →
      Accounted lib (unmarshal lib.decodeScript) provider now (action.tokens.map Zkatdlog.ownerOf) action.outputOwners
        action.metadata) := by
  refine ⟨fun protobuf pp limits action done => Fabtoken.transfer_metadata_accounted done, ?_⟩
  intro F G RB RC IA _ _ _ _ _ issues curve systems pp limits action done
  exact Zkatdlog.transfer_metadata_accounted done

namespace Counted

open Fabtoken.Swap (identityOf others script request)

abbrev lib : Libraries := Fabtoken.Swap.lib

def limits : Zkatdlog.Limits := { defaultResourceLimits with maxProofBytes := 131072 }

def pp : Zkatdlog.Params Zkatdlog.Split.Point := { Zkatdlog.Split.params with auditorIDs := [], issuerIDs := [] }

def owned (owner : Identity) (token : Option (Zkatdlog.Token Point)) : Option (Zkatdlog.Token Point) :=
  token.map fun found => { found with owner }

def action : Zkatdlog.Action (ZMod Zkatdlog.Split.order) Zkatdlog.Split.Point :=
  { inputs := Zkatdlog.Split.inputTokens.map fun token =>
      some { id := some ⟨[0x61], 0⟩, token := owned (identityOf 2 1) token, upgradeWitness := none }
    outputs := List.zipWith owned [identityOf 4 0, identityOf 2 1] Zkatdlog.Split.action.outputs
    proofType := .rangeProofType
    proof := [1]
    metadata := [(ascii "pub.memo", [1]), script.lockEntry]
    issuer := none }

def provider : Backend := { message := [0x6D], cursor := 0, sigs := [[1]], clock := fun _ _ => 0 }

def issues : Zkatdlog.IssueSide (ZMod order) Point Unit :=
  { deserializeActions := fun _ => .error "", metadata := fun _ => [], validators := [] }

theorem claim_and_lock_accounted :
    Accounted lib (unmarshalStrict lib.decodeScript) Fabtoken.Swap.provider 1 [identityOf 4 0] [identityOf 2 2]
      [(claimKey [3], [3])] ∧
    Accounted lib (unmarshal lib.decodeScript) provider 0 [identityOf 2 1] [identityOf 4 0, identityOf 2 1]
      [(ascii "pub.memo", [1]), script.lockEntry] := by
  have claimed : (Fabtoken.Swap.validator.verifyTransfer request Fabtoken.Swap.claim Fabtoken.Swap.provider 1).isOk := by
    decide +kernel
  have locked : ((Zkatdlog.newValidator issues lib (Zkatdlog.Split.oracle 5) Zkatdlog.Split.systems pp
      (newDeserializer lib others (fun _ => "") limits.toResourceLimits) limits).verifyTransfer request action provider 0).isOk := by
    decide +kernel
  obtain ⟨spent, claims⟩ := is_ok_exists claimed
  obtain ⟨consumed, locks⟩ := is_ok_exists locked
  exact ⟨(transfer_metadata_exact lib others (fun _ => "") request Fabtoken.Swap.provider spent 1).1 Fabtoken.Swap.protobuf
      Fabtoken.Swap.pp defaultResourceLimits Fabtoken.Swap.claim claims,
    (transfer_metadata_exact lib others (fun _ => "") request provider consumed 0).2 _ _ _ _ _ issues (Zkatdlog.Split.oracle 5)
      Zkatdlog.Split.systems pp limits action locks⟩

end Counted

end Panurus.Htlc
