import Panurus.Core.Auditing
import Panurus.Fabtoken.Actions
import Panurus.Htlc.Script
import Panurus.Token.Quantity

namespace Panurus.Fabtoken

open Lib Outcome Text Core Driver Identity Token Quantity

def errIssuerNotAuthorized : String := "issuer is not authorized"

structure PublicParams where
  issuerIDs : List Identity
  auditor : Identity
  quantityPrecision : UInt64
deriving DecidableEq, Repr

def PublicParams.issuers (pp : PublicParams) : List Identity := pp.issuerIDs

def PublicParams.auditors (pp : PublicParams) : List Identity := if pp.auditor = [] then [] else [pp.auditor]

abbrev AnyAction := ActionValue IssueAction TransferAction

abbrev IssueContext := Context PublicParams Output IssueAction
abbrev TransferContext := Context PublicParams Output TransferAction

def validateIssuedQuantity (pp : PublicParams) (output : Option Output) : Outcome Unit := do
  let output ← required output "nil output in issue action"
  let q ← wrap s!"failed parsing quantity [{render output.quantity}]" (toQuantity output.quantity pp.quantityPrecision)
  ensure (q.cmp (zero pp.quantityPrecision) ≠ 0) "quantity is zero"

def issueValidate (limits : ResourceLimits) (ctx : IssueContext) : Outcome IssueContext := do
  let action := ctx.action
  wrap "failed validating issue action" (action.validate limits)
  ensure (action.outputs ≠ []) "there is no output"
  checkEach (fun _ => validateIssuedQuantity ctx.pp) 0 action.outputs
  ensure (ctx.pp.issuers = [] ∨ action.issuer ∈ ctx.pp.issuers) errIssuerNotAuthorized
  let verifier ← wrap s!"failed getting verifier for issuer identity [{ctx.deserializer.uniqueID action.issuer}]"
    (ctx.deserializer.getIssuerVerifier action.issuer)
  let (_, provider) ← wrap "failed verifying signature" (ctx.signatureProvider.hasBeenSignedBy verifier)
  return { ctx with signatureProvider := provider }

def transferActionValidate (limits : ResourceLimits) (ctx : TransferContext) : Outcome TransferContext := do
  ctx.action.validate limits
  return ctx

structure SignatureWalk where
  provider : Backend
  signatures : List Bytes
  inputTokens : List Output
  verifierCache : List (Identity × Option Verifier)

abbrev inputToken (input : Option TransferActionInput) : Option Output := input.bind TransferActionInput.input

-- The text of an error shows the owner; the pointers it shows as well are left out.
def signInput (deserializer : Deserializer) (index : Nat) (walk : SignatureWalk) (input : Option TransferActionInput) :
    Outcome SignatureWalk := do
  let tok ← required (inputToken input) s!"invalid input at index [{index}]: nil input or nil token"
  let verifier ← (match walk.verifierCache.lookup tok.owner with
    | some cached => .ok cached
    | none => wrap s!"failed deserializing owner [{index}][{deserializer.uniqueID tok.owner}]"
        (deserializer.getOwnerVerifier tok.owner))
  let (sigma, provider) ← wrap s!"failed signature verification [{deserializer.uniqueID tok.owner}]"
    (walk.provider.hasBeenSignedBy verifier)
  return {
    provider
    signatures := walk.signatures ++ [sigma]
    inputTokens := walk.inputTokens ++ [tok]
    verifierCache := (tok.owner, verifier) :: walk.verifierCache }

def findRedeem : Nat → List (Option Output) → Outcome Bool
  | _, [] => .ok false
  | index, none :: _ => .error s!"invalid output at index [{index}]"
  | index, some output :: tail => if output.isRedeem then .ok true else findRedeem (index + 1) tail

def signRedeem (pp : PublicParams) (deserializer : Deserializer) (action : TransferAction) (walk : SignatureWalk) :
    Outcome SignatureWalk :=
  if pp.issuers = [] then .ok walk else do
    let isRedeem ← findRedeem 0 action.outputs
    if isRedeem then do
      let issuer ← required action.issuer "On Redeem action, must have at least one issuer"
      ensure (issuer ∈ pp.issuers) errIssuerNotAuthorized
      let verifier ← wrap s!"failed deserializing issuer [{deserializer.uniqueID issuer}]" (deserializer.getIssuerVerifier issuer)
      let (sigma, provider) ← wrap s!"failed signature verification [{deserializer.uniqueID issuer}]"
        (walk.provider.hasBeenSignedBy verifier)
      return { walk with provider, signatures := walk.signatures ++ [sigma] }
    else return walk

def transferSignatureValidate (ctx : TransferContext) : Outcome TransferContext := do
  ensure (ctx.action.inputs ≠ []) "invalid number of token inputs, expected at least 1"
  let walk ← foldEach (signInput ctx.deserializer) 0
    { provider := ctx.signatureProvider, signatures := ctx.signatures, inputTokens := [], verifierCache := [] } ctx.action.inputs
  let walk ← signRedeem ctx.pp ctx.deserializer ctx.action walk
  return { ctx with
    signatureProvider := walk.provider
    signatures := walk.signatures
    inputTokens := walk.inputTokens }

def addQuantity (side : String) (pp : PublicParams) (typ : Bytes) (sum : Quantity) (tok : Output) : Outcome Quantity := do
  let q ← wrap s!"failed parsing quantity [{render tok.quantity}]" (toQuantity tok.quantity pp.quantityPrecision)
  let sum ← wrap s!"failed adding {side} quantity [{render tok.quantity}]" (sum.add q)
  ensure (tok.type = typ) s!"{side} type {render tok.type} does not match type {render typ}"
  return sum

def addOutputQuantity (pp : PublicParams) (typ : Bytes) (index : Nat) (sum : Quantity) (output : Option Output) :
    Outcome Quantity := do
  let out ← required output s!"invalid output at index [{index}]"
  addQuantity "output" pp typ sum out

def transferBalanceValidate (ctx : TransferContext) : Outcome TransferContext := do
  ensure (ctx.action.outputs ≠ []) "there is no output"
  let first ← required ctx.inputTokens.head? "there is no input"
  let typ := first.type
  let zero := zero ctx.pp.quantityPrecision
  let inputSum ← ctx.inputTokens.foldlM (addQuantity "input" ctx.pp typ) zero
  let outputSum ← foldEach (addOutputQuantity ctx.pp typ) 0 zero ctx.action.outputs
  ensure (inputSum.cmp outputSum = 0) s!"input sum {inputSum.toNat} does not match output sum {outputSum.toNat}"
  return ctx

def htlcInput (lib : Htlc.Libraries) (index : Nat) (ctx : TransferContext) (input : Output) : Outcome TransferContext := do
  let owner ← wrap "failed to unmarshal owner of input token" (unmarshalTypedIdentity input.owner)
  if owner.type = htlcScriptIdentityType then do
    ensure (ctx.inputTokens.length = 1 ∧ ctx.action.outputs.length = 1)
      "invalid transfer action: an htlc script only transfers the ownership of a token"
    let tok ← required ctx.action.outputs.head?.join "invalid transfer action: output has unexpected type"
    ensure (input.type = tok.type) "invalid transfer action: type of input does not match type of output"
    ensure (input.quantity = tok.quantity) "invalid transfer action: quantity of input does not match quantity of output"
    ensure (tok.isRedeem = false)
      "invalid transfer action: the output corresponding to an htlc spending should not be a redeem"
    let (script, op) ← wrap "failed to verify transfer from htlc script" (Htlc.verifyOwner lib input.owner tok.owner ctx.now)
    let sigma ← required ctx.signatures[index]? s!"missing signature for input at index [{index}]"
    let metadataKey ← wrap "failed to check htlc metadata"
      (Htlc.metadataClaimKeyCheck lib ctx.action.metadata script op sigma)
    return if op = .reclaim then ctx else ctx.countMetadataKey metadataKey
  else return ctx

def htlcOutput (lib : Htlc.Libraries) (index : Nat) (ctx : TransferContext) (output : Option Output) :
    Outcome TransferContext := do
  let out ← required output s!"invalid output at index [{index}]"
  if out.isRedeem then return ctx
  else Htlc.lockOutput lib (Htlc.unmarshalStrict lib.decodeScript) ctx.action.metadata ctx out.owner

def transferHTLCValidate (lib : Htlc.Libraries) (ctx : TransferContext) : Outcome TransferContext := do
  let ctx ← foldEach (htlcInput lib) 0 ctx ctx.inputTokens
  foldEach (htlcOutput lib) 0 ctx ctx.action.outputs

structure Protobuf where
  tokenRequest : Bytes → Outcome Driver.Proto.TokenRequest
  issueAction : Bytes → Outcome Proto.IssueAction
  transferAction : Bytes → Outcome Proto.TransferAction

def deserializeActions (protobuf : Protobuf) (limits : ResourceLimits) (request : TokenRequest) :
    Outcome (List (Option IssueAction) × List (Option TransferAction)) := do
  let issueActions ← request.getIssues.mapM (IssueAction.deserialize protobuf.issueAction limits)
  let transferActions ← request.getTransfers.mapM (TransferAction.deserialize protobuf.transferAction limits)
  return (issueActions.map some, transferActions.map some)

def transferValidators (limits : ResourceLimits) (lib : Htlc.Libraries) : List (Validate PublicParams Output TransferAction) :=
  [transferActionValidate limits,
    transferSignatureValidate,
    transferBalanceValidate,
    transferHTLCValidate lib,
    applicationDataValidate TransferAction.metadata]

def issueValidators (limits : ResourceLimits) : List (Validate PublicParams Output IssueAction) :=
  [issueValidate limits, applicationDataValidate IssueAction.metadata]

def newValidator (protobuf : Protobuf) (lib : Htlc.Libraries) (pp : PublicParams) (deserializer : Deserializer)
    (limits : ResourceLimits) : Validator PublicParams Output IssueAction TransferAction :=
  { publicParams := pp
    deserializer
    deserializeActions := deserializeActions protobuf limits
    issueMetadata := IssueAction.metadata
    transferMetadata := TransferAction.metadata
    auditingValidators := [auditingSignaturesValidate PublicParams.auditors]
    transferValidators := transferValidators limits lib
    issueValidators := issueValidators limits
    limits
    minProtocolVersion := 0 }

open List

def Denotes (precision : UInt64) (tok : Output) (number : Nat) : Prop :=
  setString tok.quantity = some (number : Int) ∧ number < 2 ^ precision.toNat

structure Balanced (precision : UInt64) (inputs outputs : List Output) (ins outs : List Nat) : Prop where
  oneType : ∀ tok ∈ inputs ++ outputs, ∀ other ∈ inputs ++ outputs, tok.type = other.type
  inputs : List.Forall₂ (Denotes precision) inputs ins
  outputs : List.Forall₂ (Denotes precision) outputs outs
  inputSum : ins.sum < 2 ^ precision.toNat
  outputSum : outs.sum < 2 ^ precision.toNat
  balance : ins.sum = outs.sum

section Sums

variable {side : String} {pp : PublicParams} {typ : Bytes}

theorem add_quantity_ok_iff {start : Nat} (fits : start < 2 ^ pp.quantityPrecision.toNat) {tok : Output} {sum : Quantity} :
    addQuantity side pp typ (of pp.quantityPrecision start) tok = .ok sum ↔
      Precise pp.quantityPrecision ∧ ∃ number, Denotes pp.quantityPrecision tok number ∧ tok.type = typ ∧
        start + number < 2 ^ pp.quantityPrecision.toNat ∧ of pp.quantityPrecision (start + number) = sum := by
  simp only [addQuantity, ok_iff, exists_const, to_quantity_ok_iff]
  constructor
  · rintro ⟨_, ⟨precise, number, read, below, rfl⟩, total, added, sameType, rfl⟩
    obtain ⟨bound, rfl⟩ := (add_of precise fits below).mp added
    exact ⟨precise, number, ⟨read, below⟩, sameType, bound, rfl⟩
  · rintro ⟨precise, number, ⟨read, below⟩, sameType, bound, rfl⟩
    exact ⟨_, ⟨precise, number, read, below, rfl⟩, _, (add_of precise fits below).mpr ⟨bound, rfl⟩, sameType, rfl⟩

theorem sum_quantities_ok_iff (precise : Precise pp.quantityPrecision) {toks : List Output} {start : Nat}
    (fits : start < 2 ^ pp.quantityPrecision.toNat) {sum : Quantity} :
    toks.foldlM (addQuantity side pp typ) (of pp.quantityPrecision start) = .ok sum ↔
      ∃ numbers, List.Forall₂ (Denotes pp.quantityPrecision) toks numbers ∧ (∀ tok ∈ toks, tok.type = typ) ∧
        start + numbers.sum < 2 ^ pp.quantityPrecision.toNat ∧ of pp.quantityPrecision (start + numbers.sum) = sum := by
  induction toks generalizing start with
  | nil =>
    simp only [foldlM_nil, pure_ok_iff, forall₂_nil_left_iff, exists_eq_left, sum_nil, Nat.add_zero]
    exact ⟨fun same => ⟨by simp, fits, same⟩, fun all => all.2.2⟩
  | cons tok rest ih =>
    rw [foldlM_cons, bind_ok_iff]
    constructor
    · rintro ⟨_, added, others⟩
      obtain ⟨_, number, denotes, sameType, bound, rfl⟩ := (add_quantity_ok_iff fits).mp added
      obtain ⟨numbers, each, types, total, rfl⟩ := (ih bound).mp others
      refine ⟨number :: numbers, .cons denotes each, by simpa [sameType] using types, ?_⟩
      rw [sum_cons, ← Nat.add_assoc]
      exact ⟨total, rfl⟩
    · rintro ⟨_, each, types, total, rfl⟩
      obtain ⟨number, numbers, denotes, others, rfl⟩ := forall₂_cons_left_iff.mp each
      rw [sum_cons, ← Nat.add_assoc] at total
      have bound := Nat.lt_of_le_of_lt (Nat.le_add_right _ _) total
      refine ⟨_, (add_quantity_ok_iff fits).mpr ⟨precise, number, denotes, types tok mem_cons_self, bound, rfl⟩,
        (ih bound).mpr ⟨numbers, others, fun other mem => types other (mem_cons_of_mem _ mem), total, ?_⟩⟩
      rw [sum_cons, Nat.add_assoc]

theorem output_quantities_ok_iff {outputs : List (Option Output)} {index : Nat} {start sum : Quantity} :
    foldEach (addOutputQuantity pp typ) index start outputs = .ok sum ↔
      ∃ toks : List Output, outputs = toks.map some ∧ toks.foldlM (addQuantity "output" pp typ) start = .ok sum := by
  induction outputs generalizing index start with
  | nil => simp [foldEach]
  | cons output rest ih =>
    simp only [foldEach, addOutputQuantity, ok_iff, ih]
    constructor
    · rintro ⟨next, ⟨tok, rfl, added⟩, toks, rfl, others⟩
      exact ⟨tok :: toks, rfl, by rw [foldlM_cons, bind_ok_iff]; exact ⟨next, added, others⟩⟩
    · rintro ⟨toks, same, others⟩
      obtain ⟨tok, toks, rfl, rfl, rfl⟩ := map_eq_cons_iff.mp same.symm
      rw [foldlM_cons, bind_ok_iff] at others
      obtain ⟨next, added, others⟩ := others
      exact ⟨next, ⟨tok, rfl, added⟩, toks, rfl, others⟩

end Sums

theorem transfer_balance_ok_iff (ctx : TransferContext) :
    transferBalanceValidate ctx = .ok ctx ↔
      ctx.action.outputs ≠ [] ∧ ∃ first, ctx.inputTokens.head? = some first ∧ ∃ inputSum outputSum,
        ctx.inputTokens.foldlM (addQuantity "input" ctx.pp first.type) (zero ctx.pp.quantityPrecision) = .ok inputSum ∧
        foldEach (addOutputQuantity ctx.pp first.type) 0 (zero ctx.pp.quantityPrecision) ctx.action.outputs =
          .ok outputSum ∧ inputSum.toNat = outputSum.toNat := by
  simp only [transferBalanceValidate, ok_iff, exists_const, and_true, cmp_eq_zero_iff, exists_and_left]

theorem first_precise {side : String} {pp : PublicParams} {typ : Bytes} {first : Output} {rest : List Output} {sum : Quantity}
    (summed : (first :: rest).foldlM (addQuantity side pp typ) (zero pp.quantityPrecision) = .ok sum) :
    Precise pp.quantityPrecision := by
  rw [foldlM_cons, bind_ok_iff] at summed
  obtain ⟨_, added, _⟩ := summed
  exact ((add_quantity_ok_iff (Nat.two_pow_pos _)).mp added).1

theorem transfer_balance_exact (ctx : TransferContext) :
    transferBalanceValidate ctx = .ok ctx ↔ Precise ctx.pp.quantityPrecision ∧ ctx.inputTokens ≠ [] ∧ ctx.action.outputs ≠ [] ∧
        ∃ outputs ins outs, ctx.action.outputs = outputs.map some ∧
          Balanced ctx.pp.quantityPrecision ctx.inputTokens outputs ins outs := by
  rw [transfer_balance_ok_iff]
  cases tokens : ctx.inputTokens with
  | nil => simp
  | cons first rest =>
    simp only [List.head?_cons, Option.some.injEq, exists_eq_left', output_quantities_ok_iff, ← of_zero]
    have none : 0 < 2 ^ ctx.pp.quantityPrecision.toNat := Nat.two_pow_pos _
    constructor
    · rintro ⟨some, inputSum, outputSum, inputs, ⟨outputs, same, summed⟩, equal⟩
      have precise := first_precise inputs
      obtain ⟨ins, eachIn, typesIn, boundIn, rfl⟩ := (sum_quantities_ok_iff precise none).mp inputs
      obtain ⟨outs, eachOut, typesOut, boundOut, rfl⟩ := (sum_quantities_ok_iff precise none).mp summed
      rw [of_to_nat boundIn, of_to_nat boundOut] at equal
      rw [Nat.zero_add] at boundIn boundOut equal
      have types : ∀ tok ∈ first :: rest ++ outputs, tok.type = first.type := by
        intro tok mem
        exact (mem_append.mp mem).elim (typesIn tok) (typesOut tok)
      refine ⟨precise, by simp, some, outputs, ins, outs, same, ?_, eachIn, eachOut, boundIn, boundOut, by simpa using equal⟩
      exact fun tok mem other mem' => (types tok mem).trans (types other mem').symm
    · rintro ⟨precise, -, some, outputs, ins, outs, same, balanced⟩
      have types : ∀ tok ∈ first :: rest ++ outputs, tok.type = first.type :=
        fun tok mem => balanced.oneType tok mem first (by simp)
      have boundIn : 0 + ins.sum < 2 ^ ctx.pp.quantityPrecision.toNat := by simpa using balanced.inputSum
      have boundOut : 0 + outs.sum < 2 ^ ctx.pp.quantityPrecision.toNat := by simpa using balanced.outputSum
      let sum := fun numbers : List Nat => of ctx.pp.quantityPrecision (0 + numbers.sum)
      refine ⟨some, sum ins, sum outs, ?_, ⟨outputs, same, ?_⟩, ?_⟩
      · exact (sum_quantities_ok_iff precise none).mpr
          ⟨ins, balanced.inputs, fun tok mem => types tok (mem_append_left _ mem), boundIn, rfl⟩
      · exact (sum_quantities_ok_iff precise none).mpr
          ⟨outs, balanced.outputs, fun tok mem => types tok (mem_append_right _ mem), boundOut, rfl⟩
      · rw [of_to_nat boundIn, of_to_nat boundOut, balanced.balance]

namespace Refused

def context (precision : UInt64) (inputTokens : List Output) (outputs : List (Option Output)) : TransferContext :=
  { pp := { issuerIDs := [], auditor := [], quantityPrecision := precision }
    tokenRequest := { version := 1, actions := [], signatures := [] }
    deserializer :=
      { uniqueID := fun _ => ""
        getOwnerVerifier := fun _ => .error ""
        getIssuerVerifier := fun _ => .error ""
        getAuditorVerifier := fun _ => .error "" }
    signatureProvider := { message := [], cursor := 0, sigs := [], clock := fun _ _ => 0 }
    signatures := []
    inputTokens
    action := { inputs := [], outputs, metadata := [], issuer := none }
    metadataCounter := []
    now := 0 }

def nothing : Output := { owner := [1], type := [0x54], quantity := ascii "0" }

def wide : UInt64 := 0x8000000000000000

theorem nothing_denotes (precision : UInt64) : Denotes precision nothing 0 := ⟨by decide, Nat.two_pow_pos _⟩

-- A token of quantity zero with no output, and one of quantity zero passed on at a precision that is no signed integer.
theorem balanced_refused :
    (Balanced 64 [nothing] [] [0] [] ∧ transferBalanceValidate (context 64 [nothing] []) = .error "there is no output") ∧
    Balanced wide [nothing] [nothing] [0] [0] ∧
      ∃ reason, transferBalanceValidate (context wide [nothing] [some nothing]) = .error reason := by
  refine ⟨⟨?_, by rfl⟩, ?_, ?_⟩
  · exact ⟨by decide, .cons (nothing_denotes 64) .nil, .nil, Nat.two_pow_pos _, Nat.two_pow_pos _, rfl⟩
  · have denotes := nothing_denotes wide
    exact ⟨by decide, .cons denotes .nil, .cons denotes .nil, Nat.two_pow_pos _, Nat.two_pow_pos _, rfl⟩
  · exact ⟨_, by rfl⟩

end Refused

end Panurus.Fabtoken
