import Panurus.Core.ScopedSignatures

namespace Panurus.Core

open List Lib Outcome Text Driver

variable {P T A : Type} {ctx next : Context P T A} {auditors : P → List Identity}

def publicMetadataPrefix : Bytes := ascii "pub."

-- The same body for issues and transfers: keys of the public namespace are counted, whatever they hold.
def applicationDataValidate (metadata : A → Entries) (ctx : Context P T A) : Outcome (Context P T A) :=
  .ok ((metadata ctx.action).foldl (fun ctx entry =>
    if publicMetadataPrefix.isPrefixOf entry.1 then ctx.countMetadataKey entry.1 else ctx) ctx)

def validateAuditor (auditors : P → List Identity) (ctx : Context P T A) (auditorSignature : AuditorSignature) :
    Outcome (Context P T A) := do
  let auditor := auditorSignature.identity
  ensure (auditor ∈ auditors ctx.pp) s!"auditor [{ctx.deserializer.uniqueID auditor}] is not in auditors"
  let verifier ← wrap "failed to deserialize auditor's public key" (ctx.deserializer.getAuditorVerifier auditor)
  let (_, provider) ← wrap "failed to verify auditor's signature" (ctx.signatureProvider.hasBeenSignedBy verifier)
  return { ctx with signatureProvider := provider }

def auditingSignaturesValidate (auditors : P → List Identity) (ctx : Context P T A) : Outcome (Context P T A) :=
  let signatures := auditorSignatures ctx.tokenRequest
  if auditors ctx.pp = [] then do
    ensure (signatures = []) errAuditorSignaturesPresent
    return ctx
  else do
    ensure (signatures ≠ []) errAuditorSignaturesMissing
    signatures.foldlM (validateAuditor auditors) ctx

def Counts (ctx next : Context P T A) : Prop :=
  ∃ keys, next = { ctx with metadataCounter := ctx.metadataCounter ++ keys }

theorem counts_refl (ctx : Context P T A) : Counts ctx ctx := ⟨[], by simp⟩

theorem counts_key (ctx : Context P T A) (key : Bytes) : Counts ctx (ctx.countMetadataKey key) := ⟨[key], rfl⟩

theorem counts_trans {middle : Context P T A} (first : Counts ctx middle) (second : Counts middle next) : Counts ctx next := by
  obtain ⟨keys, rfl⟩ := first
  obtain ⟨more, rfl⟩ := second
  exact ⟨keys ++ more, by simp⟩

theorem fold_counts {α : Type} {step : Nat → Context P T A → α → Outcome (Context P T A)} {items : List α}
    (each : ∀ index ctx next item, step index ctx item = .ok next → Counts ctx next)
    (done : foldEach step 0 ctx items = .ok next) : Counts ctx next :=
  fold_each_invariant (fun _ state => Counts ctx state)
    (fun _ _ _ _ before stepped => counts_trans before (each _ _ _ _ stepped)) (counts_refl ctx) done

theorem application_data_counts {metadata : A → Entries}
    (done : applicationDataValidate metadata ctx = .ok next) : Counts ctx next := by
  simp only [applicationDataValidate, Except.ok.injEq] at done
  subst done
  induction metadata ctx.action using reverseRecOn with
  | nil => exact counts_refl ctx
  | append_singleton front entry ih =>
    rw [foldl_append, foldl_cons]
    by_cases counted : publicMetadataPrefix.isPrefixOf entry.1
    · rw [if_pos counted]
      exact counts_trans ih (counts_key _ _)
    · rwa [if_neg counted]

def AuditorSigned (auditors : List Identity) (deserializer : Deserializer) (message : Bytes) (readings : Readings)
    (signature : AuditorSignature) : Prop :=
  signature.identity ∈ auditors ∧ ∃ verifier, deserializer.getAuditorVerifier signature.identity = .ok (some verifier) ∧
    verifier readings message signature.signature = .ok ()

theorem validate_auditor_ok {signature : AuditorSignature} (done : validateAuditor auditors ctx signature = .ok next) :
    signature.identity ∈ auditors ctx.pp ∧ next.pp = ctx.pp ∧ next.deserializer = ctx.deserializer ∧
    ∃ verifier, ctx.deserializer.getAuditorVerifier signature.identity = .ok (some verifier) ∧
      Signed ctx.signatureProvider [verifier] next.signatureProvider := by
  simp only [validateAuditor, ok_iff, Prod.exists, exists_const] at done
  obtain ⟨configured, verifier, deserialized, sigma, provider, signing, rfl⟩ := done
  obtain ⟨found, rfl, signed, _⟩ := has_been_signed_by_ok signing
  exact ⟨configured, rfl, rfl, found, deserialized, signed⟩

theorem validate_auditors_ok {signatures : List AuditorSignature}
    (done : signatures.foldlM (validateAuditor auditors) ctx = .ok next) :
    ∃ verifiers, Signed ctx.signatureProvider verifiers next.signatureProvider ∧
      List.Forall₂ (fun signature verifier => signature.identity ∈ auditors ctx.pp ∧
        ctx.deserializer.getAuditorVerifier signature.identity = .ok (some verifier)) signatures verifiers := by
  induction signatures generalizing ctx with
  | nil =>
    obtain rfl : ctx = next := by simpa only [foldlM_nil, pure_ok_iff] using done
    exact ⟨[], signed_nil _, .nil⟩
  | cons signature tail ih =>
    rw [foldlM_cons, bind_ok_iff] at done
    obtain ⟨middle, first, rest⟩ := done
    obtain ⟨configured, samePP, sameDeserializer, verifier, deserialized, signed⟩ := validate_auditor_ok first
    obtain ⟨verifiers, others, all⟩ := ih rest
    rw [samePP, sameDeserializer] at all
    exact ⟨verifier :: verifiers, signed_append signed others, .cons ⟨configured, deserialized⟩ all⟩

theorem auditing_ok {message : Bytes} {clock : Nat → Readings} (made : ctx.signatureProvider =
      Backend.new message ((auditorSignatures ctx.tokenRequest).map AuditorSignature.signature) clock)
    (done : auditingSignaturesValidate auditors ctx = .ok next) :
    (auditors ctx.pp = [] ↔ auditorSignatures ctx.tokenRequest = []) ∧
    ∀ k signature, (auditorSignatures ctx.tokenRequest)[k]? = some signature →
      AuditorSigned (auditors ctx.pp) ctx.deserializer message (clock k) signature := by
  unfold auditingSignaturesValidate at done
  by_cases unaudited : auditors ctx.pp = []
  · simp only [if_pos unaudited, ok_iff, exists_const] at done
    exact ⟨⟨fun _ => done.1, fun _ => unaudited⟩, by simp [done.1]⟩
  · simp only [if_neg unaudited, ok_iff, exists_const] at done
    obtain ⟨present, run⟩ := done
    refine ⟨⟨fun none => absurd none unaudited, fun none => absurd none present⟩, ?_⟩
    intro k signature found
    obtain ⟨verifiers, signed, all⟩ := validate_auditors_ok run
    obtain ⟨bound, rfl⟩ := List.getElem?_eq_some_iff.mp found
    have bound' : k < verifiers.length := all.length_eq ▸ bound
    obtain ⟨configured, deserialized⟩ := all.get bound bound'
    obtain ⟨sigma, taken, checked⟩ := signed.verified k _ (List.getElem?_eq_getElem bound')
    rw [made] at taken checked
    simp only [Backend.new, Nat.zero_add, getElem?_map, found, Option.map_some, Option.some.injEq] at taken checked
    exact ⟨configured, _, deserialized, taken ▸ checked⟩

theorem by_id_eq_filter (request : TokenRequest) (actionID : UInt32) :
    actionSignaturesByID request actionID =
      ((actionSignatures request).filter fun action => action.actionID = actionID).map ActionSignature.signature := by
  unfold actionSignaturesByID actionSignatures
  induction request.signatures with
  | nil => rfl
  | cons signature tail ih =>
    rw [filterMap_cons, filterMap_cons, ih]
    cases signature.auditor with
    | some auditor => simp
    | none =>
      cases signature.action with
      | none => simp
      | some action =>
        by_cases same : action.actionID = actionID
        · simp [same]
        · simp [same]

theorem grouped_count {request : TokenRequest} (bound : request.actions.length ≤ 2 ^ 32)
    (known : ∀ action ∈ actionSignatures request, action.actionID.toNat < request.actions.length) :
    (actionSignatures request).length =
      ∑ i ∈ Finset.range request.actions.length, (actionSignaturesByID request (UInt32.ofNat i)).length := by
  simp only [by_id_eq_filter, length_map]
  generalize actionSignatures request = signatures at known
  induction signatures with
  | nil => simp
  | cons action tail ih =>
    have inside := known action (by simp)
    have here : ∀ i ∈ Finset.range request.actions.length,
        ((action :: tail).filter fun other => other.actionID = UInt32.ofNat i).length =
          (tail.filter fun other => other.actionID = UInt32.ofNat i).length + if i = action.actionID.toNat then 1 else 0 := by
      intro i mem
      have small : i < 2 ^ 32 := lt_of_lt_of_le (Finset.mem_range.mp mem) bound
      by_cases same : i = action.actionID.toNat
      · subst same
        simp
      · have other : action.actionID ≠ UInt32.ofNat i := by
          intro equal
          exact same (by rw [equal, UInt32.toNat_ofNat_of_lt' small])
        simp [other, same]
    rw [Finset.sum_congr rfl here, Finset.sum_add_distrib, ← ih fun other mem => known other (by simp [mem])]
    simp [inside]

end Panurus.Core
