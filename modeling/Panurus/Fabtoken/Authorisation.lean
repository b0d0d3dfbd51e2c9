import Mathlib.Algebra.BigOperators.Fin
import Panurus.Fabtoken.Balance

namespace Panurus.Fabtoken

open List Lib Outcome Core Driver

def signaturesCarrying (request : TokenRequest) (actionID : Nat) : List Bytes :=
  request.signatures.filterMap fun signature =>
    signature.action.bind fun action => if action.actionID.toNat = actionID then some action.signature else none

def DeserializedBy (protobuf : Protobuf) (limits : ResourceLimits) : TypedAction → AnyAction → Prop :=
  Deserialized (fun raw action => IssueAction.deserialize protobuf.issueAction limits raw = .ok action)
    (fun raw action => TransferAction.deserialize protobuf.transferAction limits raw = .ok action)

structure SignedByAll (pp : PublicParams) (deserializer : Deserializer) (message : Bytes) (sigs : List Bytes)
    (clock : Nat → Readings) (value : AnyAction) : Prop where
  count : sigs.length = (requiredSigners pp value).length
  verified : ∀ (k : Nat) (signer : Signer), (requiredSigners pp value)[k]? = some signer → ∃ sigma verifier,
    sigs[k]? = some sigma ∧ signer.verifier deserializer = .ok (some verifier) ∧
      verifier (clock k) message sigma = .ok ()

def Assigned (request : TokenRequest) (signature : RequestSignature) : Prop :=
  (signature.action = none ∧ ∃ auditor, signature.auditor = some auditor) ∨
  (signature.auditor = none ∧ ∃ action, signature.action = some action ∧ action.actionID.toNat < request.actions.length)

structure ScopedAuthorisation (protobuf : Protobuf) (pp : PublicParams) (deserializer : Deserializer) (limits : ResourceLimits)
    (clock : Clock) (anchor raw : Bytes) (values : List AnyAction) (request : TokenRequest) (message : Bytes) : Prop where
  parsed : TokenRequest.fromBytes protobuf.tokenRequest raw = .ok request
  marshalled : request.marshalToMessageToSign anchor = .ok message
  returned : values.length = request.actions.length
  actions : ∀ i entry value, request.actions[i]? = some entry → values[i]? = some value →
    DeserializedBy protobuf limits entry value ∧
    SignedByAll pp deserializer message (signaturesCarrying request i) (clock.signing (UInt32.ofNat i)) value
  audited : ∀ k signature, (auditorSignatures request)[k]? = some signature →
    AuditorSigned pp.auditors deserializer message (clock.auditorSigning k) signature
  assigned : ∀ signature ∈ request.signatures, Assigned request signature
  consumed : request.signatures.length =
    (auditorSignatures request).length + (values.map fun value => (requiredSigners pp value).length).sum

theorem reads_actions (protobuf : Protobuf) (lib : Htlc.Libraries) (pp : PublicParams) (deserializer : Deserializer)
    (limits : ResourceLimits) (version : UInt32) :
    Reads ((newValidator protobuf lib pp deserializer limits).setMinProtocolVersion version)
      (fun raw action => IssueAction.deserialize protobuf.issueAction limits raw = .ok action)
      (fun raw action => TransferAction.deserialize protobuf.transferAction limits raw = .ok action) := by
  intro request issues transfers done
  simp only [Validator.setMinProtocolVersion, newValidator, deserializeActions, ok_iff, Prod.mk.injEq] at done
  obtain ⟨issueActions, issuesRead, transferActions, transfersRead, rfl, rfl⟩ := done
  simp only [forall₂_map_right_iff, Option.some.injEq, exists_eq_left']
  exact ⟨mapM_ok_iff.mp issuesRead, mapM_ok_iff.mp transfersRead⟩

def Single (signature : RequestSignature) : Prop :=
  (signature.action = none ∧ ∃ auditor, signature.auditor = some auditor) ∨
  (signature.auditor = none ∧ ∃ action, signature.action = some action)

theorem parsed_single {unmarshal : Bytes → Outcome Driver.Proto.TokenRequest} {raw : Bytes} {request : TokenRequest}
    (parsed : TokenRequest.fromBytes unmarshal raw = .ok request) : ∀ signature ∈ request.signatures, Single signature := by
  simp only [TokenRequest.fromBytes, TokenRequest.fromProtos, ok_iff] at parsed
  obtain ⟨message, _, _, _, actions, _, signatures, converted, _, _, rfl⟩ := parsed
  intro signature mem
  obtain ⟨entry, _, read⟩ := mapM_ok_mem converted mem
  simp only [signatureFromProtos, ok_iff] at read
  obtain ⟨source, _, result, known, _, _, _, _, rfl⟩ := read
  cases source with
  | actionSignature actionId signature =>
    rw [RequestSignature.fromProtos, Except.ok.injEq] at known
    subst known
    exact .inr ⟨rfl, _, rfl⟩
  | auditorSignature identity signature =>
    rw [RequestSignature.fromProtos, Except.ok.injEq] at known
    subst known
    exact .inl ⟨rfl, _, rfl⟩
  | unset => simp [RequestSignature.fromProtos] at known

section Grouping

variable {request : TokenRequest}

theorem carrying_eq_by_id (single : ∀ signature ∈ request.signatures, Single signature) {i : Nat} (small : i < 2 ^ 32) :
    signaturesCarrying request i = actionSignaturesByID request (UInt32.ofNat i) := by
  apply filterMap_congr
  intro signature mem
  rcases single signature mem with ⟨noAction, auditor, audited⟩ | ⟨noAuditor, action, acted⟩
  · simp [noAction]
  · have same : action.actionID.toNat = i ↔ action.actionID = UInt32.ofNat i := by
      rw [← UInt32.toNat_inj, UInt32.toNat_ofNat_of_lt' small]
    simp [noAuditor, acted, same]

theorem signatures_split (single : ∀ signature ∈ request.signatures, Single signature) :
    request.signatures.length = (auditorSignatures request).length + (actionSignatures request).length := by
  unfold auditorSignatures actionSignatures
  generalize request.signatures = signatures at single
  induction signatures with
  | nil => rfl
  | cons signature tail ih =>
    have rest := ih fun other mem => single other (mem_cons_of_mem _ mem)
    rcases single signature mem_cons_self with ⟨noAction, auditor, audited⟩ | ⟨noAuditor, action, acted⟩
    · simp [audited]
      omega
    · simp [noAuditor, acted]
      omega

end Grouping

theorem auditing_verified {protobuf : Protobuf} {lib : Htlc.Libraries} {pp : PublicParams} {deserializer : Deserializer}
    {limits : ResourceLimits} {version : UInt32} {request : TokenRequest} {message : Bytes} {clock : Nat → Readings}
    {now : Int} {consumed : Backend}
    (done : ((newValidator protobuf lib pp deserializer limits).setMinProtocolVersion version).verifyAuditing request
      (Backend.new message ((auditorSignatures request).map AuditorSignature.signature) clock) now = .ok consumed) :
    ∀ k signature, (auditorSignatures request)[k]? = some signature →
      AuditorSigned pp.auditors deserializer message (clock k) signature := by
  simp only [Validator.verifyAuditing, runValidators, Validator.setMinProtocolVersion, newValidator, foldlM_cons,
    foldlM_nil, ok_iff] at done
  obtain ⟨_, ⟨next, audited, rfl⟩, _⟩ := done
  exact (auditing_ok rfl audited).2

theorem scoped_authorisation (protobuf : Protobuf) (lib : Htlc.Libraries) (pp : PublicParams) (deserializer : Deserializer)
    (limits : ResourceLimits) (version : UInt32) (clock : Clock) (anchor raw : Bytes)
    (values : List AnyAction) (attributes : ValidationAttributes)
    (accepted : ((newValidator protobuf lib pp deserializer limits).setMinProtocolVersion version).verifyTokenRequestFromRaw
      protobuf.tokenRequest clock anchor raw = .ok (values, attributes)) :
    ∃ request message, ScopedAuthorisation protobuf pp deserializer limits clock anchor raw values request message := by
  obtain ⟨request, message, all⟩ := verify_token_request_accepted
    (reads_actions protobuf lib pp deserializer limits version) (fun _ _ _ _ done => (verified_action_ok done).1) accepted
  have single := parsed_single all.parsed
  have count : values.length = request.actions.length := by
    rw [← all.authorised.length_eq, length_zipIdx]
  have group : ∀ i value, values[i]? = some value →
      (actionSignaturesByID request (UInt32.ofNat i)).length = (requiredSigners pp value).length := by
    intro i value found
    obtain ⟨bound, rfl⟩ := List.getElem?_eq_some_iff.mp found
    obtain ⟨_, verifiers, needed, exactly⟩ := all.authorised.get (by rw [length_zipIdx]; omega) bound
    simp only [get_eq_getElem, getElem_zipIdx, Nat.zero_add] at needed exactly
    rw [exactly.count, needed.length_eq]
  refine ⟨request, message, all.parsed, all.marshalled, count, ?_, ?_, ?_, ?_⟩
  · intro i entry value entryAt valueAt
    obtain ⟨bound, rfl⟩ := List.getElem?_eq_some_iff.mp valueAt
    obtain ⟨bound', rfl⟩ := List.getElem?_eq_some_iff.mp entryAt
    obtain ⟨deserialized, verifiers, needed, exactly⟩ := all.authorised.get (by rwa [length_zipIdx]) bound
    simp only [get_eq_getElem, getElem_zipIdx, Nat.zero_add] at deserialized needed exactly
    have small : i < 2 ^ 32 := lt_of_lt_of_le bound' all.bound
    refine ⟨deserialized, ?_, ?_⟩
    · rw [carrying_eq_by_id single small]
      exact group i _ valueAt
    · intro k signer asked
      obtain ⟨place, rfl⟩ := List.getElem?_eq_some_iff.mp asked
      have place' : k < verifiers.length := needed.length_eq ▸ place
      obtain ⟨sigma, taken, checked⟩ := exactly.verified k _ (getElem?_eq_getElem place')
      refine ⟨sigma, verifiers[k], ?_, needed.get place place', checked⟩
      rwa [carrying_eq_by_id single small]
  · obtain ⟨consumed, audited, _⟩ := all.audited
    exact auditing_verified audited
  · intro signature mem
    rcases single signature mem with audited | ⟨noAuditor, action, acted⟩
    · exact .inl audited
    · refine .inr ⟨noAuditor, action, acted, all.known action ?_⟩
      exact mem_filterMap.mpr ⟨signature, mem, by simp [noAuditor, acted]⟩
  · rw [signatures_split single, grouped_count all.bound all.known, ← count, Finset.sum_range, ← sum_ofFn,
      Nat.add_left_cancel_iff]
    congr 1
    apply ext_getElem
    · simp
    · intro i _ bound
      rw [length_map] at bound
      simpa using group i values[i] (getElem?_eq_getElem bound)

section Octets

open Driver.Proto (field scalar varint decodeAmong)

namespace Proto

def Token.octets (token : Token) : Bytes := scalar 1 token.owner ++ scalar 2 token.type ++ scalar 3 token.quantity

def ActionOutput.octets (output : ActionOutput) : Bytes := output.token.elim [] fun token => field 1 token.octets

def Identity.octets (identity : Identity) : Bytes := identity.raw.elim [] (scalar 1)

def TransferActionInput.octets (input : TransferActionInput) : Bytes :=
  (input.tokenId.elim [] fun id => field 1 (scalar 1 id.txId ++ varint 2 id.index.toUInt32)) ++
    input.input.elim [] fun token => field 2 token.octets

def metadataOctets (entry : Bytes × Bytes) : Bytes := field 1 entry.1 ++ field 2 entry.2

def IssueAction.octets (action : IssueAction) : Bytes :=
  varint 1 action.version ++ (action.issuer.elim [] fun issuer => field 2 issuer.octets) ++
    (action.outputs.flatMap fun output => field 4 (output.elim [] ActionOutput.octets)) ++
    action.metadata.flatMap fun entry => field 5 (metadataOctets entry)

def TransferAction.octets (action : TransferAction) : Bytes :=
  varint 1 action.version ++ (action.inputs.flatMap fun input => field 2 input.octets) ++
    (action.outputs.flatMap fun output => field 3 (output.elim [] ActionOutput.octets)) ++
    (action.metadata.flatMap fun entry => field 4 (metadataOctets entry)) ++
    action.issuer.elim [] fun issuer => field 5 issuer.octets

end Proto

def Protobuf.among (requests : List Driver.Proto.TokenRequest) (issues : List Proto.IssueAction)
    (transfers : List Proto.TransferAction) : Protobuf :=
  { tokenRequest := decodeAmong Driver.Proto.TokenRequest.octets requests
    issueAction := decodeAmong Proto.IssueAction.octets issues
    transferAction := decodeAmong Proto.TransferAction.octets transfers }

end Octets

namespace RedeemAndIssue

def signedWith (sigma : UInt8) : Verifier := fun _ _ given => ensure (given = [sigma]) "invalid signature"

def deserializer : Deserializer :=
  { uniqueID := fun _ => ""
    getOwnerVerifier := fun _ => .ok (some (signedWith 1))
    getIssuerVerifier := fun _ => .ok (some (signedWith 2))
    getAuditorVerifier := fun _ => .ok (some (signedWith 3)) }

def pp : PublicParams := { issuerIDs := [[7]], auditor := [8], quantityPrecision := 64 }

def libraries : Htlc.Libraries :=
  { hashable := fun _ => "", hash := fun _ => none, decodeScript := fun _ => .error "", decodeClaim := fun _ => .error "" }

def redeemed : Proto.Token :=
  { owner := [0x30, 0x06, 0x02, 0x01, 0x02, 0x04, 0x01, 0xAA], type := [0x54], quantity := [0x35] }

def redeem : Proto.TransferAction :=
  { version := 1
    inputs := [{ tokenId := some ⟨[0x61], 0⟩, input := some redeemed }]
    outputs := [some ⟨some { redeemed with owner := [] }⟩]
    metadata := []
    issuer := some ⟨some [7]⟩ }

def issue : Proto.IssueAction :=
  { version := 1, issuer := some ⟨some [7]⟩, outputs := [some ⟨some { redeemed with owner := [5] }⟩], metadata := [] }

def sent : Driver.Proto.TokenRequest :=
  { version := 1
    actions := [some (.typedAction .transfer redeem.octets), some (.typedAction .issue issue.octets)]
    signatures :=
      [some (.auditorSignature (some [8]) (some [3])),
        some (.actionSignature 1 (some [2])),
        some (.actionSignature 0 (some [1])),
        some (.actionSignature 0 (some [2]))] }

def protobuf : Protobuf := .among [sent] [issue] [redeem]

def clock : Clock :=
  { auditorSigning := fun _ _ => 0, auditing := 0, signing := fun _ _ _ => 0, validation := fun _ => 0 }

def values : List AnyAction :=
  [.transfer
      { inputs := [some { id := some ⟨[0x61], 0⟩, input := some (Output.fromProto redeemed) }]
        outputs := [some (Output.fromProto { redeemed with owner := [] })]
        metadata := []
        issuer := some [7] },
    .issue { issuer := [7], outputs := [some (Output.fromProto { redeemed with owner := [5] })], metadata := [] }]

def attributes : ValidationAttributes :=
  { tokenRequestToSign := fastMarshalSignatureMessageV1
      (fastMarshalTokenRequestForSigning [⟨.transfer, redeem.octets⟩, ⟨.issue, issue.octets⟩]) [0x74]
    tokenRequestSignatures := marshalSignatures [[3], [2], [1], [2]] }

theorem redeem_and_issue_authorised : ∃ request message,
    ScopedAuthorisation protobuf pp deserializer defaultResourceLimits clock [0x74] sent.octets values request message :=
  scoped_authorisation protobuf libraries pp deserializer defaultResourceLimits 0 clock [0x74] sent.octets values attributes
    (by decide +kernel)

end RedeemAndIssue

end Panurus.Fabtoken
