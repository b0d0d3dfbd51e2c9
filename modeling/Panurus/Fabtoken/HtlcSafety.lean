import Panurus.Fabtoken.SignatureSteps

namespace Panurus.Fabtoken

open List Lib Outcome Core Driver Identity

variable {input : Output} {si : TypedIdentity} {verifier : Verifier} {action : TransferAction} {toks : List Output}

section Spending

variable (lib : Htlc.Libraries) (others : Int32 → List TypedDeserializer)

def StandsFor (id : Identity) (verifier : Verifier) : Prop :=
  ∃ levels n, deserializeVerifier (Htlc.typedDeserializers lib others) levels n id = .ok verifier

def Claimed (script : Htlc.Script) (output : Output) (metadata : Entries) (message sigma : Bytes) : Prop :=
  output.owner = script.recipient ∧ ∃ claim recipient readings,
    Htlc.unmarshal lib.decodeClaim sigma = .ok claim ∧ StandsFor lib others script.recipient recipient ∧
    recipient readings (Htlc.concatTokenRequestTxIDPreimage message claim.preimage) claim.recipientSignature = .ok () ∧
    script.hashInfo.image lib claim.preimage = .ok script.hashInfo.hash ∧
    metadata.lookup (Htlc.claimKey script.hashInfo.hash) = some claim.preimage

def Reclaimed (script : Htlc.Script) (output : Output) (message sigma : Bytes) : Prop :=
  output.owner = script.sender ∧ ∃ sender readings,
    StandsFor lib others script.sender sender ∧ sender readings message sigma = .ok ()

def SignatureAccepted (script : Htlc.Script) (reading : Int) (message sigma : Bytes) : Htlc.OperationType → Prop
  | .claim => reading < script.deadline ∧ ∃ recipient readings, StandsFor lib others script.recipient recipient ∧
      Htlc.claimVerify lib recipient script.hashInfo readings message sigma = .ok ()
  | .reclaim => script.deadline ≤ reading ∧ ∃ sender readings, StandsFor lib others script.sender sender ∧
      sender readings message sigma = .ok ()

def SpentAs (script : Htlc.Script) (input output : Output) (metadata : Entries) (signing validation : Int)
    (message sigma : Bytes) (op : Htlc.OperationType) : Prop :=
  SignatureAccepted lib others script signing message sigma op ∧
  Htlc.verifyOwner lib input.owner output.owner validation = .ok (script, op) ∧
  match op with
  | .claim => Claimed lib others script output metadata message sigma
  | .reclaim => Reclaimed lib others script output message sigma

end Spending

section Accepted

variable {lib : Htlc.Libraries} {others : Int32 → List TypedDeserializer} {script : Htlc.Script} {output : Output}
  {metadata : Entries} {message sigma key : Bytes}

theorem claimed_of_accepted {reading : Int} (accepted : SignatureAccepted lib others script reading message sigma .claim)
    (owned : script.recipient = output.owner) (published : Htlc.metadataClaimKeyCheck lib metadata script .claim sigma = .ok key)
    : Claimed lib others script output metadata message sigma := by
  obtain ⟨_, recipient, readings, stands, verified⟩ := accepted
  simp only [Htlc.claimVerify, ok_iff] at verified
  obtain ⟨claim, lax, _, signed, image, imaged, same⟩ := verified
  simp only [Htlc.metadataClaimKeyCheck, reduceCtorEq, if_false, ok_iff, exists_const] at published
  obtain ⟨claim', strict, _, _, image', imaged', value, found, rfl, _⟩ := published
  obtain rfl := Htlc.unmarshal_agree lax strict
  obtain rfl : image = image' := Except.ok.inj (imaged.symm.trans imaged')
  subst same
  exact ⟨owned.symm, claim, recipient, readings, lax, stands, signed, imaged, found⟩

theorem spent_as_iff {signing validation : Int} {op op' : Htlc.OperationType}
    (accepted : SignatureAccepted lib others script signing message sigma op')
    (owned : Htlc.verifyOwner lib input.owner output.owner validation = .ok (script, op))
    (owner : (op = .claim ∧ validation < script.deadline ∧ script.recipient = output.owner) ∨
      (op = .reclaim ∧ script.deadline ≤ validation ∧ script.sender = output.owner))
    (published : Htlc.metadataClaimKeyCheck lib metadata script op sigma = .ok key) (later : signing ≤ validation) :
    (∃ op, SpentAs lib others script input output metadata signing validation message sigma op) ↔
      ¬ (signing < script.deadline ∧ script.deadline ≤ validation) := by
  constructor
  · rintro ⟨other, signature, owned', _⟩ ⟨early, late⟩
    obtain rfl : op = other := by simpa using owned.symm.trans owned'
    rcases owner with ⟨rfl, before, _⟩ | ⟨rfl, _, _⟩
    · omega
    · have after : script.deadline ≤ signing := signature.1
      omega
  · intro apart
    rcases owner with ⟨rfl, before, recipient⟩ | ⟨rfl, after, sender⟩
    · cases op' with
      | claim => exact ⟨.claim, accepted, owned, claimed_of_accepted accepted recipient published⟩
      | reclaim =>
        have passed : script.deadline ≤ signing := accepted.1
        omega
    · cases op' with
      | claim =>
        have early : signing < script.deadline := accepted.1
        exact absurd ⟨early, after⟩ apart
      | reclaim => exact ⟨.reclaim, accepted, owned, sender.symm, accepted.2⟩

theorem script_signature_accepted {uniqueID : Identity → String} {limits : ResourceLimits} {owner : Identity}
    {readings : Readings} (typed : unmarshalTypedIdentity owner = .ok si) (scripted : si.type = htlcScriptIdentityType)
    (read : Htlc.unmarshalStrict lib.decodeScript si.identity = .ok script)
    (found : (Htlc.newDeserializer lib others uniqueID limits).getOwnerVerifier owner = .ok (some verifier))
    (verified : verifier readings message sigma = .ok ()) :
    ∃ op, SignatureAccepted lib others script (readings 0) message sigma op := by
  simp only [Htlc.newDeserializer, map_ok_iff, Option.some.injEq, exists_eq_right] at found
  obtain ⟨script', sender, recipient, inner, read', senderFound, recipientFound, rfl⟩ :=
    Htlc.script_owner_verifier typed scripted found
  obtain rfl : script = script' := Except.ok.inj (read.symm.trans read')
  by_cases early : readings 0 < script.deadline
  · simp only [Htlc.Verifier.verify, if_pos early, wrap_ok_iff] at verified
    exact ⟨.claim, early, recipient, _, ⟨_, _, recipientFound⟩, verified⟩
  · simp only [Htlc.Verifier.verify, if_neg early, wrap_ok_iff] at verified
    exact ⟨.reclaim, by omega, sender, _, ⟨_, _, senderFound⟩, verified⟩

end Accepted

theorem single_input (listed : action.inputs.map inputToken = toks.map some) (count : toks.length = 1)
    (mem : input ∈ action.tokens) : toks = [input] ∧ ∃ id, action.inputs = [some { id, input := some input }] := by
  rw [TransferAction.tokens, tokens_filter_map listed] at mem
  obtain ⟨only, rfl⟩ := length_eq_one_iff.mp count
  obtain rfl : input = only := by simpa using mem
  rw [map_singleton, map_eq_singleton_iff] at listed
  obtain ⟨entry, inputs, found⟩ := listed
  obtain ⟨⟨id, _⟩, rfl, rfl⟩ := Option.bind_eq_some_iff.mp found
  exact ⟨rfl, id, inputs⟩

theorem first_owner_verifier {pp : PublicParams} {deserializer : Deserializer} {verifiers : List Verifier}
    (tokens : action.tokens = toks) (single : toks = [input]) (needed : Required pp deserializer (.transfer action) verifiers) :
    ∃ verifier, verifiers[0]? = some verifier ∧ deserializer.getOwnerVerifier input.owner = .ok (some verifier) := by
  rw [Required, requiredSigners, tokens, single] at needed
  cases needed with
  | cons found rest => exact ⟨_, rfl, found⟩

def transferContext (protobuf : Protobuf) (lib : Htlc.Libraries) (others : Int32 → List TypedDeserializer)
    (uniqueID : Identity → String) (pp : PublicParams) (limits : ResourceLimits) (request : TokenRequest)
    (action : TransferAction) (provider : Backend) (now : Int) : TransferContext :=
  (newValidator protobuf lib pp (Htlc.newDeserializer lib others uniqueID limits) limits).context request action provider now

theorem htlc_spend_safe_iff (protobuf : Protobuf) (lib : Htlc.Libraries) (others : Int32 → List TypedDeserializer)
    (uniqueID : Identity → String) (pp : PublicParams) (limits : ResourceLimits) (request : TokenRequest)
    (action : TransferAction) (provider : Backend) (now : Int) (signed final : TransferContext)
    (signature : transferSignatureValidate
      (transferContext protobuf lib others uniqueID pp limits request action provider now) = .ok signed)
    (htlc : transferHTLCValidate lib signed = .ok final) (input : Output) (spent : input ∈ action.tokens) (si : TypedIdentity)
    (typed : unmarshalTypedIdentity input.owner = .ok si) (scripted : si.type = htlcScriptIdentityType)
    (later : provider.clock provider.cursor 0 ≤ now) :
    ∃ id output script sigma, action.inputs = [some { id, input := some input }] ∧ action.outputs = [some output] ∧
      output.type = input.type ∧ output.quantity = input.quantity ∧
      Htlc.unmarshalStrict lib.decodeScript si.identity = .ok script ∧ provider.sigs[provider.cursor]? = some sigma ∧
      ((∃ op, SpentAs lib others script input output action.metadata (provider.clock provider.cursor 0) now
          provider.message sigma op) ↔
        ¬ (provider.clock provider.cursor 0 < script.deadline ∧ script.deadline ≤ now)) := by
  have step := transfer_signature_ok rfl signature
  rw [transferHTLCValidate, bind_ok_iff] at htlc
  obtain ⟨_, inputsChecked, _⟩ := htlc
  obtain ⟨index, found⟩ : ∃ index, signed.inputTokens[index]? = some input := by
    have listed := tokens_filter_map step.tokens
    exact mem_iff_getElem?.mp (listed ▸ spent)
  obtain ⟨before, _, counted, turn⟩ := fold_each_at inputsChecked found
  obtain ⟨keys, rfl⟩ := fold_counts (fun _ _ _ _ => htlc_input_counts) counted
  obtain ⟨si', typed', ⟨other, -⟩ | ⟨-, output, script, op, sigma, key, checked, -⟩⟩ := htlc_input_ok turn
  · cases typed.symm.trans typed'
    exact absurd scripted other
  obtain ⟨single, id, inputs⟩ := single_input step.tokens checked.inputs spent
  obtain rfl : index = 0 := by
    rw [single] at found
    have bound := (List.getElem?_eq_some_iff.mp found).1
    simpa using bound
  have taken : provider.sigs[provider.cursor]? = some sigma := by
    have same := step.taken 0 (by simp [single])
    exact same.symm.trans checked.signature
  obtain ⟨verifiers, needed, signing⟩ := step.signed
  obtain ⟨verifier, first, deserialized⟩ := first_owner_verifier (tokens_filter_map step.tokens) single needed
  obtain ⟨sigma', taken', verified⟩ := signing.verified 0 verifier first
  obtain rfl : sigma = sigma' := Option.some.inj (taken.symm.trans taken')
  obtain ⟨read, owner⟩ := Htlc.verify_owner_ok typed checked.owner
  obtain ⟨op', accepted⟩ := script_signature_accepted typed scripted read deserialized verified
  have sameAction : signed.action = action := step.action
  have sameNow : signed.now = now := step.now
  obtain ⟨_, outputs, type, quantity, owned, _, published⟩ := checked
  simp only [sameAction, sameNow] at outputs owned owner published
  exact ⟨id, output, script, sigma, inputs, outputs, type.symm, quantity.symm, read, taken,
    spent_as_iff accepted owned owner published later⟩

namespace Swap

def identityOf (type key : UInt8) : Identity := [0x30, 0x06, 0x02, 0x01, type, 0x04, 0x01, key]

def keyVerifier (key : Bytes) : Verifier := fun _ _ sigma => ensure (sigma = key) "invalid signature"

def others (typ : Int32) : List TypedDeserializer := if typ = x509IdentityType then [fun _ _ _ raw => .ok (keyVerifier raw)] else []

def script : Htlc.Script :=
  { sender := identityOf 2 1
    recipient := identityOf 2 2
    deadline := 5
    hashInfo := { hash := [3], hashFunc := 5, hashEncoding := 0 } }

def lib : Htlc.Libraries :=
  { hashable := fun _ => ""
    hash := fun hashFunc => if hashFunc = 5 then some fun octets => octets else none
    decodeScript := fun _ => .ok { value := script, unknownField := false, rest := [] }
    decodeClaim := fun raw =>
      if raw = [9] then .ok { value := { recipientSignature := [2], preimage := [3] }, unknownField := false, rest := [] }
      else .error "invalid character" }

def pp : PublicParams := { issuerIDs := [], auditor := [], quantityPrecision := 64 }

def locked : Output := { owner := identityOf 4 0, type := [0x54], quantity := [0x35] }

def spending (owner : Identity) (metadata : Entries) : TransferAction :=
  { inputs := [some { id := some ⟨[0x61], 0⟩, input := some locked }]
    outputs := [some { locked with owner }]
    metadata
    issuer := none }

def provider : Backend := { message := [0x6D], cursor := 0, sigs := [[9]], clock := fun _ _ => 0 }

def protobuf : Protobuf :=
  { tokenRequest := fun _ => .error "", issueAction := fun _ => .error "", transferAction := fun _ => .error "" }

def request : TokenRequest := { version := 1, actions := [], signatures := [] }

def validator : Validator PublicParams Output IssueAction TransferAction :=
  newValidator protobuf lib pp (Htlc.newDeserializer lib others (fun _ => "") defaultResourceLimits) defaultResourceLimits

def context (action : TransferAction) (now : Int) : TransferContext :=
  transferContext protobuf lib others (fun _ => "") pp defaultResourceLimits request action provider now

def claim : TransferAction := spending script.recipient [(Htlc.claimKey [3], [3])]

theorem claim_in_time_safe : ∃ id output script sigma, claim.inputs = [some { id, input := some locked }] ∧
    claim.outputs = [some output] ∧ output.type = locked.type ∧ output.quantity = locked.quantity ∧
    Htlc.unmarshalStrict lib.decodeScript [0] = .ok script ∧ provider.sigs[provider.cursor]? = some sigma ∧
    ((∃ op, SpentAs lib others script locked output claim.metadata (provider.clock provider.cursor 0) 1
        provider.message sigma op) ↔
      ¬ (provider.clock provider.cursor 0 < script.deadline ∧ script.deadline ≤ 1)) :=
  htlc_spend_safe_iff protobuf lib others (fun _ => "") pp defaultResourceLimits request claim provider 1
    { context claim 1 with signatureProvider := { provider with cursor := 1 }, signatures := [[9]], inputTokens := [locked] }
    { context claim 1 with
      signatureProvider := { provider with cursor := 1 }
      signatures := [[9]]
      inputTokens := [locked]
      metadataCounter := [Htlc.claimKey [3]] }
    (by rfl) (by rfl) locked (by decide) { type := 4, identity := [0] } (by rfl) (by rfl) (by decide)

theorem stands_for_key {key : UInt8} (stands : StandsFor lib others (identityOf 2 key) verifier)
    (typed : unmarshalTypedIdentity (identityOf 2 key) = .ok { type := x509IdentityType, identity := [key] }) :
    verifier = keyVerifier [key] := by
  obtain ⟨levels, n, found⟩ := stands
  cases levels with
  | zero => simp [deserializeVerifier] at found
  | succ levels =>
    obtain ⟨si, deserializer, typed', mem, made⟩ := deserialize_verifier_ok found
    obtain rfl := Except.ok.inj (typed.symm.trans typed')
    obtain rfl : deserializer = fun _ _ _ raw => .ok (keyVerifier raw) := by
      simpa [Htlc.typedDeserializers, others, x509IdentityType, htlcScriptIdentityType] using mem
    exact (Except.ok.inj made).symm

-- The signature is checked at 0, the owner of the output at 10: the recipient's claim pays the sender.
theorem claim_signature_pays_sender :
    (∃ consumed, validator.verifyTransfer request (spending script.sender []) provider 10 = .ok consumed) ∧
    provider.clock provider.cursor 0 ≤ 10 ∧
    ¬ Claimed lib others script { locked with owner := script.sender } [] provider.message [9] ∧
    ¬ Reclaimed lib others script { locked with owner := script.sender } provider.message [9] := by
  refine ⟨⟨{ provider with cursor := 1 }, by rfl⟩, by decide, ?_, ?_⟩
  · rintro ⟨owned, _⟩
    revert owned
    decide
  · rintro ⟨_, sender, readings, stands, verified⟩
    have keyed : sender = keyVerifier [1] := stands_for_key stands (by rfl)
    rw [keyed, keyVerifier] at verified
    revert verified
    decide

end Swap

end Panurus.Fabtoken
