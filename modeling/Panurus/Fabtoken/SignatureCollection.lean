import Panurus.Fabtoken.Building

namespace Panurus.Fabtoken

open List Lib Outcome Core Driver Client Backend

variable {metadata : ActionMetadataEntry} {deserializer : Deserializer} {walk : SignatureWalk}
  {rest verifiers : List Verifier} {inputs : List (Option TransferActionInput)} {pp : PublicParams}
  {limits : ResourceLimits} {raw : Bytes} {entry : TypedAction} {made value : AnyAction}

section Grouping

variable {s : Services} {r : Request} (uniqueID : Identity → String) (sigmas : String → Option Bytes)

theorem appended_group (unsigned : ∀ signature ∈ r.actions.signatures, signature.auditor.isSome) (id : UInt32) :
    actionSignaturesByID (r.appendSignatures uniqueID sigmas).1.actions id =
      ((r.issueSignersWithActions ++ r.transferSignersWithActions).filter fun signer => signer.actionID = id).map
        fun signer => (sigmas (uniqueID signer.signer)).getD [] := by
  have audited : (r.actions.signatures.filterMap fun signature => if signature.auditor.isSome then none
      else signature.action.bind fun action => if action.actionID = id then some action.signature else none) = [] := by
    refine filterMap_eq_nil_iff.mpr fun signature mem => ?_
    rw [if_pos (unsigned signature mem)]
  rw [actionSignaturesByID, Request.appendSignatures, filterMap_append, audited, nil_append]
  induction r.issueSignersWithActions ++ r.transferSignersWithActions with
  | nil => rfl
  | cons signer rest ih =>
    rw [map_cons, filterMap_cons, ih]
    by_cases same : signer.actionID = id
    · simp [same]
    · simp [same]

theorem filter_entries {signers : ActionMetadataEntry → List SignerWithAction}
    (numbered : ∀ metadata, ∀ signer ∈ signers metadata, signer.actionID = metadata.actionID)
    (entries : List ActionMetadataEntry) (id : UInt32) :
    (entries.flatMap signers).filter (fun signer => signer.actionID = id) =
      (entries.filter fun metadata => metadata.actionID = id).flatMap signers := by
  induction entries with
  | nil => rfl
  | cons metadata rest ih =>
    rw [flatMap_cons, filter_append, ih, filter_cons]
    by_cases same : metadata.actionID = id
    · have all : (signers metadata).filter (fun signer => signer.actionID = id) = signers metadata :=
        filter_eq_self.mpr fun signer mem => by simpa [numbered metadata signer mem] using same
      rw [all, if_pos (by simpa using same), flatMap_cons]
    · have none : (signers metadata).filter (fun signer => signer.actionID = id) = [] :=
        filter_eq_nil_iff.mpr fun signer mem => by simpa [numbered metadata signer mem] using same
      rw [none, nil_append, if_neg (by simpa using same)]

section

variable (noted : Noted s r) (small : r.actions.actions.length ≤ 2 ^ 32)
include noted small

theorem noted_distinct : (r.metadata.actions.map ActionMetadataEntry.actionID).Nodup := by
  have ids : r.metadata.actions.map ActionMetadataEntry.actionID =
      (range' 0 r.actions.actions.length).map UInt32.ofNat := by
    rw [← zipIdx_map_snd 0 r.actions.actions, map_map, ← forall₂_eq_eq_eq, forall₂_map_left_iff, forall₂_map_right_iff]
    exact noted.entries.flip.imp fun _ _ entry => entry.1
  rw [ids]
  refine List.Nodup.map_on (fun i low j low' same => ?_) (nodup_range' (s := 0))
  have size : UInt32.size = 2 ^ 32 := rfl
  have bounded := mem_range'_1.mp low
  have bounded' := mem_range'_1.mp low'
  rw [← UInt32.toNat_ofNat_of_lt' (n := i) (by omega), same, UInt32.toNat_ofNat_of_lt' (by omega)]

theorem noted_filter (mem : metadata ∈ r.metadata.actions) :
    (r.metadata.actions.filter fun other => other.actionID = metadata.actionID) = [metadata] := by
  have distinct := noted_distinct noted small
  have only : (r.metadata.actions.filter fun other => other.actionID = metadata.actionID) =
      r.metadata.actions.filter fun other => other = metadata := by
    refine filter_congr fun other there => ?_
    rw [decide_eq_decide]
    exact ⟨inj_on_of_nodup_map distinct there mem, congrArg _⟩
  rw [only, filter_eq, count_eq_one_of_mem distinct.of_map mem, replicate_one]

theorem collected_group (mem : metadata ∈ r.metadata.actions) :
    actionSignaturesByID (r.appendSignatures uniqueID sigmas).1.actions metadata.actionID =
      (listedSigners metadata).map fun signer => (sigmas (uniqueID signer.identity)).getD [] := by
  have issues : ∀ metadata, ∀ signer ∈ entryIssueSigners metadata, signer.actionID = metadata.actionID := by
    intro metadata signer listed
    obtain ⟨_, _, rfl⟩ := mem_map.mp listed
    rfl
  have transfers : ∀ metadata, ∀ signer ∈ entryTransferSigners metadata, signer.actionID = metadata.actionID := by
    intro metadata signer listed
    obtain ⟨_, _, rfl⟩ := mem_map.mp listed
    rfl
  rw [appended_group uniqueID sigmas noted.unsigned, issue_signers_eq, transfer_signers_eq, filter_append,
    filter_entries issues, filter_entries transfers, noted_filter noted small mem, flatMap_singleton,
    flatMap_singleton, ← listed_signers_eq, map_map]
  rfl

end

end Grouping

theorem sign_input_accepts (index : Nat) {input : Option TransferActionInput}
    {tok : Output} {verifier : Verifier} (found : inputToken input = some tok)
    (sound : CacheSound deserializer walk.verifierCache) (deserialized : deserializer.getOwnerVerifier tok.owner = .ok (some verifier))
    (ahead : Ahead walk.provider (verifier :: rest)) :
    ∃ next, signInput deserializer index walk input = .ok next ∧ next.provider = walk.provider.advance 1 ∧
      next.verifierCache = (tok.owner, some verifier) :: walk.verifierCache := by
  obtain ⟨sigma, signed⟩ := has_been_signed_by_accepts ahead
  simp only [signInput, ok_iff, Prod.exists]
  refine ⟨_, ⟨tok, found, some verifier, ?_, sigma, _, signed, rfl⟩, rfl, rfl⟩
  cases hit : walk.verifierCache.lookup tok.owner with
  | some cached =>
    have same := sound _ _ hit
    rw [deserialized] at same
    exact same.symm
  | none => simpa using deserialized

theorem sign_inputs_accept {toks : List Output} (listed : inputs.map inputToken = toks.map some)
    (owners : VerifiersOf deserializer (ownersOf toks) verifiers) (index : Nat) (walk : SignatureWalk)
    (sound : CacheSound deserializer walk.verifierCache) (ahead : Ahead walk.provider (verifiers ++ rest)) :
    ∃ final, foldEach (signInput deserializer) index walk inputs = .ok final ∧
      final.provider = walk.provider.advance verifiers.length := by
  replace owners := forall₂_map_left_iff.mp owners
  induction owners generalizing inputs index walk with
  | nil =>
    obtain rfl := map_eq_nil_iff.mp listed
    exact ⟨walk, rfl, rfl⟩
  | @cons tok verifier toks verifiers deserialized _ ih =>
    obtain ⟨input, others, rfl, found, later⟩ := map_eq_cons_iff.mp listed
    obtain ⟨next, stepped, moved, cache⟩ := sign_input_accepts index found sound deserialized ahead
    have ready : Ahead next.provider (verifiers ++ rest) := by
      rw [moved]
      exact ahead_advance [verifier] ahead
    obtain ⟨final, run, reached⟩ := ih later (index + 1) next (cache ▸ cache_sound_cons sound deserialized) ready
    refine ⟨final, ?_, ?_⟩
    · rw [foldEach, stepped]
      exact run
    · rw [reached, moved, length_cons, Nat.add_comm verifiers.length]
      simp [advance, Nat.add_assoc]

theorem find_redeem_answers {index : Nat} {outputs : List (Option Output)} (complete : none ∉ outputs) :
    findRedeem index outputs = .ok (outputs.any fun output => output.any Output.isRedeem) := by
  induction outputs generalizing index with
  | nil => rfl
  | cons output rest ih =>
    cases output with
    | none => simp at complete
    | some output =>
      rw [findRedeem]
      by_cases redeem : output.isRedeem
      · simp [redeem]
      · rw [if_neg redeem, ih fun mem => complete (mem_cons_of_mem _ mem)]
        simp [redeem]

def Acceptable (pp : PublicParams) : AnyAction → Prop
  | .issue _ => True
  | .transfer action => action.inputs ≠ [] ∧
      (pp.issuers ≠ [] → action.redeems → ∃ issuer ∈ pp.issuers, action.issuer = some issuer)

theorem sign_redeem_accepts {action : TransferAction}
    (complete : none ∉ action.outputs) (acceptable : Acceptable pp (.transfer action))
    (issuers : VerifiersOf deserializer (redeemSigners pp action) verifiers) (ahead : Ahead walk.provider verifiers) :
    ∃ next, signRedeem pp deserializer action walk = .ok next ∧ next.provider = walk.provider.advance verifiers.length := by
  by_cases asked : pp.issuers ≠ [] ∧ action.redeems
  · obtain ⟨issuer, known, named⟩ := acceptable.2 asked.1 asked.2
    rw [redeemSigners, if_pos asked, named] at issuers
    obtain ⟨verifier, rest, deserialized, none, rfl⟩ := forall₂_cons_left_iff.mp issuers
    obtain rfl := forall₂_nil_left_iff.mp none
    obtain ⟨sigma, signed⟩ := has_been_signed_by_accepts ahead
    have redeem : (action.outputs.any fun output => output.any Output.isRedeem) = true := asked.2
    simp only [signRedeem, if_neg asked.1, find_redeem_answers complete, ok_iff, Except.ok.injEq, exists_eq_left',
      if_pos redeem, Prod.exists, exists_const]
    exact ⟨_, ⟨issuer, named, known, some verifier, deserialized, sigma, _, signed, rfl⟩, rfl⟩
  · rw [redeemSigners, if_neg asked] at issuers
    obtain rfl := forall₂_nil_left_iff.mp issuers
    refine ⟨walk, ?_, rfl⟩
    by_cases configured : pp.issuers = []
    · rw [signRedeem, if_pos configured]
    · have redeem : ¬ (action.outputs.any fun output => output.any Output.isRedeem) = true := fun redeem =>
        asked ⟨configured, redeem⟩
      simp only [signRedeem, if_neg configured, find_redeem_answers complete, ok_iff, Except.ok.injEq, exists_eq_left',
        if_neg redeem]

theorem required_split {action : TransferAction} (needed : Required pp deserializer (.transfer action) verifiers) :
    ∃ owners issuers, VerifiersOf deserializer (ownersOf action.tokens) owners ∧
      VerifiersOf deserializer (redeemSigners pp action) issuers ∧ verifiers = owners ++ issuers := by
  have owners := (forall₂_take_append _ _ _ needed.flip).flip
  have issuers := (forall₂_drop_append _ _ _ needed.flip).flip
  exact ⟨_, _, owners, issuers, (take_append_drop _ verifiers).symm⟩

theorem transfer_signature_accepts {ctx : TransferContext}
    (inputs : ctx.action.inputs.map inputToken = ctx.action.tokens.map some) (complete : none ∉ ctx.action.outputs)
    (acceptable : Acceptable ctx.pp (.transfer ctx.action))
    (needed : Required ctx.pp ctx.deserializer (.transfer ctx.action) verifiers) (ahead : Ahead ctx.signatureProvider verifiers) :
    ∃ next, transferSignatureValidate ctx = .ok next ∧
      next.signatureProvider = ctx.signatureProvider.advance verifiers.length := by
  obtain ⟨owners, issuers, ownersNeeded, issuersNeeded, rfl⟩ := required_split needed
  obtain ⟨walk, run, moved⟩ := sign_inputs_accept inputs ownersNeeded 0 ⟨ctx.signatureProvider, ctx.signatures, [], []⟩
    (by simp [CacheSound]) ahead
  have ready : Ahead walk.provider issuers := moved ▸ ahead_advance owners ahead
  obtain ⟨final, redeemed, reached⟩ := sign_redeem_accepts complete acceptable issuersNeeded ready
  simp only [transferSignatureValidate, ok_iff, exists_const]
  refine ⟨_, ⟨acceptable.1, walk, run, final, redeemed, rfl⟩, ?_⟩
  rw [reached, moved, length_append]
  simp [advance, Nat.add_assoc]

structure Marshals (s : Services) (protobuf : Protobuf) : Prop where
  issue : ∀ (action : IssueAction) (raw : Bytes), none ∉ action.outputs → s.marshalIssueAction action.toProtos = .ok raw →
    ∃ metadata, protobuf.issueAction raw = .ok { action.toProtos with metadata }
  transfer : ∀ (action : TransferAction) (raw : Bytes), none ∉ action.inputs → none ∉ action.outputs →
    s.marshalTransferAction action.toProtos = .ok raw →
    ∃ metadata, protobuf.transferAction raw = .ok { action.toProtos with metadata }

theorem raw_of_read (raw : Bytes) : (rawOf raw).getD [] = raw := by
  by_cases empty : raw = [] <;> simp [rawOf, empty]

theorem outputs_read (outputs : List (Option Output)) : (outputs.map outputToProto).map outputFromProto = outputs := by
  rw [map_map]
  refine map_id'' (fun output => ?_) outputs
  cases output <;> rfl

theorem inputs_read (complete : none ∉ inputs) :
    (inputs.map fun input => input.elim { tokenId := none, input := none } TransferActionInput.toProtos).map
      (fun input => some (TransferActionInput.fromProtos input)) = inputs := by
  rw [map_map]
  refine (map_congr_left fun input mem => ?_).trans (map_id inputs)
  cases input with
  | none => exact absurd mem complete
  | some input =>
    obtain ⟨id, tok⟩ := input
    cases tok <;> rfl

theorem issue_read {unmarshal : Bytes → Outcome Proto.IssueAction} {action other : IssueAction} {metadata : Entries}
    (unmarshalled : unmarshal raw = .ok { action.toProtos with metadata })
    (read : IssueAction.deserialize unmarshal limits raw = .ok other) : other = { action with metadata } := by
  simp only [IssueAction.deserialize, unmarshalled, ok_iff, Except.ok.injEq, exists_eq_left'] at read
  obtain ⟨_, _, _, _, _, _, rfl⟩ := read
  simp only [IssueAction.toProtos, Option.bind_some, raw_of_read, outputs_read]

theorem transfer_read {unmarshal : Bytes → Outcome Proto.TransferAction}
    {action other : TransferAction} {metadata : Entries} (present : none ∉ action.inputs)
    (named : action.issuer ≠ some []) (unmarshalled : unmarshal raw = .ok { action.toProtos with metadata })
    (read : TransferAction.deserialize unmarshal limits raw = .ok other) : other = { action with metadata } := by
  simp only [TransferAction.deserialize, unmarshalled, ok_iff, Except.ok.injEq, exists_eq_left'] at read
  obtain ⟨_, _, _, _, _, _, _, _, rfl⟩ := read
  have issuer : ((action.issuer.map fun issuer => ({ raw := rawOf issuer } : Proto.Identity)).bind Proto.Identity.raw) =
      action.issuer := by
    cases selected : action.issuer with
    | none => rfl
    | some issuer =>
      have nonempty : issuer ≠ [] := fun empty => named (by rw [selected, empty])
      simp [rawOf, nonempty]
  simp only [TransferAction.toProtos, outputs_read, inputs_read present, issuer]

theorem built_requires {s : Services} {protobuf : Protobuf} (marshals : Marshals s protobuf)
    (built : BuiltEntry s entry metadata made) (read : DeserializedBy protobuf limits entry value)
    (acceptable : Acceptable s.pp value) :
    listedSigners metadata = requiredSigners s.pp value ∧ ∀ action, value = .transfer action → none ∉ action.outputs ∧
      action.inputs.map inputToken = action.tokens.map some := by
  cases built with
  | @issue raw id metadata action marshalled complete issuer extraSigners =>
    cases value with
    | transfer other => simp [DeserializedBy, Deserialized] at read
    | issue other =>
      obtain ⟨entries, unmarshalled⟩ := marshals.issue action raw complete marshalled
      obtain rfl := issue_read unmarshalled read.2
      simp [listedSigners, requiredSigners, issueOf, Issue.signers, issuer, extraSigners]
  | @transfer raw id metadata action marshalled complete inputs senders issuer named redeem extraSigners =>
    cases value with
    | issue other => simp [DeserializedBy, Deserialized] at read
    | transfer other =>
      have present : none ∉ action.inputs := by
        intro mem
        have inside := mem_map_of_mem (f := inputToken) mem
        rw [inputs] at inside
        simp at inside
      obtain ⟨entries, unmarshalled⟩ := marshals.transfer action raw present complete marshalled
      obtain rfl := transfer_read present named unmarshalled read.2
      refine ⟨?_, ?_⟩
      · have issuers : action.issuer.toList.map Signer.issuer = redeemSigners s.pp action := by
          by_cases asked : s.pp.issuers ≠ [] ∧ action.redeems
          · obtain ⟨chosen, _, selected⟩ := acceptable.2 asked.1 asked.2
            have selected : action.issuer = some chosen := selected
            simp [redeemSigners, asked, selected]
          · have nobody : action.issuer = none := by
              by_contra present
              exact asked (redeem present)
            simp [redeemSigners, asked, nobody]
        simp only [listedSigners, Option.elim_none, Option.elim_some, nil_append, transferOf, senders, issuer,
          extraSigners, map_nil, append_nil, issuers, map_map]
        rfl
      · rintro action ⟨⟩
        exact ⟨complete, inputs⟩

def SignersValid (deserializer : Deserializer) (uniqueID : Identity → String) (clock : Clock) (message : Bytes)
    (sigmas : String → Option Bytes) (id : UInt32) (signers : List Signer) : Prop :=
  ∀ (k : Nat) (signer : Signer), signers[k]? = some signer → ∃ sigma verifier, sigmas (uniqueID signer.identity) = some sigma ∧
    signer.verifier deserializer = .ok (some verifier) ∧ verifier (clock.signing id k) message sigma = .ok ()

def ValidSignatures (deserializer : Deserializer) (uniqueID : Identity → String) (clock : Clock) (message : Bytes)
    (r : Request) (sigmas : String → Option Bytes) : Prop :=
  ∀ metadata ∈ r.metadata.actions,
    SignersValid deserializer uniqueID clock message sigmas metadata.actionID (listedSigners metadata)

def SignatureStepsAccept (pp : PublicParams) (deserializer : Deserializer) (provider : Backend) :
    AnyAction → Prop
  | .issue action => ∃ verifier sigma next, deserializer.getIssuerVerifier action.issuer = .ok verifier ∧
      provider.hasBeenSignedBy verifier = .ok (sigma, next) ∧ next.ensureExhausted = .ok ()
  | .transfer action => ∀ ctx : TransferContext, ctx.pp = pp → ctx.deserializer = deserializer → ctx.action = action →
      ctx.signatureProvider = provider →
      ∃ next, transferSignatureValidate ctx = .ok next ∧ next.signatureProvider.ensureExhausted = .ok ()

structure SignaturesAgree (s : Services) (deserializer : Deserializer) (clock : Clock) (message : Bytes)
    (sigmas : String → Option Bytes) (request : TokenRequest) (id : UInt32) (value : AnyAction) : Prop where
  grouped : (actionSignaturesByID request id).map some =
    (requiredSigners s.pp value).map fun signer => sigmas (s.uniqueID signer.identity)
  accepted : ∃ provider, actionProviders request message clock id = some provider ∧
    SignatureStepsAccept s.pp deserializer provider value

section Agreement

variable {s : Services} {protobuf : Protobuf} {deserializer : Deserializer} {limits : ResourceLimits} {clock : Clock}
  {r : Request} {message : Bytes} {sigmas : String → Option Bytes} {id : UInt32} {request : TokenRequest}

theorem all_signed (valid : ValidSignatures deserializer s.uniqueID clock message r sigmas) :
    (r.appendSignatures s.uniqueID sigmas).2 = true := by
  rw [Request.appendSignatures, all_eq_true, issue_signers_eq, transfer_signers_eq]
  intro signer mem
  obtain ⟨metadata, noted, listed⟩ : ∃ metadata ∈ r.metadata.actions,
      signer ∈ entryIssueSigners metadata ++ entryTransferSigners metadata := by
    simp only [mem_append, mem_flatMap] at mem ⊢
    obtain ⟨metadata, noted, listed⟩ | ⟨metadata, noted, listed⟩ := mem
    · exact ⟨metadata, noted, .inl listed⟩
    · exact ⟨metadata, noted, .inr listed⟩
  rw [← listed_signers_eq] at listed
  obtain ⟨signer, inside, rfl⟩ := mem_map.mp listed
  obtain ⟨k, found⟩ := mem_iff_getElem?.mp inside
  obtain ⟨sigma, _, held, _⟩ := valid metadata noted k signer found
  rw [held]
  rfl

theorem signers_ahead {signers : List Signer} (valid : SignersValid deserializer s.uniqueID clock message sigmas id signers)
    (grouped : actionSignaturesByID request id = signers.map fun signer => (sigmas (s.uniqueID signer.identity)).getD []) :
    ∃ verifiers, VerifiersOf deserializer signers verifiers ∧ Ahead (initialProvider request message clock id) verifiers := by
  have each : ∀ signer ∈ signers, ∃ verifier, Signer.verifier deserializer signer = .ok (some verifier) := by
    intro signer mem
    obtain ⟨k, found⟩ := mem_iff_getElem?.mp mem
    obtain ⟨_, verifier, _, deserialized, _⟩ := valid k signer found
    exact ⟨verifier, deserialized⟩
  choose! verifier deserialized using each
  refine ⟨signers.map verifier, forall₂_map_right_iff.mpr (forall₂_same.mpr deserialized), ?_⟩
  intro k asked there
  rw [getElem?_map, Option.map_eq_some_iff] at there
  obtain ⟨signer, found, rfl⟩ := there
  obtain ⟨sigma, own, held, ownDeserialized, checked⟩ := valid k signer found
  obtain rfl : own = verifier signer := by
    have same := deserialized signer (mem_of_getElem? found)
    rw [ownDeserialized] at same
    simpa using same
  refine ⟨sigma, ?_, by simpa only [initialProvider, new, Nat.zero_add] using checked⟩
  simp [initialProvider, new, grouped, found, held]

theorem advance_exhausted {count : Nat} (all : (actionSignaturesByID request id).length = count) :
    ((initialProvider request message clock id).advance count).ensureExhausted = .ok () := by
  rw [ensureExhausted, ← all]
  simp [advance, initialProvider, new]

theorem collected_accepted (marshals : Marshals s protobuf) (built : BuiltEntry s entry metadata made)
    (read : DeserializedBy protobuf limits entry value) (acceptable : Acceptable s.pp value)
    (valid : SignersValid deserializer s.uniqueID clock message sigmas id (listedSigners metadata))
    (grouped : actionSignaturesByID request id =
      (listedSigners metadata).map fun signer => (sigmas (s.uniqueID signer.identity)).getD []) :
    SignatureStepsAccept s.pp deserializer (initialProvider request message clock id) value := by
  obtain ⟨required, complete⟩ := built_requires marshals built read acceptable
  obtain ⟨verifiers, needed, ahead⟩ := signers_ahead valid grouped
  have exhausted : ((initialProvider request message clock id).advance verifiers.length).ensureExhausted = .ok () :=
    advance_exhausted (by rw [grouped, length_map, needed.length_eq])
  rw [required] at needed
  cases value with
  | issue action =>
    obtain ⟨verifier, rest, deserialized, none, rfl⟩ := forall₂_cons_left_iff.mp needed
    obtain rfl := forall₂_nil_left_iff.mp none
    obtain ⟨sigma, signed⟩ := has_been_signed_by_accepts ahead
    exact ⟨some verifier, sigma, _, deserialized, signed, exhausted⟩
  | transfer action =>
    rintro ctx samePP rfl rfl provided
    obtain ⟨outputs, inputs⟩ := complete ctx.action rfl
    rw [← samePP] at acceptable needed
    rw [← provided] at ahead exhausted
    obtain ⟨next, accepted, reached⟩ := transfer_signature_accepts inputs outputs acceptable needed ahead
    exact ⟨next, accepted, reached ▸ exhausted⟩

theorem collected_signatures_accepted (limits : ResourceLimits) (marshals : Marshals s protobuf) (built : s.Built r)
    (small : r.actions.actions.length ≤ 2 ^ 32) (marshalled : r.actions.marshalToMessageToSign r.anchor = .ok message)
    (valid : ValidSignatures deserializer s.uniqueID clock message r sigmas) :
    (r.appendSignatures s.uniqueID sigmas).2 = true ∧
    (r.appendSignatures s.uniqueID sigmas).1.actions.marshalToMessageToSign r.anchor = .ok message ∧
    ∀ i entry value, (r.appendSignatures s.uniqueID sigmas).1.actions.actions[i]? = some entry →
      DeserializedBy protobuf limits entry value → Acceptable s.pp value →
      SignaturesAgree s deserializer clock message sigmas (r.appendSignatures s.uniqueID sigmas).1.actions (UInt32.ofNat i)
        value := by
  have noted := built_noted built
  refine ⟨all_signed valid, marshalled, ?_⟩
  intro i entry value found read acceptable
  obtain ⟨bound, rfl⟩ := List.getElem?_eq_some_iff.mp found
  have bound' : i < r.metadata.actions.length := by
    rw [← noted.entries.length_eq, List.length_zipIdx]
    exact bound
  have related := noted.entries.get (by rwa [length_zipIdx]) bound'
  simp only [get_eq_getElem, getElem_zipIdx, Nat.zero_add] at related
  obtain ⟨numbered, made, entryBuilt⟩ := related
  have mem : r.metadata.actions[i] ∈ r.metadata.actions := getElem_mem bound'
  have grouped := collected_group s.uniqueID sigmas noted small mem
  have held := valid _ mem
  rw [numbered] at grouped held
  refine ⟨?_, initialProvider _ message clock (UInt32.ofNat i), ?_,
    collected_accepted marshals entryBuilt read acceptable held grouped⟩
  · rw [grouped, ← (built_requires marshals entryBuilt read acceptable).1, map_map]
    refine map_congr_left fun signer listed => ?_
    obtain ⟨k, place⟩ := mem_iff_getElem?.mp listed
    obtain ⟨sigma, _, present, _⟩ := held k signer place
    simp [present]
  · rw [action_providers_eq, if_pos]
    exact Nat.lt_of_le_of_lt (Nat.mod_le _ _) bound

end Agreement

-- A redeem of one token: the first issuer of the parameters signs it, or one the caller names.
namespace Redeeming

def token : Output := { owner := [5], type := [0x54], quantity := [0x31] }

def action (issuer : UInt8) : TransferAction :=
  { inputs := [some { id := some ⟨[0x61], 0⟩, input := some token }]
    outputs := [some { token with owner := [] }]
    metadata := []
    issuer := some [issuer] }

def messages : List Proto.TransferAction := [(action 7).toProtos, (action 9).toProtos]

def services : Services :=
  { pp := { issuerIDs := [[7]], auditor := [], quantityPrecision := 64 }
    maxTokenValue := 100
    uniqueID := fun id => if id = [5] then "owner" else "issuer"
    getTokens := fun _ => .ok [token]
    getAuditInfo := fun _ => .ok []
    recipients := fun id => .ok [id]
    serializeOutputMetadata := fun _ => .ok []
    marshalIssueAction := fun _ => .error ""
    marshalTransferAction := fun message => if message ∈ messages then .ok message.octets else .error "" }

def protobuf : Protobuf := .among [] [] messages

theorem marshals : Marshals services protobuf := by
  refine ⟨fun action raw _ marshalled => (by cases marshalled), fun other raw _ _ marshalled => ⟨other.toProtos.metadata, ?_⟩⟩
  have decoded : ∀ message ∈ messages, protobuf.transferAction message.octets = .ok message := by decide +kernel
  by_cases known : other.toProtos ∈ messages
  · obtain rfl : other.toProtos.octets = raw := by simpa [services, known] using marshalled
    exact decoded _ known
  · simp [services, known] at marshalled

def named : Attributes := [(issuerFSCIdentityKey, .identity [3]), (issuerPublicParamsPublicKey, .identity [9])]

def request (issuer : UInt8) : Request :=
  { anchor := [0x74]
    actions := { version := 0, actions := [⟨.transfer, (action issuer).toProtos.octets⟩], signatures := [] }
    metadata := { actions := [{
      actionID := 0
      issueMetadata := none
      transferMetadata := some
        { inputs := [some { tokenID := some ⟨[0x61], 0⟩, senders := [some ⟨[5], []⟩] }]
          outputs := [some { outputMetadata := [], outputAuditInfo := [], receivers := [some ⟨[], []⟩] }]
          extraSigners := []
          issuer := ⟨some [issuer], []⟩ } }], application := [] } }

theorem built_first : services.Built (request 7) :=
  .redeem (.ok ([⟨[0x61], 0⟩], [{ token with owner := [] }])) [] (.new [0x74]) (by rfl)

theorem built_named : services.Built (request 9) :=
  .redeem (.ok ([⟨[0x61], 0⟩], [{ token with owner := [] }])) named (.new [0x74]) (by rfl)

def sigmas (signer : String) : Option Bytes := if signer = "owner" then some [1] else some [2]

def message (issuer : UInt8) : Bytes :=
  fastMarshalSignatureMessageV1 (fastMarshalTokenRequestForSigning (request issuer).actions.actions) [0x74]

theorem sigmas_valid (issuer : UInt8) (other : issuer ≠ 5) :
    ValidSignatures RedeemAndIssue.deserializer services.uniqueID RedeemAndIssue.clock (message issuer) (request issuer)
      sigmas := by
  intro metadata mem k signer found
  obtain rfl := mem_singleton.mp mem
  match k, found with
  | 0, found =>
    obtain rfl : .owner [5] = signer := Option.some.inj found
    exact ⟨[1], RedeemAndIssue.signedWith 1, by decide, rfl, rfl⟩
  | 1, found =>
    obtain rfl : .issuer [issuer] = signer := Option.some.inj found
    exact ⟨[2], RedeemAndIssue.signedWith 2, by simp [services, sigmas, Signer.identity, other], rfl, rfl⟩
  | k + 2, found => cases found

theorem first_issuer_agrees : SignaturesAgree services RedeemAndIssue.deserializer RedeemAndIssue.clock (message 7) sigmas
    ((request 7).appendSignatures services.uniqueID sigmas).1.actions 0 (.transfer (action 7)) :=
  (collected_signatures_accepted defaultResourceLimits marshals built_first (by decide) rfl (sigmas_valid 7 (by decide))).2.2
    0 ⟨.transfer, (action 7).toProtos.octets⟩ (.transfer (action 7)) rfl ⟨rfl, rfl⟩ ⟨by decide, fun _ _ => ⟨[7], by decide, rfl⟩⟩

def context (provider : Backend) : TransferContext :=
  { pp := services.pp
    tokenRequest := (request 9).actions
    deserializer := RedeemAndIssue.deserializer
    signatureProvider := provider
    signatures := []
    inputTokens := []
    action := action 9
    metadataCounter := []
    now := 0 }

theorem named_issuer_refused : services.Built (request 9) ∧
    ValidSignatures RedeemAndIssue.deserializer services.uniqueID RedeemAndIssue.clock (message 9) (request 9) sigmas ∧
    DeserializedBy protobuf defaultResourceLimits ⟨.transfer, (action 9).toProtos.octets⟩ (.transfer (action 9)) ∧
    ∃ provider, actionProviders ((request 9).appendSignatures services.uniqueID sigmas).1.actions (message 9)
        RedeemAndIssue.clock 0 = some provider ∧
      ¬ SignatureStepsAccept services.pp RedeemAndIssue.deserializer provider (.transfer (action 9)) := by
  refine ⟨built_named, sigmas_valid 9 (by decide), ⟨rfl, rfl⟩, new (message 9) [[1], [2]] fun _ _ => 0, rfl, ?_⟩
  intro accepts
  -- The step ends in `errIssuerNotAuthorized`: the issuer the caller named is not one of the parameters.
  obtain ⟨next, accepted, _⟩ := accepts (context (new (message 9) [[1], [2]] fun _ _ => 0)) rfl rfl rfl rfl
  cases accepted

end Redeeming

end Panurus.Fabtoken
