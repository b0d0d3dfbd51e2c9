import Panurus.Zkatdlog.TransferSafety
import Panurus.Zkatdlog.Actions

namespace Panurus.Zkatdlog

open List Lib Outcome Text Panurus.Token

structure TokenMessages (G : Type) where
  marshal : Token G → Outcome Bytes

def wrapCommitmentWithType (raw : Bytes) : Bytes := Der.sequence [Der.integer 2, Der.octetString raw]

variable {index curves : Nat}

section Serialized

variable {F G : Type} {messages : TokenMessages G}

def Token.serialize (messages : TokenMessages G) (t : Token G) : Outcome Bytes := do
  let raw ← messages.marshal t
  return wrapCommitmentWithType raw

def serializeFabToken : Option Fabtoken.Output → Bytes
  | some output => output.serialize
  | none => Fabtoken.wrapTokenWithType (ascii "null")

def serializedInput (messages : TokenMessages G) (entry : Option (ActionInput F G) × Nat) : Outcome (Option Bytes) :=
  match entry.1 with
  | none => .ok none
  | some input =>
    match input.upgradeWitness with
    | some witness => .ok (some (serializeFabToken witness.fabToken))
    | none => do
      let token ← required input.token s!"nil token in input at index [{entry.2}]"
      let raw ← token.serialize messages
      return some raw

def Action.getSerializedInputs (messages : TokenMessages G) (t : Action F G) : Outcome (List (Option Bytes)) :=
  t.inputs.zipIdx.mapM (serializedInput messages)

theorem serialized_input_at {action : Action F G} {serialized : List (Option Bytes)}
    (done : action.getSerializedInputs messages = .ok serialized) {input : ActionInput F G}
    {witness : UpgradeWitness F} (found : action.inputs[index]? = some (some input))
    (upgraded : input.upgradeWitness = some witness) : serialized[index]? = some (some (serializeFabToken witness.fabToken)) := by
  have pairs := mapM_ok_iff.mp done
  obtain ⟨bound, same⟩ := List.getElem?_eq_some_iff.mp found
  have inside : index < action.inputs.zipIdx.length := by rwa [List.length_zipIdx]
  have inside' : index < serialized.length := pairs.length_eq ▸ inside
  have here := pairs.get inside inside'
  simp only [get_eq_getElem, getElem_zipIdx, same, serializedInput, upgraded, Except.ok.injEq] at here
  rw [getElem?_eq_getElem inside', here]

theorem fab_token_not_commitment {token : Token G} {raw : Bytes}
    (written : token.serialize messages = .ok raw) (output : Fabtoken.Output) : raw ≠ output.serialize := by
  simp only [Token.serialize, ok_iff] at written
  obtain ⟨content, -, rfl⟩ := written
  intro same
  have fields := Der.tlv_injective 0x30 same
  have heads := congrArg (take 3) fields
  revert heads
  simp only [flatten_cons]
  rw [take_append_of_le_length (by decide), take_append_of_le_length (by decide)]
  decide

end Serialized

section Commitment

variable {F G : Type} [Field F] [AddCommGroup G] [Module F G]

theorem commit_ok {curveID : CurveID} {type : F} {value blinding : Option (Element F)} {generators : Elements G} {com : Element G}
    (three : generators.length = 3) (computed : commit curveID [some ⟨curveID, type⟩, value, blinding] generators = .ok com) :
    ∃ (g0 g1 g2 : G) (v b : F), generators = [g0, g1, g2].map (pointer curveID) ∧ value = pointer curveID v ∧
      blinding = pointer curveID b ∧ com = ⟨curveID, pedersen g0 g1 g2 type v b⟩ := by
  obtain ⟨first, second, third, rfl⟩ := length_eq_three.mp three
  simp only [commit, zip_cons_cons, zip_nil_left, foldlM_cons, foldlM_nil, ok_iff, operand_ok_iff, zero_add] at computed
  obtain ⟨_, -, _, ⟨_, ⟨typed, same, g0, rfl, _, -, rfl⟩, _, ⟨⟨_, v⟩, rfl, g1, rfl, _, rfl, rfl⟩, _,
    ⟨⟨_, b⟩, rfl, g2, rfl, _, rfl, rfl⟩, rfl⟩, rfl⟩ := computed
  obtain rfl := Option.some.inj same
  exact ⟨g0, g1, g2, v, b, rfl, rfl, rfl, rfl⟩

end Commitment

section Validated

variable {G : Type} [AddCommGroup G] [DecidableEq G]

theorem validated_precision {pp : PublicParams G} (valid : pp.validate curves = .ok ()) :
    pp.quantityPrecision ∈ supportedPrecisions := by
  have supported : ∀ {bitLength : UInt64} {checked : Outcome Unit}, validateBitLength pp bitLength checked = .ok () →
      pp.quantityPrecision ∈ supportedPrecisions := by
    intro bitLength checked passed
    simp only [validateBitLength, ok_iff] at passed
    obtain ⟨_, listed, _, -, same⟩ := passed
    rwa [same]
  simp only [PublicParams.validate, ok_iff] at valid
  obtain ⟨_, -, _, -, _, -, _, -, _, given, _, range, _, csp, -⟩ := valid
  cases params : pp.rangeProofParams with
  | some params' =>
    rw [params] at range
    exact supported range
  | none =>
    cases cspParams : pp.cspRangeProofParams with
    | some params' =>
      rw [cspParams] at csp
      exact supported csp
    | none => simp [params, cspParams] at given

theorem quantity_exact {precision : UInt64} (supported : precision ∈ supportedPrecisions) {text : Bytes} {q : Quantity}
    (read : toQuantity text precision = .ok q) :
    ∃ v : Nat, setString text = some (v : Int) ∧ (UInt64.ofNat q.toNat).toNat = v := by
  obtain ⟨-, v, parsed, fits, rfl⟩ := to_quantity_ok_iff.mp read
  have small : precision.toNat ≤ 64 := by
    simp only [supportedPrecisions, mem_cons, not_mem_nil, or_false] at supported
    rcases supported with rfl | rfl | rfl <;> decide
  have word : v < 2 ^ 64 := fits.trans_le (Nat.pow_le_pow_right (by decide) small)
  refine ⟨v, parsed, ?_⟩
  rw [of_to_nat fits]
  exact UInt64.toNat_ofNat_of_lt' word

end Validated

section Sound

variable {F G : Type} [Field F] [AddCommGroup G] [Module F G] {curve : Curve F G}

structure UpgradedFrom (curve : Curve F G) (pp : PublicParams G) (input : ActionInput F G) (witness : UpgradeWitness F)
    (fabToken : Fabtoken.Output) : Prop where
  fab : witness.fabToken = some fabToken
  token : ∃ (token : Token G) (g0 g1 g2 : G) (v : Nat) (blindingFactor : F),
    input.token = some token ∧
    pp.pedersenGenerators = [g0, g1, g2].map (pointer pp.curve) ∧
    witness.blindingFactor = pointer pp.curve blindingFactor ∧
    setString fabToken.quantity = some (v : Int) ∧
    token.data = pointer pp.curve (pedersen g0 g1 g2 (curve.hashToZr fabToken.type) (v : F) blindingFactor) ∧
    token.owner ≠ [] ∧ token.owner = fabToken.owner

theorem single_token_ok {pp : PublicParams G} {value : UInt64} {bf : Option (Element F)} {type : Bytes}
    {tokens : List (Element G)} (computed : getTokensWithWitnessAndBF curve pp [value] [bf] type = .ok tokens) :
    ∃ commitment, tokens = [commitment] ∧
      computeToken curve pp type (pointer pp.curve (value.toNat : F)) bf = .ok commitment := by
  simp only [getTokensWithWitnessAndBF, ok_iff, zip_cons_cons, zip_nil_left, zipIdx_cons, zipIdx_nil, mapM_cons, mapM_nil] at computed
  obtain ⟨_, -, commitment, made, _, rfl, rfl⟩ := computed
  exact ⟨commitment, rfl, made⟩

variable [DecidableEq G]

theorem upgrade_witness_ok {pp : Params G} (valid : pp.toPublicParams.validate curves = .ok ())
    {input : ActionInput F G} {witness : UpgradeWitness F} (upgraded : input.upgradeWitness = some witness)
    (passed : upgradeWitness curve pp index (some input) = .ok ()) :
    ∃ fabToken, UpgradedFrom curve pp.toPublicParams input witness fabToken := by
  simp only [upgradeWitness, ok_iff, Option.some.injEq] at passed
  obtain ⟨_, rfl, passed⟩ := passed
  simp only [upgraded, ok_iff, operand_ok_iff] at passed
  obtain ⟨fabToken, fab, q, read, tokens, computed, commitment, head, token, given, data, known, _, same, _, owned, owner⟩ := passed
  obtain ⟨v, parsed, exact_word⟩ := quantity_exact (validated_precision valid) read
  obtain ⟨made, rfl, committed⟩ := single_token_ok computed
  obtain rfl := Option.some.inj head
  obtain ⟨g0, g1, g2, value, b, generators, valued, blinded, rfl⟩ := commit_ok (validated_params valid).1 committed
  obtain ⟨-, rfl⟩ := Element.mk.inj (Option.some.inj valued)
  refine ⟨fabToken, fab, token, g0, g1, g2, v, b, given, generators, blinded, parsed, ?_, ?_, owner⟩
  · rw [known, same, exact_word]
    rfl
  · exact fun empty => owned (Or.inl empty)

theorem upgrade_witness_sound {curves : Nat} {curve : Curve F G} (messages : TokenMessages G) {ctx ctx' : TransferContext F G}
    (valid : ctx.pp.toPublicParams.validate curves = .ok ()) (accepted : transferUpgradeWitnessValidate curve ctx = .ok ctx')
    {index : Nat} {input : ActionInput F G} {witness : UpgradeWitness F} (found : ctx.action.inputs[index]? = some (some input))
    (upgraded : input.upgradeWitness = some witness) :
    ∃ fabToken, UpgradedFrom curve ctx.pp.toPublicParams input witness fabToken ∧
      ∀ serialized, ctx.action.getSerializedInputs messages = .ok serialized →
        serialized[index]? = some (some fabToken.serialize) ∧
        ∀ (token : Token G) raw, token.serialize messages = .ok raw → raw ≠ fabToken.serialize := by
  simp only [transferUpgradeWitnessValidate, ok_iff] at accepted
  obtain ⟨_, each, -⟩ := accepted
  have passed := check_each_ok_iff.mp each index (some input) found
  obtain ⟨fabToken, made⟩ := upgrade_witness_ok valid upgraded passed
  refine ⟨fabToken, made, fun serialized done => ⟨?_, fun token raw written => fab_token_not_commitment written fabToken⟩⟩
  have here := serialized_input_at done found upgraded
  rwa [made.fab] at here

end Sound

namespace UpgradeBits

def params : PublicParams (ZMod 2) :=
  { curve := 0
    pedersenGenerators := List.replicate 3 (pointer 0 1)
    rangeProofParams := some
      { leftGenerators := List.replicate 16 (pointer 0 1), rightGenerators := List.replicate 16 (pointer 0 1)
        P := pointer 0 1, Q := pointer 0 1, bitLength := 16, numberOfRounds := 4 }
    cspRangeProofParams := none
    idemixIssuerPublicKeys := [some { publicKey := [1], curve := 0 }]
    maxToken := 65535
    quantityPrecision := 16 }

def fabToken : Fabtoken.Output := { owner := [7], type := ascii "T", quantity := ascii "3" }

def upgraded : ActionInput (ZMod 2) (ZMod 2) :=
  { id := some ⟨ascii "tx", 0⟩
    token := some { owner := [7], data := pointer 0 1 }
    upgradeWitness := some { fabToken := some fabToken, blindingFactor := pointer 0 1 } }

def context : TransferContext (ZMod 2) (ZMod 2) :=
  { pp := { params with auditorIDs := [], issuerIDs := [] }
    tokenRequest := { version := 1, actions := [], signatures := [] }
    deserializer :=
      { uniqueID := fun _ => ""
        getOwnerVerifier := fun _ => .ok none
        getIssuerVerifier := fun _ => .ok none
        getAuditorVerifier := fun _ => .ok none }
    signatureProvider := { message := [], cursor := 0, sigs := [], clock := fun _ _ => 0 }
    signatures := []
    inputTokens := []
    action := { inputs := [some upgraded], outputs := [], proofType := .rangeProofType, proof := [], metadata := [], issuer := none }
    metadataCounter := []
    now := 0 }

def ones : Curve (ZMod 2) (ZMod 2) := { hashToZr := fun _ => 1, bytes := fun _ => [] }

def messages : TokenMessages (ZMod 2) := { marshal := fun token => .ok token.owner }

theorem token_upgraded : ∃ fabToken, UpgradedFrom ones params upgraded ⟨some UpgradeBits.fabToken, pointer 0 1⟩ fabToken ∧
    ∀ serialized, context.action.getSerializedInputs messages = .ok serialized → serialized[0]? = some (some fabToken.serialize) ∧
      ∀ (token : Token (ZMod 2)) raw, token.serialize messages = .ok raw → raw ≠ fabToken.serialize :=
  @upgrade_witness_sound _ _ _ _ _ _ 1 ones messages context context (by decide +kernel) rfl 0 upgraded _ rfl rfl

end UpgradeBits

end Panurus.Zkatdlog
