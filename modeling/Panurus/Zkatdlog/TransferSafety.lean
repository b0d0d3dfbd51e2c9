import Mathlib.Tactic.NormNum.Prime
import Panurus.Zkatdlog.Conservation

namespace Panurus.Zkatdlog

open List Lib Outcome Lib.Sigma

section Extractors

variable {F G S R RB RC : Type} [Field F] [AddCommGroup G] [Module F G]

def RangeProofSystem.typeAndSum (system : RangeProofSystem F G S R) (proofRaw : Bytes) :
    Outcome (TypeAndSumProof F G) := do
  let proof ← system.deserialize proofRaw
  required proof.typeAndSum errMissingTypeAndSumProof

def TransferAction.typeAndSum (systems : Systems F G RB RC) (action : TransferAction G) : Outcome (TypeAndSumProof F G) :=
  match action.proofType with
  | .rangeProofType => systems.bulletproof.typeAndSum action.proof
  | .cspRangeProofType => systems.csp.typeAndSum action.proof
  | .other number => .error s!"{errProofTypeMismatch}: proof type {number} is not available in public parameters"

structure RangeExtractors (F G RB RC : Type) where
  bulletproof : RangeStatement G → RB → ℕ × F
  csp : CSPRangeStatement G → RC → ℕ × F

def RangeOpened (pedersenParameters : Elements G) (bitLength : UInt64) (commitment : G) (range : ℕ × F) : Prop :=
  range.1 < 2 ^ bitLength.toNat ∧ ∀ g h, pedersenParameters = [some g, some h] →
    commitment = (range.1 : F) • g.value + range.2 • h.value

-- An accepted range proof guarantees an opening of its commitment below 2^BitLength.
structure RangeSound (systems : Systems F G RB RC) (extractors : RangeExtractors F G RB RC) : Prop where
  bulletproof : ∀ statement proof, systems.bulletproof.verify statement proof = .ok () →
    RangeOpened statement.pedersenParameters statement.bitLength statement.commitment
      (extractors.bulletproof statement proof)
  csp : ∀ statement proof, systems.csp.verify statement proof = .ok () →
    RangeOpened statement.pedersenParameters statement.bitLength statement.commitment (extractors.csp statement proof)

def rangeOpening (extract : S → R → ℕ × F) (statement : G → S) (entry : G × Option R) : Outcome (ℕ × F) := do
  let range ← required entry.2 "nil proof"
  return extract (statement entry.1) range

def TransferVerifier.rangeOpenings (system : RangeProofSystem F G S R) (extract : S → R → ℕ × F)
    (verifier : TransferVerifier G S) (proofRaw : Bytes) : Outcome (List (ℕ × F)) := do
  let proof ← system.deserialize proofRaw
  match verifier.rangeCorrectness with
  | none => return []
  | some rangeVerifier => do
    let proofs ← required proof.rangeCorrectness errMissingRangeProof
    let typeAndSum ← required proof.typeAndSum errMissingTypeAndSumProof
    let commitmentToType ← operand verifier.curveID typeAndSum.commitmentToType
    let outputs ← verifier.typeAndSum.outputs.mapM (operand verifier.curveID)
    ((shifted commitmentToType outputs).zip proofs).mapM (rangeOpening extract rangeVerifier.statement)

def rangeOpenings (systems : Systems F G RB RC) (extractors : RangeExtractors F G RB RC) (pp : PublicParams G)
    (inputs : Elements G) (action : TransferAction G) : Outcome (List (ℕ × F)) :=
  match action.proofType, pp.rangeProofParams, pp.cspRangeProofParams with
  | .rangeProofType, some params, _ =>
    (newBulletProofVerifier inputs action.getOutputCommitments pp params).rangeOpenings systems.bulletproof
      extractors.bulletproof action.proof
  | .cspRangeProofType, _, some params =>
    (newCSPVerifier inputs action.getOutputCommitments pp params).rangeOpenings systems.csp extractors.csp action.proof
  | _, _, _ => .error s!"{errProofTypeMismatch}: proof type {action.proofType.number} is not available in public parameters"

def exhibited (systems : Systems F G RB RC) (extractors : RangeExtractors F G RB RC) (pp : PublicParams G)
    (inputs : Elements G) (action : TransferAction G) (first second : TypeAndSumProof F G)
    (openings : List (Opening F)) : Outcome (List (F × F × F)) := do
  let firstValues ← first.values pp.curve
  let secondValues ← second.values pp.curve
  let ranges ← rangeOpenings systems extractors pp inputs action
  return exhibitedRelations firstValues secondValues openings ranges

-- Two transcripts accepted for one statement, under two random oracles, with the same commitments and different
-- challenges.
structure Rewound (verifier : TypeAndSumVerifier G) (statement : TransferStatement G) [DecidableEq F]
    (first second : TypeAndSumProof F G) : Prop where
  accepted : ∃ oracle : Curve F G, verifier.verify oracle first = .ok ()
  accepted' : ∃ oracle : Curve F G, verifier.verify oracle second = .ok ()
  same : (announcements statement) <$> first.values verifier.curveID =
    (announcements statement) <$> second.values verifier.curveID
  distinct : first.challenge ≠ second.challenge

end Extractors

section Layers

variable {F G S R : Type} [Field F] [DecidableEq F] [AddCommGroup G] [Module F G]

theorem transcripts_of_rewound {verifier : TypeAndSumVerifier G} {statement : TransferStatement G}
    {first second : TypeAndSumProof F G} (about : verifier.statement = .ok statement)
    (rewound : Rewound verifier statement first second) :
    ∃ firstValues secondValues, first.values verifier.curveID = .ok firstValues ∧
      second.values verifier.curveID = .ok secondValues ∧ Transcripts statement firstValues secondValues := by
  obtain ⟨oracle, verified⟩ := rewound.accepted
  obtain ⟨oracle', verified'⟩ := rewound.accepted'
  obtain ⟨_, firstValues, accepted⟩ := type_and_sum_accepted verified
  obtain ⟨_, secondValues, accepted'⟩ := type_and_sum_accepted verified'
  obtain rfl := Except.ok.inj (accepted.about.symm.trans about)
  obtain rfl := Except.ok.inj (accepted'.about.symm.trans about)
  have same := rewound.same
  rw [accepted.read, accepted'.read] at same
  refine ⟨firstValues, secondValues, accepted.read, accepted'.read, ?_, Except.ok.inj same, ?_, ?_⟩
  · intro equal
    refine rewound.distinct ?_
    have read := operand_ok_iff.mp (values_ok_iff.mp accepted.read).2.2.2.2.2.2
    have read' := operand_ok_iff.mp (values_ok_iff.mp accepted'.read).2.2.2.2.2.2
    rw [read, read', equal]
  · rw [length_zip, accepted.values, accepted.blindingFactors, Nat.min_self]
  · rw [length_zip, accepted'.values, accepted'.blindingFactors, Nat.min_self]

omit [Field F] [DecidableEq F] [AddCommGroup G] [Module F G] in
theorem range_openings_of_checked {system : RangeProofSystem F G S R} (extract : S → R → ℕ × F) {statement : G → S}
    {points : List G} {proofs : List (Option R)} (checked : List.Forall₂ (fun point entry => ∃ range, entry = some range ∧
      system.verify (statement point) range = .ok ()) points proofs) :
    ∃ ranges, (points.zip proofs).mapM (rangeOpening extract statement) = .ok ranges ∧
      List.Forall₂ (fun point opening => ∃ range, system.verify (statement point) range = .ok () ∧
        opening = extract (statement point) range) points ranges := by
  induction checked with
  | nil => exact ⟨[], rfl, .nil⟩
  | cons head _ ih =>
    obtain ⟨range, rfl, verified⟩ := head
    obtain ⟨ranges, read, extracted⟩ := ih
    refine ⟨extract _ range :: ranges, ?_, .cons ⟨range, verified, rfl⟩ extracted⟩
    rw [zip_cons_cons, mapM_cons, read]
    rfl

end Layers

section Verifier

variable {p : ℕ} [Fact p.Prime] {G S R : Type} [AddCommGroup G] [Module (ZMod p) G] [DecidableEq G]

theorem verifier_conserves {curve : Curve (ZMod p) G} {system : RangeProofSystem (ZMod p) G S R} {extract : S → R → ℕ × ZMod p}
    {verifier : TransferVerifier G S} {rangeVerifier : RangeCorrectnessVerifier G S} {proofRaw : Bytes}
    {statement : TransferStatement G} {first second : TypeAndSumValues (ZMod p) G} {carried : TypeAndSumProof (ZMod p) G}
    {openings : List (Opening (ZMod p))} {bound : ℕ} (accepted : verifier.verify curve system proofRaw = .ok ())
    (onCurve : verifier.typeAndSum.curveID = verifier.curveID) (skips : verifier.rangeCorrectness =
      rangeVerifierFor verifier.typeAndSum.inputs verifier.typeAndSum.outputs rangeVerifier)
    (about : verifier.typeAndSum.statement = .ok statement)
    (sound : ∀ point range, system.verify (rangeVerifier.statement point) range = .ok () →
      (extract (rangeVerifier.statement point) range).1 < bound ∧
        OpenedBy statement.generators point (rangeCoefficients (extract (rangeVerifier.statement point) range)))
    (transcripts : Transcripts statement first second) (carries : system.typeAndSum proofRaw = .ok carried)
    (shared : operand verifier.curveID carried.commitmentToType = .ok first.commitmentToType)
    (opened : List.Forall₂ (OpenedBy statement.generators) statement.inputs (openings.map Opening.coefficients))
    (small : ∀ opening ∈ openings, opening.value < bound)
    (room : (statement.inputs.length + statement.outputs.length) * bound < p) :
    ∃ ranges, verifier.rangeOpenings system extract proofRaw = .ok ranges ∧
      (Exhibits statement.generators (exhibitedRelations first second openings ranges) ∨
        ∃ type tokens, Conserved statement.generators bound statement.outputs openings type tokens) := by
  obtain ⟨proof, typeAndSum, done⟩ := transfer_accepted accepted
  obtain ⟨inputsRead, outputsRead, -⟩ := statement_ok_iff.mp about
  rw [rangeVerifierFor] at skips
  split at skips
  · obtain ⟨proofs, commitmentToType, outputs, present, typeRead, outputsRead', checked⟩ := done.ranged _ skips
    obtain ⟨ranges, extracted, openedRanges⟩ := range_openings_of_checked extract checked
    simp only [RangeProofSystem.typeAndSum, ok_iff] at carries
    obtain ⟨_, decoded, component⟩ := carries
    obtain rfl := Except.ok.inj (decoded.symm.trans done.decoded)
    obtain rfl := Option.some.inj (component.symm.trans done.component)
    obtain rfl := Except.ok.inj (typeRead.symm.trans shared)
    rw [onCurve] at outputsRead
    obtain rfl := Except.ok.inj (outputsRead.symm.trans outputsRead')
    refine ⟨ranges, ?_, ?_⟩
    · simp only [TransferVerifier.rangeOpenings, ok_iff, skips]
      exact ⟨_, decoded, proofs, present, carried, component, _, typeRead, _, outputsRead', extracted⟩
    · have guaranteed : List.Forall₂ (fun range point => range.1 < bound ∧
          OpenedBy statement.generators point (rangeCoefficients range)) ranges
          (shifted first.commitmentToType statement.outputs) := by
        refine openedRanges.flip.imp ?_
        rintro _ point ⟨range, verified, rfl⟩
        exact sound point range verified
      obtain ⟨bounded, ranged⟩ := (forall₂_and_left _ _).mp guaranteed
      refine conserved_or_related transcripts opened small (forall₂_map_right_iff.mpr ranged.flip) bounded ?_
      have inputs := opened.length_eq
      have outputs := ranged.length_eq
      rw [length_map] at inputs
      rw [shifted, length_map] at outputs
      rwa [outputs, ← inputs]
  · rename_i single
    push Not at single
    refine ⟨[], ?_, Or.inr ?_⟩
    · simp only [TransferVerifier.rangeOpenings, ok_iff, skips]
      exact ⟨proof, done.decoded, trivial⟩
    · refine single_conserved transcripts opened small ?_ ?_
      · rw [operands_length inputsRead, single.1]
      · rw [operands_length outputsRead, single.2]

end Verifier

section Validated

variable {F G : Type} {bitLength : UInt64} {pp : PublicParams G}

theorem validate_bit_length {params : PublicParams G} {valid : Outcome Unit}
    (passed : validateBitLength params bitLength valid = .ok ()) : bitLength = params.quantityPrecision := by
  simp only [validateBitLength, ok_iff] at passed
  obtain ⟨_, -, _, -, same⟩ := passed
  exact same.symm

theorem pedersen_parameters {inputs outputs : Elements G} {statement : TransferStatement G}
    (three : pp.pedersenGenerators.length = 3) (about : (newTypeAndSumVerifier pp inputs outputs).statement = .ok statement) :
    pp.pedersenGenerators.drop 1 = [some ⟨pp.curve, statement.g1⟩, some ⟨pp.curve, statement.g2⟩] := by
  obtain ⟨-, -, -, second, third⟩ := statement_ok_iff.mp about
  simp only [TypeAndSumVerifier.generator, newTypeAndSumVerifier, ok_iff, operand_ok_iff] at second third
  obtain ⟨g0, g1, g2, generators⟩ := length_eq_three.mp three
  rw [generators] at second third ⊢
  simpa using And.intro second third

theorem range_opened [Field F] [AddCommGroup G] [Module F G] {statement : TransferStatement G} {point : G} {range : ℕ × F}
    (generators : pp.pedersenGenerators.drop 1 = [some ⟨pp.curve, statement.g1⟩, some ⟨pp.curve, statement.g2⟩])
    (precise : bitLength = pp.quantityPrecision) (opened : RangeOpened (pp.pedersenGenerators.drop 1) bitLength point range) :
    range.1 < 2 ^ pp.quantityPrecision.toNat ∧ OpenedBy statement.generators point (rangeCoefficients range) := by
  obtain ⟨below, opens⟩ := opened
  refine ⟨precise ▸ below, ?_⟩
  rw [OpenedBy, combine, rangeCoefficients, zero_smul, zero_add]
  exact opens _ _ generators

variable [AddCommGroup G] [DecidableEq G]

theorem validated_params {curves : Nat} (valid : pp.validate curves = .ok ()) :
    pp.pedersenGenerators.length = 3 ∧ (∀ params, pp.rangeProofParams = some params → params.bitLength = pp.quantityPrecision) ∧
      ∀ params, pp.cspRangeProofParams = some params → params.bitLength = pp.quantityPrecision := by
  simp only [PublicParams.validate, ok_iff, checkElements] at valid
  obtain ⟨_, -, _, -, _, -, _, ⟨_, three, -⟩, _, -, _, range, _, csp, -⟩ := valid
  refine ⟨three, fun params given => ?_, fun params given => ?_⟩
  · rw [given] at range
    exact validate_bit_length range
  · rw [given] at csp
    exact validate_bit_length csp

end Validated

section Transfer

variable {p : ℕ} [Fact p.Prime] {G RB RC : Type} [AddCommGroup G] [Module (ZMod p) G] [DecidableEq G]

def inputCommitments (inputTokens : List (Option (Token G))) : Elements G :=
  inputTokens.map fun token => token.bind Token.data

omit [AddCommGroup G] [DecidableEq G] in
theorem input_commitments_read {inputTokens : List (Option (Token G))} {inputs : Elements G}
    (read : inputTokens.zipIdx.mapM readInput = .ok inputs) : inputs = inputCommitments inputTokens := by
  have pairs : List.Forall₂ (fun entry data => entry.1.bind Token.data = data) inputTokens.zipIdx inputs := by
    refine (mapM_ok_iff.mp read).imp ?_
    rintro ⟨token, index⟩ data stepped
    simp only [readInput, ok_iff] at stepped
    obtain ⟨token, rfl, rfl⟩ := stepped
    rfl
  have mapped : List.Forall₂ Eq (inputTokens.zipIdx.map fun entry => entry.1.bind Token.data) inputs :=
    forall₂_map_left_iff.mpr pairs
  rw [forall₂_eq_eq_eq] at mapped
  calc inputs = inputTokens.zipIdx.map fun entry => entry.1.bind Token.data := mapped.symm
    _ = (inputTokens.zipIdx.map Prod.fst).map fun token => token.bind Token.data := by rw [map_map]; rfl
    _ = inputCommitments inputTokens := by rw [zipIdx_map_fst]; rfl

theorem transfer_conserves_value {curves : Nat} {pp : PublicParams G} (valid : pp.validate curves = .ok ())
    {systems : Systems (ZMod p) G RB RC} {extractors : RangeExtractors (ZMod p) G RB RC} (sound : RangeSound systems extractors)
    {curve : Curve (ZMod p) G} {inputTokens : List (Option (Token G))} {action : TransferAction G}
    (accepted : transferZKProofValidate curve systems pp inputTokens action = .ok ()) {statement : TransferStatement G}
    (about : (newTypeAndSumVerifier pp (inputCommitments inputTokens) action.getOutputCommitments).statement =
      .ok statement) {openings : List (Opening (ZMod p))}
    (opened : List.Forall₂ (OpenedBy statement.generators) statement.inputs (openings.map Opening.coefficients))
    (small : ∀ opening ∈ openings, opening.value < 2 ^ pp.quantityPrecision.toNat)
    (room : (statement.inputs.length + statement.outputs.length) * 2 ^ pp.quantityPrecision.toNat < p)
    {carried first second : TypeAndSumProof (ZMod p) G} (carries : action.typeAndSum systems = .ok carried)
    (shared : carried.commitmentToType = first.commitmentToType)
    (rewound : Rewound (newTypeAndSumVerifier pp (inputCommitments inputTokens) action.getOutputCommitments) statement
      first second) :
    ∃ relations, exhibited systems extractors pp (inputCommitments inputTokens) action first second openings = .ok relations ∧
      (Exhibits statement.generators relations ∨
        ∃ type tokens, Conserved statement.generators (2 ^ pp.quantityPrecision.toNat) statement.outputs openings type
          tokens) := by
  obtain ⟨three, rangeLength, cspLength⟩ := validated_params valid
  have generators := pedersen_parameters three about
  obtain ⟨firstValues, secondValues, read, read', transcripts⟩ := transcripts_of_rewound about rewound
  have typed : operand pp.curve carried.commitmentToType = .ok firstValues.commitmentToType := by
    rw [shared]
    exact (values_ok_iff.mp read).1
  simp only [transferZKProofValidate, bind_ok_iff, join_ok_iff] at accepted
  obtain ⟨inputs, inputsRead, verified⟩ := accepted
  obtain rfl := input_commitments_read inputsRead
  obtain ⟨ranges, computed, result⟩ : ∃ ranges,
      rangeOpenings systems extractors pp (inputCommitments inputTokens) action = .ok ranges ∧
        (Exhibits statement.generators (exhibitedRelations firstValues secondValues openings ranges) ∨
          ∃ type tokens, Conserved statement.generators (2 ^ pp.quantityPrecision.toNat) statement.outputs openings type
            tokens) := by
    unfold verifyTransfer at verified
    split at verified
    · rename_i params kind given
      simp only [TransferAction.typeAndSum, kind] at carries
      simp only [rangeOpenings, kind, given]
      exact verifier_conserves verified rfl rfl about
        (fun point range passed => range_opened generators (rangeLength params given) (sound.bulletproof _ _ passed))
        transcripts carries typed opened small room
    · rename_i params kind given
      simp only [TransferAction.typeAndSum, kind] at carries
      simp only [rangeOpenings, kind, given]
      exact verifier_conserves verified rfl rfl about
        (fun point range passed => range_opened generators (cspLength params given) (sound.csp _ _ passed))
        transcripts carries typed opened small room
    · cases verified
  refine ⟨exhibitedRelations firstValues secondValues openings ranges, ?_, result⟩
  simp only [exhibited, ok_iff]
  exact ⟨_, read, _, read', ranges, computed, rfl⟩

end Transfer

-- One input of 10 is split into outputs of 7 and 3, over three independent generators. A range proof of this small
-- deployment is the opening itself.
namespace Split

abbrev order : ℕ := 196613

instance : Fact order.Prime := ⟨by norm_num⟩

abbrev Point : Type := ZMod order × ZMod order × ZMod order

def element {α : Type} (value : α) : Option (Element α) := some ⟨0, value⟩

def params : PublicParams Point where
  curve := 0
  pedersenGenerators := [element (1, 0, 0), element (0, 1, 0), element (0, 0, 1)]
  rangeProofParams := some
    { leftGenerators := List.replicate 16 (element (1, 1, 0)), rightGenerators := List.replicate 16 (element (1, 0, 1))
      P := element (0, 1, 1), Q := element (1, 1, 1), bitLength := 16, numberOfRounds := 4 }
  cspRangeProofParams := none
  idemixIssuerPublicKeys := [some { publicKey := [1], curve := 0 }]
  maxToken := 65535
  quantityPrecision := 16

def transcript (challenge : ZMod order) : TypeAndSumProof (ZMod order) Point where
  commitmentToType := element (9, 0, 5)
  inputBlindingFactors := [element (-challenge)]
  inputValues := [element (challenge * 10)]
  type := element (challenge * 9)
  typeBlindingFactor := element (challenge * 5)
  equalityOfSum := element (challenge * 6)
  challenge := element challenge

def opensBelow (statement : RangeStatement Point) (range : ℕ × ZMod order) : Bool :=
  decide (range.1 < 2 ^ statement.bitLength.toNat) &&
    match statement.pedersenParameters with
    | [some g, some h] => decide (statement.commitment = (range.1 : ZMod order) • g.value + range.2 • h.value)
    | _ => false

def systems : Systems (ZMod order) Point (ℕ × ZMod order) Unit where
  bulletproof :=
    { deserialize := fun raw => if raw = [1] then
        .ok { typeAndSum := some (transcript 5), rangeCorrectness := some [some (7, -4), some (3, -3)] }
        else .error "malformed proof"
      validate := fun _ _ => .ok ()
      verify := fun statement range => ensure (opensBelow statement range) "range proof mismatch" }
  csp :=
    { deserialize := fun _ => .error "malformed proof", validate := fun _ _ => .ok ()
      verify := fun _ _ => .error "range proof mismatch" }

def extractors : RangeExtractors (ZMod order) Point (ℕ × ZMod order) Unit where
  bulletproof := fun _ range => range
  csp := fun _ _ => (0, 0)

def oracle (challenge : ZMod order) : Curve (ZMod order) Point where
  hashToZr := fun _ => challenge
  bytes := fun _ => []

def inputTokens : List (Option (Token Point)) := [some { owner := [1], data := element (9, 10, 4) }]

def action : TransferAction Point where
  outputs := [some { owner := [2], data := element (9, 7, 1) }, some { owner := [1], data := element (9, 3, 2) }]
  proofType := .rangeProofType
  proof := [1]

def statement : TransferStatement Point where
  g0 := (1, 0, 0)
  g1 := (0, 1, 0)
  g2 := (0, 0, 1)
  inputs := [(9, 10, 4)]
  outputs := [(9, 7, 1), (9, 3, 2)]

theorem range_sound : RangeSound systems extractors := by
  refine ⟨fun statement range accepted => ?_, fun _ _ accepted => by cases accepted⟩
  simp only [systems, ensure_ok_iff, opensBelow, Bool.and_eq_true, decide_eq_true_eq] at accepted
  refine ⟨accepted.1, fun g h given => ?_⟩
  have matched := accepted.2
  rw [given] at matched
  exact of_decide_eq_true matched

def opening : Opening (ZMod order) where
  type := 9
  value := 10
  blinding := 4

theorem split_conserves_value :
    ∃ type tokens, Conserved statement.generators (2 ^ params.quantityPrecision.toNat) statement.outputs [opening] type
      tokens := by
  have valid : params.validate 1 = .ok () := by decide +kernel
  have accepted : transferZKProofValidate (oracle 5) systems params inputTokens action = .ok () := by decide +kernel
  have about : (newTypeAndSumVerifier params (inputCommitments inputTokens) action.getOutputCommitments).statement =
    .ok statement := rfl
  have opened : List.Forall₂ (OpenedBy statement.generators) statement.inputs ([opening].map Opening.coefficients) := by
    simp [OpenedBy, combine, statement, opening, TransferStatement.generators, Opening.coefficients]
  have carries : action.typeAndSum systems = .ok (transcript 5) := rfl
  have rewound : Rewound (newTypeAndSumVerifier params (inputCommitments inputTokens) action.getOutputCommitments)
      statement (transcript 5) (transcript 7) :=
    ⟨⟨oracle 5, by decide +kernel⟩, ⟨oracle 7, by decide +kernel⟩, by decide +kernel, by decide +kernel⟩
  obtain ⟨relations, -, ⟨relation, -, nonzero, vanishes⟩ | conserved⟩ :=
    transfer_conserves_value valid range_sound accepted about opened (by decide +kernel) (by decide +kernel) carries rfl
      rewound
  -- The generators are a basis, so no relation between them is exhibited.
  · exact absurd (by simpa [combine, statement, TransferStatement.generators] using vanishes) nonzero
  · exact conserved

end Split

end Panurus.Zkatdlog
