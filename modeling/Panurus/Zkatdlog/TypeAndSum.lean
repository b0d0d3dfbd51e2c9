import Mathlib.Algebra.Module.Defs
import Panurus.Lib.FixedWidth
import Panurus.Lib.Outcome

namespace Panurus.Zkatdlog

open Lib Outcome

abbrev CurveID := Nat

-- A group or scalar element with the curve it was made on. The code handles pointers to these, so a
-- field of the program is an Option of it and none is nil.
structure Element (α : Type) where
  curve : CurveID
  value : α
deriving DecidableEq, Repr

abbrev Elements (α : Type) := List (Option (Element α))

section Checks

variable {G F : Type} [AddCommGroup G] [DecidableEq G]

def checkElement (element : Option (Element G)) (curveID : CurveID) : Outcome Unit := do
  let element ← required element "element is nil"
  ensure (element.curve = curveID) "element curve must equal curve ID"
  ensure (element.value ≠ 0) "element is infinity"

def checkElements (elements : Elements G) (curveID : CurveID) (length : Nat) : Outcome Unit := do
  ensure (elements.length = length) "length of elements does not match length of curveID"
  checkEach (fun _ element => checkElement element curveID) 0 elements

def checkBaseElement (element : Option (Element F)) (curveID : CurveID) : Outcome Unit := do
  let element ← required element "element is nil"
  ensure (element.curve = curveID) "element curve must equal curve ID"

def checkZrElements (elements : Elements F) (curveID : CurveID) (length : Nat) : Outcome Unit := do
  ensure (elements.length = length) "length of elements does not match length of curveID"
  checkEach (fun _ element => checkBaseElement element curveID) 0 elements

-- The math library panics on a nil operand and on operands of two curves.
def operand {α : Type} (curveID : CurveID) (element : Option (Element α)) : Outcome α := do
  let element ← required element "panic: nil element"
  ensure (element.curve = curveID) "panic: curve mismatch"
  return element.value

end Checks

structure RangeProofParams (G : Type) where
  leftGenerators : Elements G
  rightGenerators : Elements G
  P : Option (Element G)
  Q : Option (Element G)
  bitLength : UInt64
  numberOfRounds : UInt64

structure CSPRangeProofParams (G : Type) where
  leftGenerators : Elements G
  rightGenerators : Elements G
  bitLength : UInt64
  rpTranscriptHeader : Bytes

structure IdemixIssuerPublicKey where
  publicKey : Bytes
  curve : CurveID

structure PublicParams (G : Type) where
  curve : CurveID
  pedersenGenerators : Elements G
  rangeProofParams : Option (RangeProofParams G)
  cspRangeProofParams : Option (CSPRangeProofParams G)
  idemixIssuerPublicKeys : List (Option IdemixIssuerPublicKey)
  maxToken : UInt64
  quantityPrecision : UInt64

def supportedPrecisions : List UInt64 := [16, 32, 64]

section Validate

variable {G : Type} [AddCommGroup G] [DecidableEq G]

def shiftOne (count : UInt64) : UInt64 := UInt64.ofNat (2 ^ count.toNat)

def checkSizes {α : Type} (left right : List α) : Outcome Unit :=
  ensure (left.length = right.length)
    (s!"invalid range proof parameters: the size of the left generators does not match the size of the right generators " ++
      s!"[{left.length} vs, {right.length}]")

def RangeProofParams.validate (params : RangeProofParams G) (curveID : CurveID) : Outcome Unit := do
  ensure (params.bitLength ≠ 0) "invalid range proof parameters: bit length is zero"
  ensure (params.numberOfRounds ≠ 0) "invalid range proof parameters: number of rounds is zero"
  ensure (params.numberOfRounds ≤ 64) "invalid range proof parameters: number of rounds must be smaller or equal to 64"
  ensure (params.bitLength = shiftOne params.numberOfRounds)
    s!"invalid range proof parameters: bit length should be {shiftOne params.numberOfRounds}\n"
  checkSizes params.leftGenerators params.rightGenerators
  wrap "invalid range proof parameters: generator Q is invalid" (checkElement params.Q curveID)
  wrap "invalid range proof parameters: generator P is invalid" (checkElement params.P curveID)
  wrap "invalid range proof parameters, left generators is invalid"
    (checkElements params.leftGenerators curveID params.bitLength.toNat)
  wrap "invalid range proof parameters, right generators is invalid"
    (checkElements params.rightGenerators curveID params.bitLength.toNat)

def CSPRangeProofParams.validate (params : CSPRangeProofParams G) (curveID : CurveID) : Outcome Unit := do
  ensure (params.bitLength ≠ 0) "invalid range proof parameters: bit length is zero"
  checkSizes params.leftGenerators params.rightGenerators
  wrap "invalid range proof parameters, left generators is invalid"
    (checkElements params.leftGenerators curveID (params.bitLength + 1).toNat)
  wrap "invalid range proof parameters, right generators is invalid"
    (checkElements params.rightGenerators curveID (params.bitLength + 1).toNat)

def computeMaxTokenValue (params : PublicParams G) : UInt64 :=
  match params.rangeProofParams, params.cspRangeProofParams with
  | some range, _ => shiftOne range.bitLength - 1
  | none, some csp => shiftOne csp.bitLength - 1
  | none, none => 0

def validateIdemixKey (curves : Nat) (params : PublicParams G) (key : Option IdemixIssuerPublicKey) : Outcome Unit := do
  let key ← required key "invalid idemix issuer public key, it is nil"
  ensure (key.publicKey ≠ []) "expected idemix issuer public key to be non-empty"
  ensure (key.curve < curves)
    s!"invalid public parameters: invalid idemix curveID [{params.curve} > {curves - 1}]"

def validateBitLength (params : PublicParams G) (bitLength : UInt64) (valid : Outcome Unit) : Outcome Unit := do
  ensure (bitLength ∈ supportedPrecisions) s!"invalid bit length [{bitLength}], should be one of [{supportedPrecisions}]"
  wrap "invalid public parameters" valid
  ensure (params.quantityPrecision = bitLength)
    s!"invalid public parameters: quantity precision should be [{bitLength}] instead it is [{params.quantityPrecision}]"

def PublicParams.validate (curves : Nat) (params : PublicParams G) : Outcome Unit := do
  ensure (params.curve < curves) s!"invalid public parameters: invalid curveID [{params.curve} > {curves - 1}]"
  ensure (params.idemixIssuerPublicKeys ≠ [])
    s!"expected at least one idemix issuer public key, found [{params.idemixIssuerPublicKeys.length}]"
  checkEach (fun _ key => validateIdemixKey curves params key) 0 params.idemixIssuerPublicKeys
  wrap "invalid pedersen generators" (checkElements params.pedersenGenerators params.curve 3)
  ensure (params.rangeProofParams.isSome ∨ params.cspRangeProofParams.isSome)
    "invalid public parameters: nil range proof parameters"
  (match params.rangeProofParams with
    | some range => validateBitLength params range.bitLength (range.validate params.curve)
    | none => .ok ())
  (match params.cspRangeProofParams with
    | some csp => validateBitLength params csp.bitLength (csp.validate params.curve)
    | none => .ok ())
  ensure (computeMaxTokenValue params = params.maxToken)
    s!"invalid max token, [{computeMaxTokenValue params}]!=[{params.maxToken}]"

end Validate

def errMissingSumAndTypeComponents : String := "invalid sum and type proof: missing components"
def errMissingSumAndTypeInputValue : String := "invalid sum and type proof: missing input value"
def errSumAndTypeChallengeMismatch : String := "invalid sum and type proof: challenge mismatch"
def errInvalidSumAndTypeProof : String := "invalid sum and type proof"
def errInvalidCommitmentToType : String := "CommitmentToType is invalid"
def errInvalidInputBlindingFactors : String := "InputBlindingFactors are invalid"
def errInvalidInputValues : String := "InputValues are invalid"
def errInvalidProofType : String := "Type is invalid"
def errInvalidTypeBlindingFactor : String := "TypeBlindingFactor is invalid"
def errInvalidEqualityOfSum : String := "EqualityOfSum is invalid"
def errInvalidChallenge : String := "Challenge is invalid"

structure TypeAndSumProof (F G : Type) where
  commitmentToType : Option (Element G)
  inputBlindingFactors : Elements F
  inputValues : Elements F
  type : Option (Element F)
  typeBlindingFactor : Option (Element F)
  equalityOfSum : Option (Element F)
  challenge : Option (Element F)

-- What the math library gives for one curve: hashing to scalars and the bytes of a point.
structure Curve (F G : Type) where
  hashToZr : Bytes → F
  bytes : G → Bytes

section Verify

variable {F G : Type} [Field F] [DecidableEq F] [AddCommGroup G] [Module F G] [DecidableEq G]

def TypeAndSumProof.validate (proof : TypeAndSumProof F G) (curveID : CurveID) : Outcome Unit := do
  join (checkElement proof.commitmentToType curveID) [errInvalidCommitmentToType, errInvalidSumAndTypeProof]
  join (checkZrElements proof.inputBlindingFactors curveID proof.inputValues.length)
    [errInvalidInputBlindingFactors, errInvalidSumAndTypeProof]
  join (checkZrElements proof.inputValues curveID proof.inputValues.length)
    [errInvalidInputValues, errInvalidSumAndTypeProof]
  join (checkBaseElement proof.type curveID) [errInvalidProofType, errInvalidSumAndTypeProof]
  join (checkBaseElement proof.typeBlindingFactor curveID) [errInvalidTypeBlindingFactor, errInvalidSumAndTypeProof]
  join (checkBaseElement proof.equalityOfSum curveID) [errInvalidEqualityOfSum, errInvalidSumAndTypeProof]
  join (checkBaseElement proof.challenge curveID) [errInvalidChallenge, errInvalidSumAndTypeProof]

-- AppendFixed32: each slice after its length in four octets. A slice of 2^32 bytes or more panics there;
-- the bytes of a point are a few dozen.
def appendFixed32 (slices : List Bytes) : Bytes :=
  slices.flatMap fun slice => FixedWidth.bigEndian 4 slice.length ++ slice

def Curve.g1ArrayBytes (curve : Curve F G) (points : List G) : Bytes := appendFixed32 (points.map curve.bytes)

structure TypeAndSumValues (F G : Type) where
  commitmentToType : G
  inputBlindingFactors : List F
  inputValues : List F
  type : F
  typeBlindingFactor : F
  equalityOfSum : F
  challenge : F
deriving DecidableEq

def TypeAndSumProof.values (proof : TypeAndSumProof F G) (curveID : CurveID) : Outcome (TypeAndSumValues F G) := do
  let commitmentToType ← operand curveID proof.commitmentToType
  let inputBlindingFactors ← proof.inputBlindingFactors.mapM (operand curveID)
  let inputValues ← proof.inputValues.mapM (operand curveID)
  let type ← operand curveID proof.type
  let typeBlindingFactor ← operand curveID proof.typeBlindingFactor
  let equalityOfSum ← operand curveID proof.equalityOfSum
  let challenge ← operand curveID proof.challenge
  return { commitmentToType, inputBlindingFactors, inputValues, type, typeBlindingFactor, equalityOfSum, challenge }

structure Announcements (G : Type) where
  inComs : List G
  typeCom : G
  sumCom : G
  inputs : List G
  outputs : List G
  commitmentToType : G
  sum : G
deriving DecidableEq

def Announcements.array (coms : Announcements G) : List G :=
  coms.inComs ++ [coms.typeCom, coms.sumCom] ++ coms.inputs ++ coms.outputs ++ [coms.commitmentToType, coms.sum]

def shifted (commitmentToType : G) (points : List G) : List G := points.map fun point => point - commitmentToType

def sumOf (inputs outputs : List G) : G :=
  outputs.foldl (fun sum output => sum - output) (inputs.foldl (fun sum input => sum + input) 0)

def folded (response : G) (point : G) (challenge : F) : G := (1 : F) • response + (-challenge) • point

def inputCommitment (g1 g2 : G) (challenge : F) (input : G) (responses : F × F) : G :=
  folded (responses.1 • g1 + responses.2 • g2) input challenge

structure TransferStatement (G : Type) where
  g0 : G
  g1 : G
  g2 : G
  inputs : List G
  outputs : List G

def announcements (statement : TransferStatement G) (proof : TypeAndSumValues F G) : Announcements G :=
  let ins := shifted proof.commitmentToType statement.inputs
  let outs := shifted proof.commitmentToType statement.outputs
  let sum := sumOf ins outs
  { inComs := List.zipWith (inputCommitment statement.g1 statement.g2 proof.challenge) ins
      (proof.inputValues.zip proof.inputBlindingFactors)
    typeCom := folded (proof.type • statement.g0 + proof.typeBlindingFactor • statement.g2) proof.commitmentToType
      proof.challenge
    sumCom := folded (proof.equalityOfSum • statement.g2) sum proof.challenge
    inputs := ins
    outputs := outs
    commitmentToType := proof.commitmentToType
    sum := sum }

structure TypeAndSumVerifier (G : Type) where
  curveID : CurveID
  pedParams : Elements G
  inputs : Elements G
  outputs : Elements G

def TypeAndSumVerifier.generator (verifier : TypeAndSumVerifier G) (index : Nat) : Outcome G := do
  let pointer ← required verifier.pedParams[index]? "panic: index out of range"
  operand verifier.curveID pointer

def TypeAndSumVerifier.statement (verifier : TypeAndSumVerifier G) : Outcome (TransferStatement G) := do
  let inputs ← verifier.inputs.mapM (operand verifier.curveID)
  let outputs ← verifier.outputs.mapM (operand verifier.curveID)
  let g0 ← verifier.generator 0
  let g1 ← verifier.generator 1
  let g2 ← verifier.generator 2
  return { g0, g1, g2, inputs, outputs }

def TypeAndSumVerifier.verify (curve : Curve F G) (verifier : TypeAndSumVerifier G) (stp : TypeAndSumProof F G) :
    Outcome Unit := do
  ensure (stp.typeBlindingFactor.isSome ∧ stp.type.isSome ∧ stp.commitmentToType.isSome ∧ stp.equalityOfSum.isSome)
    errMissingSumAndTypeComponents
  ensure (stp.inputBlindingFactors.length = verifier.inputs.length) errMissingSumAndTypeComponents
  ensure (stp.inputValues.length = verifier.inputs.length) errMissingSumAndTypeComponents
  ensure (∀ value ∈ stp.inputValues, value.isSome) errMissingSumAndTypeInputValue
  let proof ← stp.values verifier.curveID
  let statement ← verifier.statement
  let raw := curve.g1ArrayBytes (announcements statement proof).array
  let chal := curve.hashToZr raw
  ensure (chal = proof.challenge) errSumAndTypeChallengeMismatch

structure TypeAndSumAccepted (curve : Curve F G) (verifier : TypeAndSumVerifier G) (stp : TypeAndSumProof F G)
    (statement : TransferStatement G) (proof : TypeAndSumValues F G) : Prop where
  read : stp.values verifier.curveID = .ok proof
  about : verifier.statement = .ok statement
  blindingFactors : proof.inputBlindingFactors.length = statement.inputs.length
  values : proof.inputValues.length = statement.inputs.length
  challenged : curve.hashToZr (curve.g1ArrayBytes (announcements statement proof).array) = proof.challenge

end Verify

section Accepted

variable {F G α : Type} {curveID : CurveID} {stp : TypeAndSumProof F G} {verifier : TypeAndSumVerifier G}

theorem operand_ok_iff {pointer : Option (Element α)} {value : α} :
    operand curveID pointer = .ok value ↔ pointer = some ⟨curveID, value⟩ := by
  simp only [operand, ok_iff]
  constructor
  · rintro ⟨element, rfl, _, rfl, rfl⟩
    rfl
  · rintro rfl
    exact ⟨_, rfl, (), rfl, rfl⟩

theorem operands_length {pointers : Elements α} {values : List α}
    (read : pointers.mapM (operand curveID) = .ok values) : values.length = pointers.length :=
  (mapM_ok_iff.mp read).length_eq.symm

theorem values_ok_iff {proof : TypeAndSumValues F G} :
    stp.values curveID = .ok proof ↔ operand curveID stp.commitmentToType = .ok proof.commitmentToType ∧
      stp.inputBlindingFactors.mapM (operand curveID) = .ok proof.inputBlindingFactors ∧
      stp.inputValues.mapM (operand curveID) = .ok proof.inputValues ∧ operand curveID stp.type = .ok proof.type ∧
      operand curveID stp.typeBlindingFactor = .ok proof.typeBlindingFactor ∧
      operand curveID stp.equalityOfSum = .ok proof.equalityOfSum ∧ operand curveID stp.challenge = .ok proof.challenge := by
  simp only [TypeAndSumProof.values, ok_iff]
  constructor
  · rintro ⟨_, commitment, _, factors, _, inputValues, _, type, _, blinding, _, equality, _, challenge, rfl⟩
    exact ⟨commitment, factors, inputValues, type, blinding, equality, challenge⟩
  · rintro ⟨commitment, factors, inputValues, type, blinding, equality, challenge⟩
    exact ⟨_, commitment, _, factors, _, inputValues, _, type, _, blinding, _, equality, _, challenge, rfl⟩

theorem statement_ok_iff {statement : TransferStatement G} :
    verifier.statement = .ok statement ↔ verifier.inputs.mapM (operand verifier.curveID) = .ok statement.inputs ∧
      verifier.outputs.mapM (operand verifier.curveID) = .ok statement.outputs ∧
      verifier.generator 0 = .ok statement.g0 ∧ verifier.generator 1 = .ok statement.g1 ∧
      verifier.generator 2 = .ok statement.g2 := by
  simp only [TypeAndSumVerifier.statement, ok_iff]
  constructor
  · rintro ⟨_, inputs, _, outputs, _, first, _, second, _, third, rfl⟩
    exact ⟨inputs, outputs, first, second, third⟩
  · rintro ⟨inputs, outputs, first, second, third⟩
    exact ⟨_, inputs, _, outputs, _, first, _, second, _, third, rfl⟩

variable [Field F] [DecidableEq F] [AddCommGroup G] [Module F G]

theorem type_and_sum_accepted {curve : Curve F G} (accepted : verifier.verify curve stp = .ok ()) :
    ∃ statement proof, TypeAndSumAccepted curve verifier stp statement proof := by
  simp only [TypeAndSumVerifier.verify, ok_iff] at accepted
  obtain ⟨_, -, _, factors, _, values, _, -, proof, read, statement, about, challenged⟩ := accepted
  obtain ⟨-, factorsRead, valuesRead, -⟩ := values_ok_iff.mp read
  obtain ⟨inputsRead, -⟩ := statement_ok_iff.mp about
  have inputs := operands_length inputsRead
  refine ⟨statement, proof, read, about, ?_, ?_, challenged⟩
  · rw [operands_length factorsRead, inputs, factors]
  · rw [operands_length valuesRead, inputs, values]

end Accepted

def errMissingTypeAndSumProof : String := "invalid transfer proof: missing type-and-sum proof"
def errInvalidTransferProof : String := "invalid transfer proof"
def errInvalidRangeProof : String := "invalid range proof"
def errMissingRangeProof : String := "invalid transfer proof: missing range proof"
def errProofTypeMismatch : String := "proof type in action is not available in public parameters"
def errInvalidZKP : String := "invalid zero-knowledge proof"

inductive ProofType where
  | rangeProofType
  | cspRangeProofType
  | other (number : Int32)
deriving DecidableEq, Repr

def ProofType.number : ProofType → Int32
  | .rangeProofType => 1
  | .cspRangeProofType => 2
  | .other number => number

structure TransferProof (F G R : Type) where
  typeAndSum : Option (TypeAndSumProof F G)
  rangeCorrectness : Option (List (Option R))

structure RangeStatement (G : Type) where
  commitment : G
  pedersenParameters : Elements G
  leftGenerators : Elements G
  rightGenerators : Elements G
  P : Option (Element G)
  Q : Option (Element G)
  numberOfRounds : UInt64
  bitLength : UInt64
  curve : CurveID

structure CSPRangeStatement (G : Type) where
  pedersenParameters : Elements G
  leftGenerators : Elements G
  rightGenerators : Elements G
  commitment : G
  bitLength : UInt64
  curve : CurveID
  transcriptHeader : Bytes

-- One range-proof system: decoding of the whole transfer proof, the check of one range proof's elements,
-- and the verification of one range proof for one statement.
structure RangeProofSystem (F G S R : Type) where
  deserialize : Bytes → Outcome (TransferProof F G R)
  validate : CurveID → R → Outcome Unit
  verify : S → R → Outcome Unit

structure RangeCorrectnessVerifier (G S : Type) where
  ready : Outcome Unit
  statement : G → S

section Verifiers

variable {F G S R RB RC : Type} [Field F] [DecidableEq F] [AddCommGroup G] [Module F G] [DecidableEq G]

def validateRangeProof (system : RangeProofSystem F G S R) (curveID : CurveID) (index : Nat) (proof : Option R) :
    Outcome Unit := do
  let proof ← required proof s!"invalid range proof: nil proof at index {index}"
  wrap s!"invalid range proof at index {index}" (system.validate curveID proof)

def TransferProof.validate (system : RangeProofSystem F G S R) (proof : TransferProof F G R) (curveID : CurveID) :
    Outcome Unit := do
  let typeAndSum ← required proof.typeAndSum (errMissingTypeAndSumProof ++ "\n" ++ errInvalidTransferProof)
  join (typeAndSum.validate curveID) [errInvalidSumAndTypeProof, errInvalidTransferProof]
  match proof.rangeCorrectness with
  | none => return ()
  | some proofs =>
    join (checkEach (validateRangeProof system curveID) 0 proofs) [errInvalidRangeProof, errInvalidTransferProof]

def verifyRangeProof (system : RangeProofSystem F G S R) (verifier : RangeCorrectnessVerifier G S) (index : Nat)
    (entry : G × Option R) : Outcome Unit :=
  wrap s!"invalid range proof at index {index}" do
    let proof ← required entry.2 s!"invalid range proof: nil proof at index {index}"
    system.verify (verifier.statement entry.1) proof

-- The executor runs the single verifications in any order; the first error by index is reported.
def RangeCorrectnessVerifier.verify (system : RangeProofSystem F G S R) (verifier : RangeCorrectnessVerifier G S)
    (commitments : List G) (proofs : List (Option R)) : Outcome Unit := do
  ensure (proofs.length = commitments.length) "invalid range proof"
  verifier.ready
  checkEach (verifyRangeProof system verifier) 0 (commitments.zip proofs)

structure TransferVerifier (G S : Type) where
  curveID : CurveID
  typeAndSum : TypeAndSumVerifier G
  rangeCorrectness : Option (RangeCorrectnessVerifier G S)

-- The body that BulletProofVerifier.Verify and CSPVerifier.Verify have in common.
def TransferVerifier.verify (curve : Curve F G) (system : RangeProofSystem F G S R) (verifier : TransferVerifier G S)
    (proofRaw : Bytes) : Outcome Unit := do
  let proof ← wrap "invalid transfer proof" (system.deserialize proofRaw)
  wrap "invalid transfer proof" (proof.validate system verifier.curveID)
  let typeAndSum ← required proof.typeAndSum errMissingTypeAndSumProof
  wrap "invalid transfer proof" (verifier.typeAndSum.verify curve typeAndSum)
  match verifier.rangeCorrectness with
  | none => return ()
  | some rangeVerifier => do
    let proofs ← required proof.rangeCorrectness errMissingRangeProof
    let commitmentToType ← operand verifier.curveID typeAndSum.commitmentToType
    let outputs ← verifier.typeAndSum.outputs.mapM (operand verifier.curveID)
    rangeVerifier.verify system (shifted commitmentToType outputs) proofs

def newTypeAndSumVerifier (pp : PublicParams G) (inputs outputs : Elements G) : TypeAndSumVerifier G :=
  { curveID := pp.curve, pedParams := pp.pedersenGenerators, inputs, outputs }

-- One input and one output is an ownership transfer: its range proof is skipped.
def rangeVerifierFor (inputs outputs : Elements G) (verifier : RangeCorrectnessVerifier G S) :
    Option (RangeCorrectnessVerifier G S) :=
  if inputs.length ≠ 1 ∨ outputs.length ≠ 1 then some verifier else none

def newBulletProofVerifier (inputs outputs : Elements G) (pp : PublicParams G)
    (params : RangeProofParams G) : TransferVerifier G (RangeStatement G) where
  curveID := pp.curve
  typeAndSum := newTypeAndSumVerifier pp inputs outputs
  rangeCorrectness := rangeVerifierFor inputs outputs
    { ready := .ok ()
      statement := fun commitment =>
        { commitment, pedersenParameters := pp.pedersenGenerators.drop 1
          leftGenerators := params.leftGenerators, rightGenerators := params.rightGenerators
          P := params.P, Q := params.Q, numberOfRounds := params.numberOfRounds, bitLength := params.bitLength
          curve := pp.curve } }

def newCSPVerifier (inputs outputs : Elements G) (pp : PublicParams G)
    (params : CSPRangeProofParams G) : TransferVerifier G (CSPRangeStatement G) where
  curveID := pp.curve
  typeAndSum := newTypeAndSumVerifier pp inputs outputs
  rangeCorrectness := rangeVerifierFor inputs outputs
    { ready := ensure (params.rpTranscriptHeader ≠ []) "transcript header is empty"
      statement := fun commitment =>
        { commitment, pedersenParameters := pp.pedersenGenerators.drop 1
          leftGenerators := params.leftGenerators, rightGenerators := params.rightGenerators
          bitLength := params.bitLength, curve := pp.curve, transcriptHeader := params.rpTranscriptHeader } }

structure Systems (F G RB RC : Type) where
  bulletproof : RangeProofSystem F G (RangeStatement G) RB
  csp : RangeProofSystem F G (CSPRangeStatement G) RC

def verifyTransfer (curve : Curve F G) (systems : Systems F G RB RC) (inputs outputs : Elements G)
    (pp : PublicParams G) (proofType : ProofType) (proofRaw : Bytes) : Outcome Unit :=
  match proofType, pp.rangeProofParams, pp.cspRangeProofParams with
  | .rangeProofType, some params, _ =>
    (newBulletProofVerifier inputs outputs pp params).verify curve systems.bulletproof proofRaw
  | .cspRangeProofType, _, some params => (newCSPVerifier inputs outputs pp params).verify curve systems.csp proofRaw
  | _, _, _ => .error s!"{errProofTypeMismatch}: proof type {proofType.number} is not available in public parameters"

structure Token (G : Type) where
  owner : Bytes
  data : Option (Element G)

structure TransferAction (G : Type) where
  outputs : List (Option (Token G))
  proofType : ProofType
  proof : Bytes

def TransferAction.getOutputCommitments (action : TransferAction G) : Elements G :=
  action.outputs.filterMap fun output => output.map Token.data

def readInput (entry : Option (Token G) × Nat) : Outcome (Option (Element G)) := do
  let token ← required entry.1 s!"nil input token at index [{entry.2}]"
  return token.data

def transferZKProofValidate (curve : Curve F G) (systems : Systems F G RB RC) (pp : PublicParams G)
    (inputTokens : List (Option (Token G))) (action : TransferAction G) : Outcome Unit := do
  let inputs ← inputTokens.zipIdx.mapM readInput
  join (verifyTransfer curve systems inputs action.getOutputCommitments pp action.proofType action.proof) [errInvalidZKP]

end Verifiers

section Accepted

variable {F G S R : Type}

theorem range_correctness_ok {system : RangeProofSystem F G S R} {verifier : RangeCorrectnessVerifier G S}
    {commitments : List G} {proofs : List (Option R)} (accepted : verifier.verify system commitments proofs = .ok ()) :
    List.Forall₂ (fun point entry => ∃ range, entry = some range ∧
      system.verify (verifier.statement point) range = .ok ()) commitments proofs := by
  simp only [RangeCorrectnessVerifier.verify, ok_iff] at accepted
  obtain ⟨_, lengths, _, -, checked⟩ := accepted
  rw [List.forall₂_iff_zip]
  refine ⟨lengths.symm, fun {point entry} mem => ?_⟩
  obtain ⟨index, found⟩ := List.mem_iff_getElem?.mp mem
  have single := check_each_ok_iff.mp checked index _ found
  simpa only [verifyRangeProof, ok_iff] using single

variable [Field F] [DecidableEq F] [AddCommGroup G] [Module F G] [DecidableEq G]

-- What an accepting transfer verification leaves behind: the decoded proof, its accepted type-and-sum part and,
-- where range proofs are asked for, one accepted range proof for every shifted output.
structure TransferAccepted (curve : Curve F G) (system : RangeProofSystem F G S R) (verifier : TransferVerifier G S)
    (proofRaw : Bytes) (proof : TransferProof F G R) (typeAndSum : TypeAndSumProof F G) : Prop where
  decoded : system.deserialize proofRaw = .ok proof
  component : proof.typeAndSum = some typeAndSum
  summed : verifier.typeAndSum.verify curve typeAndSum = .ok ()
  ranged : ∀ rangeVerifier, verifier.rangeCorrectness = some rangeVerifier →
    ∃ proofs commitmentToType outputs, proof.rangeCorrectness = some proofs ∧
      operand verifier.curveID typeAndSum.commitmentToType = .ok commitmentToType ∧
      verifier.typeAndSum.outputs.mapM (operand verifier.curveID) = .ok outputs ∧
      List.Forall₂ (fun point entry => ∃ range, entry = some range ∧
        system.verify (rangeVerifier.statement point) range = .ok ()) (shifted commitmentToType outputs) proofs

theorem transfer_accepted {curve : Curve F G} {system : RangeProofSystem F G S R} {verifier : TransferVerifier G S}
    {proofRaw : Bytes} (accepted : verifier.verify curve system proofRaw = .ok ()) :
    ∃ proof typeAndSum, TransferAccepted curve system verifier proofRaw proof typeAndSum := by
  simp only [TransferVerifier.verify, ok_iff] at accepted
  obtain ⟨proof, decoded, _, -, typeAndSum, component, _, summed, ranges⟩ := accepted
  refine ⟨proof, typeAndSum, decoded, component, summed, fun rangeVerifier given => ?_⟩
  simp only [given, ok_iff] at ranges
  obtain ⟨proofs, present, commitmentToType, read, outputs, outputsRead, checked⟩ := ranges
  exact ⟨proofs, commitmentToType, outputs, present, read, outputsRead, range_correctness_ok checked⟩

end Accepted

end Panurus.Zkatdlog
