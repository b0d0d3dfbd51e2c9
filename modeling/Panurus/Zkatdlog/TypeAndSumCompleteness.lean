import Mathlib.Algebra.Field.ZMod
import Mathlib.Tactic.Module
import Panurus.Zkatdlog.TypeAndSumProver

namespace Panurus.Zkatdlog

open List Lib Outcome Asn1 Identity TypeAndSumProof TypeAndSumProver Der

structure TokenOpening (F : Type) where
  value : F
  blindingFactor : F

def TokenOpening.metadata {F : Type} (curveID : CurveID) (type : Bytes) (opening : TokenOpening F) : TokenMetadata F :=
  { type, value := pointer curveID opening.value, blindingFactor := pointer curveID opening.blindingFactor, issuer := [] }

open TokenOpening

def totalOf {F : Type} [Field F] (openings : List (TokenOpening F)) : F :=
  openings.foldl (fun total opening => total + opening.value) 0

-- The parties' common input, by value: three generators, a type and the openings on both sides.
structure HonestTransfer (F G : Type) where
  g0 : G
  g1 : G
  g2 : G
  type : Bytes
  ins : List (TokenOpening F)
  outs : List (TokenOpening F)
  typeBF : F

def TypeAndSumValues.proof {F G : Type} (curveID : CurveID) (values : TypeAndSumValues F G) : TypeAndSumProof F G :=
  { commitmentToType := pointer curveID values.commitmentToType
    inputBlindingFactors := values.inputBlindingFactors.map (pointer curveID)
    inputValues := values.inputValues.map (pointer curveID)
    type := pointer curveID values.type
    typeBlindingFactor := pointer curveID values.typeBlindingFactor
    equalityOfSum := pointer curveID values.equalityOfSum
    challenge := pointer curveID values.challenge }

theorem foldl_mapIdx {α β γ : Type} {items : List α} {f : Nat → α → β} {step : γ → β → γ} {step' : γ → α → γ}
    (same : ∀ state index item, step state (f index item) = step' state item) (start : γ) :
    (items.mapIdx f).foldl step start = items.foldl step' start := by
  induction items generalizing f start with
  | nil => rfl
  | cons item items ih =>
    rw [mapIdx_cons, foldl_cons, foldl_cons, same, ih fun state index item => same state (index + 1) item]

open TypeAndSumValues

namespace HonestTransfer

variable {F G : Type}

def generators (t : HonestTransfer F G) (curveID : CurveID) : Elements G :=
  [t.g0, t.g1, t.g2].map (pointer curveID)

def witnessOf (curve : Curve F G) (curveID : CurveID) (t : HonestTransfer F G) : TypeAndSumWitness F :=
  { inValues := t.ins.map fun opening => pointer curveID opening.value
    outValues := t.outs.map fun opening => pointer curveID opening.value
    type := curve.hashToZr t.type
    inBlindingFactors := t.ins.map fun opening => pointer curveID opening.blindingFactor
    outBlindingFactors := t.outs.map fun opening => pointer curveID opening.blindingFactor
    typeBlindingFactor := pointer curveID t.typeBF }

theorem witness_ok (curve : Curve F G) (curveID : CurveID) {t : HonestTransfer F G} (some : t.ins ≠ []) :
    newTypeAndSumWitness curve (pointer curveID t.typeBF) (t.ins.map (metadata curveID t.type))
      (t.outs.map (metadata curveID t.type)) = .ok (t.witnessOf curve curveID) := by
  obtain ⟨first, others, ins⟩ := exists_cons_of_ne_nil some
  simp only [newTypeAndSumWitness, witnessOf, ins, map_map, map_cons, head?_cons]
  rfl

variable [Field F] {index : Nat} {opening : TokenOpening F}

theorem out_factor_ok (curveID : CurveID) (t : HonestTransfer F G) (found : t.outs[index]? = some opening) :
    (do let factor ← elementAt curveID (t.outs.map fun opening => pointer curveID opening.blindingFactor) index
        return factor - t.typeBF : Outcome F) = .ok (opening.blindingFactor - t.typeBF) := by
  have factor : elementAt curveID ((t.outs.map blindingFactor).map (pointer curveID)) index =
      .ok opening.blindingFactor := element_at_pointers (by rw [getElem?_map, found]; rfl)
  rw [map_map] at factor
  exact bind_ok_iff.mpr ⟨_, factor, rfl⟩

variable [AddCommGroup G] [Module F G]

def tokenOf (curve : Curve F G) (t : HonestTransfer F G) (opening : TokenOpening F) : G :=
  pedersen t.g0 t.g1 t.g2 (curve.hashToZr t.type) opening.value opening.blindingFactor

def commitmentToType (curve : Curve F G) (t : HonestTransfer F G) : G := commitToType curve t.g0 t.g2 t.type t.typeBF

def prover (curve : Curve F G) (curveID : CurveID) (t : HonestTransfer F G) (witness : TypeAndSumWitness F) :
    TypeAndSumProver F G :=
  newTypeAndSumProver witness (t.generators curveID) ((t.ins.map (t.tokenOf curve)).map (pointer curveID))
    ((t.outs.map (t.tokenOf curve)).map (pointer curveID)) (pointer curveID (t.commitmentToType curve)) curveID

def verifier (curve : Curve F G) (curveID : CurveID) (t : HonestTransfer F G) : TypeAndSumVerifier G :=
  { curveID
    pedParams := t.generators curveID
    inputs := (t.ins.map (t.tokenOf curve)).map (pointer curveID)
    outputs := (t.outs.map (t.tokenOf curve)).map (pointer curveID) }

def sumBF (t : HonestTransfer F G) : F :=
  t.outs.foldl (fun sum opening => sum - (opening.blindingFactor - t.typeBF))
    (t.ins.foldl (fun sum opening => sum + (opening.blindingFactor - t.typeBF)) 0)

def announced (curve : Curve F G) (t : HonestTransfer F G) (randomness : TypeAndSumProofRandomness F) : Announcements G :=
  let ins := shifted (t.commitmentToType curve) (t.ins.map (t.tokenOf curve))
  let outs := shifted (t.commitmentToType curve) (t.outs.map (t.tokenOf curve))
  { inComs := t.ins.mapIdx fun i _ => randomness.inValues i • t.g1 + randomness.inBF i • t.g2
    typeCom := randomness.ttype • t.g0 + randomness.typeBF • t.g2
    sumCom := randomness.sumBF • t.g2
    inputs := ins
    outputs := outs
    commitmentToType := t.commitmentToType curve
    sum := sumOf ins outs }

def challenge (curve : Curve F G) (t : HonestTransfer F G) (randomness : TypeAndSumProofRandomness F) : F :=
  curve.hashToZr (curve.g1ArrayBytes (t.announced curve randomness).array)

def response (t : HonestTransfer F G) (randomness : TypeAndSumProofRandomness F) (chal : F) (index : Nat)
    (opening : TokenOpening F) : InputResponse F :=
  { value := chal * opening.value + randomness.inValues index
    blindingFactor := chal * (opening.blindingFactor - t.typeBF) + randomness.inBF index
    t := opening.blindingFactor - t.typeBF }

def responses (curve : Curve F G) (t : HonestTransfer F G) (randomness : TypeAndSumProofRandomness F) (chal : F) :
    TypeAndSumValues F G :=
  { commitmentToType := t.commitmentToType curve
    inputBlindingFactors := (t.ins.mapIdx (t.response randomness chal)).map InputResponse.blindingFactor
    inputValues := (t.ins.mapIdx (t.response randomness chal)).map InputResponse.value
    type := chal * curve.hashToZr t.type + randomness.ttype
    typeBlindingFactor := chal * t.typeBF + randomness.typeBF
    equalityOfSum := chal * t.sumBF + randomness.sumBF
    challenge := chal }

theorem commitments_ok (curve : Curve F G) (curveID : CurveID) (t : HonestTransfer F G) (witness : TypeAndSumWitness F)
    (randomness : TypeAndSumProofRandomness F) :
    (t.prover curve curveID witness).computeCommitments randomness =
      .ok { inputs := (t.announced curve randomness).inComs
            sum := (t.announced curve randomness).sumCom
            commitmentToType := (t.announced curve randomness).typeCom } := by
  have each : (range t.ins.length).mapM (fun i => do
      let g1 ← elementAt curveID (t.generators curveID) 1
      return randomness.inValues i • g1 + randomness.inBF i • t.g2) = .ok (t.announced curve randomness).inComs := by
    apply each_index_ok
    intro index opening found
    exact bind_ok_iff.mpr ⟨t.g1, element_at_pointers rfl, rfl⟩
  simp only [computeCommitments, prover, newTypeAndSumProver, length_map]
  exact bind_ok_iff.mpr ⟨t.g0, element_at_pointers rfl, bind_ok_iff.mpr ⟨t.g2, element_at_pointers rfl,
    bind_ok_iff.mpr ⟨_, each, rfl⟩⟩⟩

section

variable (curve : Curve F G) (curveID : CurveID) (t : HonestTransfer F G) (randomness : TypeAndSumProofRandomness F)
include curve curveID t randomness

theorem respond_ok (chal : F) (found : t.ins[index]? = some opening) :
    (t.prover curve curveID (t.witnessOf curve curveID)).respond randomness chal t.typeBF index =
      .ok (t.response randomness chal index opening) := by
  have value : elementAt curveID ((t.ins.map value).map (pointer curveID)) index = .ok opening.value :=
    element_at_pointers (by rw [getElem?_map, found]; rfl)
  have factor : elementAt curveID ((t.ins.map blindingFactor).map (pointer curveID)) index =
      .ok opening.blindingFactor := element_at_pointers (by rw [getElem?_map, found]; rfl)
  rw [map_map] at value factor
  exact bind_ok_iff.mpr ⟨_, value, bind_ok_iff.mpr ⟨_, factor, rfl⟩⟩

theorem compute_proof_ok (chal : F) :
    (t.prover curve curveID (t.witnessOf curve curveID)).computeProof randomness chal =
      .ok ((t.responses curve randomness chal).proof curveID) := by
  have ins := each_index_ok fun index opening found => respond_ok curve curveID t randomness chal found
  have outs := each_index_ok fun index opening found => out_factor_ok curveID t found
  have typeBF : operand curveID (pointer curveID t.typeBF) = .ok t.typeBF := operand_pointer t.typeBF
  have length : (t.prover curve curveID (t.witnessOf curve curveID)).inputs.length = t.ins.length := by
    simp [prover, newTypeAndSumProver]
  have length' : (t.prover curve curveID (t.witnessOf curve curveID)).outputs.length = t.outs.length := by
    simp [prover, newTypeAndSumProver]
  have sum : (t.outs.mapIdx fun _ opening => opening.blindingFactor - t.typeBF).foldl (fun sum factor => sum - factor)
      ((t.ins.mapIdx (t.response randomness chal)).foldl (fun sum response => sum + response.t) 0) = t.sumBF := by
    have ins : (t.ins.mapIdx (t.response randomness chal)).foldl (fun sum response => sum + response.t) 0 =
        t.ins.foldl (fun sum opening => sum + (opening.blindingFactor - t.typeBF)) 0 := by
      apply foldl_mapIdx
      intro state index opening
      rfl
    rw [ins]
    apply foldl_mapIdx
    intro state index opening
    rfl
  rw [computeProof, length, length']
  refine bind_ok_iff.mpr ⟨_, typeBF, bind_ok_iff.mpr ⟨_, ins, bind_ok_iff.mpr ⟨_, outs, ?_⟩⟩⟩
  rw [sum]
  simp only [proof, responses, map_map]
  rfl

theorem prove_ok :
    (t.prover curve curveID (t.witnessOf curve curveID)).prove curve randomness =
      .ok ((t.responses curve randomness (t.challenge curve randomness)).proof curveID) := by
  have commitments := commitments_ok curve curveID t (t.witnessOf curve curveID) randomness
  have type := @operand_pointer _ curveID (t.commitmentToType curve)
  have ins := @operands_pointers _ curveID (t.ins.map (t.tokenOf curve))
  have outs := @operands_pointers _ curveID (t.outs.map (t.tokenOf curve))
  exact bind_ok_iff.mpr ⟨_, commitments, bind_ok_iff.mpr ⟨_, type, bind_ok_iff.mpr ⟨_, ins, bind_ok_iff.mpr
    ⟨_, outs, compute_proof_ok curve curveID t randomness (t.challenge curve randomness)⟩⟩⟩⟩

end

section

variable (curve : Curve F G)

theorem token_shifted (t : HonestTransfer F G) (opening : TokenOpening F) :
    t.tokenOf curve opening - t.commitmentToType curve = opening.value • t.g1 + (opening.blindingFactor - t.typeBF) • t.g2 := by
  rw [tokenOf, commitmentToType, pedersen, commitToType]
  module

theorem fold_shifted (step : G → G → G) (step' : F → F → F) (t : HonestTransfer F G)
    (linear : ∀ value factor other otherFactor : F,
      step (value • t.g1 + factor • t.g2) (other • t.g1 + otherFactor • t.g2) =
        step' value other • t.g1 + step' factor otherFactor • t.g2) (openings : List (TokenOpening F)) (value factor : F) :
    (openings.map fun opening => opening.value • t.g1 + (opening.blindingFactor - t.typeBF) • t.g2).foldl step
        (value • t.g1 + factor • t.g2) =
      openings.foldl (fun total opening => step' total opening.value) value • t.g1 +
        openings.foldl (fun sum opening => step' sum (opening.blindingFactor - t.typeBF)) factor • t.g2 := by
  induction openings generalizing value factor with
  | nil => rfl
  | cons opening openings ih =>
    simp only [map_cons, foldl_cons]
    rw [linear, ih]

theorem totals_cancel (openings : List (TokenOpening F)) (start : F) :
    openings.foldl (fun total opening => total - opening.value) start = start - totalOf openings := by
  have shifted : ∀ (openings : List (TokenOpening F)) (first second : F),
      openings.foldl (fun total opening => total - opening.value) (first - second) =
        first - openings.foldl (fun total opening => total + opening.value) second := by
    intro openings
    induction openings with
    | nil => exact fun _ _ => rfl
    | cons opening openings ih =>
      intro first second
      simp only [foldl_cons]
      rw [sub_sub, ih]
  rw [totalOf, ← shifted, sub_zero]

theorem shifted_tokens (t : HonestTransfer F G) (openings : List (TokenOpening F)) :
    shifted (t.commitmentToType curve) (openings.map (t.tokenOf curve)) =
      openings.map fun opening => opening.value • t.g1 + (opening.blindingFactor - t.typeBF) • t.g2 := by
  rw [shifted, map_map]
  exact map_congr_left fun opening _ => token_shifted curve t opening

theorem sum_of_tokens {t : HonestTransfer F G} (balanced : totalOf t.ins = totalOf t.outs) :
    sumOf (shifted (t.commitmentToType curve) (t.ins.map (t.tokenOf curve)))
      (shifted (t.commitmentToType curve) (t.outs.map (t.tokenOf curve))) = t.sumBF • t.g2 := by
  have start : (0 : G) = (0 : F) • t.g1 + (0 : F) • t.g2 := by module
  have added := fold_shifted (fun sum input => sum + input) (fun sum input => sum + input) t (by intros; module) t.ins 0 0
  have taken := fold_shifted (fun sum output => sum - output) (fun sum output => sum - output) t (by intros; module) t.outs
  rw [shifted_tokens, shifted_tokens, sumOf, start, added, ← totalOf, taken, totals_cancel, balanced, sub_self, zero_smul,
    zero_add, sumBF]

def statement (curve : Curve F G) (t : HonestTransfer F G) : TransferStatement G :=
  { g0 := t.g0, g1 := t.g1, g2 := t.g2, inputs := t.ins.map (t.tokenOf curve), outputs := t.outs.map (t.tokenOf curve) }

theorem statement_ok (curveID : CurveID) (t : HonestTransfer F G) :
    (t.verifier curve curveID).statement = .ok (t.statement curve) :=
  statement_ok_iff.mpr ⟨operands_pointers _, operands_pointers _, element_at_pointers rfl, element_at_pointers rfl,
    element_at_pointers rfl⟩

theorem announcements_agree {t : HonestTransfer F G} (balanced : totalOf t.ins = totalOf t.outs)
    (randomness : TypeAndSumProofRandomness F) (chal : F) :
    announcements (t.statement curve) (t.responses curve randomness chal) = t.announced curve randomness := by
  have sum := sum_of_tokens curve balanced
  have ins := shifted_tokens curve t t.ins
  simp only [announcements, announced, statement, responses, sum, Announcements.mk.injEq, and_true]
  refine ⟨?_, ?_, ?_⟩
  · rw [ins]
    apply ext_getElem
    · simp
    · intro index bound bound'
      simp only [getElem_zipWith, getElem_zip, getElem_map, getElem_mapIdx, inputCommitment, folded, response]
      module
  · rw [commitmentToType, commitToType, folded]
    module
  · rw [folded]
    module

end

end HonestTransfer

section Accept

variable {F G : Type}

theorem values_of_proof (curveID : CurveID) (values : TypeAndSumValues F G) :
    (values.proof curveID).values curveID = .ok values :=
  values_ok_iff.mpr ⟨operand_pointer _, operands_pointers _, operands_pointers _, operand_pointer _, operand_pointer _,
    operand_pointer _, operand_pointer _⟩

variable [Field F] [DecidableEq F] [AddCommGroup G] [Module F G]

theorem verify_of_accepted {curve : Curve F G} {verifier : TypeAndSumVerifier G} {values : TypeAndSumValues F G}
    {statement : TransferStatement G}
    (accepted : TypeAndSumAccepted curve verifier (values.proof verifier.curveID) statement values) :
    verifier.verify curve (values.proof verifier.curveID) = .ok () := by
  have inputs := operands_length (statement_ok_iff.mp accepted.about).1
  simp only [TypeAndSumVerifier.verify, ok_iff]
  refine ⟨(), ⟨rfl, rfl, rfl, rfl⟩, (), ?_, (), ?_, (), ?_, values, accepted.read, statement, accepted.about, accepted.challenged⟩
  · rw [← inputs, ← accepted.blindingFactors, proof, length_map]
  · rw [← inputs, ← accepted.values, proof, length_map]
  · intro value mem
    obtain ⟨_, _, rfl⟩ := mem_map.mp mem
    rfl

end Accept

section Encoded

variable {F G : Type}

def TypeAndSumValues.marshalled (lib : MathLib F G) (curveID : CurveID) (values : TypeAndSumValues F G) : List (Element Bytes) :=
  [⟨curveID, lib.bytes values.commitmentToType⟩,
   ⟨curveID, stringsType.marshal (values.inputBlindingFactors.map lib.zrBytes)⟩,
   ⟨curveID, stringsType.marshal (values.inputValues.map lib.zrBytes)⟩,
   ⟨curveID, lib.zrBytes values.type⟩, ⟨curveID, lib.zrBytes values.typeBlindingFactor⟩,
   ⟨curveID, lib.zrBytes values.equalityOfSum⟩, ⟨curveID, lib.zrBytes values.challenge⟩]

def TypeAndSumValues.encoded (lib : MathLib F G) (curveID : CurveID) (values : TypeAndSumValues F G) : Bytes :=
  stringsType.marshal ((values.marshalled lib curveID).map marshalElement)

theorem response_array_ok (lib : MathLib F G) (curveID : CurveID) {values : List F} (some : values ≠ []) :
    responseArray lib (values.map (pointer curveID)) = .ok ⟨curveID, stringsType.marshal (values.map lib.zrBytes)⟩ := by
  have elements : (values.map (pointer curveID)).mapM (written lib.zrBytes) =
      .ok (values.map fun value => ⟨curveID, lib.zrBytes value⟩) := by
    rw [mapM_ok_iff, forall₂_map_left_iff, forall₂_map_right_iff, forall₂_same]
    exact fun value _ => rfl
  refine bind_ok_iff.mpr ⟨_, elements, ?_⟩
  obtain ⟨first, others, rfl⟩ := exists_cons_of_ne_nil some
  rw [newElementArray, map_map]
  rfl

theorem serialize_ok (lib : MathLib F G) (curveID : CurveID) {values : TypeAndSumValues F G}
    (factors : values.inputBlindingFactors ≠ []) (some : values.inputValues ≠ []) :
    (values.proof curveID).serialize lib = .ok (values.encoded lib curveID) := by
  have ibf := response_array_ok lib curveID factors
  have iv := response_array_ok lib curveID some
  exact bind_ok_iff.mpr ⟨_, ibf, bind_ok_iff.mpr ⟨_, iv, rfl⟩⟩

theorem deserialize_ok (lib : MathLib F G) {curveID : CurveID} (known : curveID < lib.curves)
    {values : TypeAndSumValues F G} (bounded : (values.encoded lib curveID).length < lengthLimit) :
    deserialize lib (values.encoded lib curveID) = .ok (values.proof curveID) := by
  have each : ∀ element ∈ values.marshalled lib curveID, (marshalElement element).length < lengthLimit :=
    fun element mem => (string_length (mem_map_of_mem mem)).trans bounded
  simp only [marshalled, forall_mem_cons] at each
  obtain ⟨commitment, factors, inputs, type, blinding, equality, challenge, -⟩ := each
  rw [deserialize, join_ok_iff]
  refine bind_ok_iff.mpr ⟨_, new_unmarshaller_ok bounded, bind_ok_iff.mpr ⟨_, next_with_ok known (lib.g1_read _ _) commitment _, ?_⟩⟩
  refine bind_ok_iff.mpr ⟨_, next_zr_array_ok known factors _, bind_ok_iff.mpr ⟨_, next_zr_array_ok known inputs _, ?_⟩⟩
  refine bind_ok_iff.mpr ⟨_, next_zr_ok known type _, bind_ok_iff.mpr ⟨_, next_zr_ok known blinding _, ?_⟩⟩
  exact bind_ok_iff.mpr ⟨_, next_zr_ok known equality _, bind_ok_iff.mpr ⟨_, next_zr_ok known challenge _, rfl⟩⟩

end Encoded

open HonestTransfer

section Complete

variable {F G : Type} [Field F] [DecidableEq F] [AddCommGroup G] [Module F G]

namespace HonestTransfer

theorem verify_ok (curve : Curve F G) (curveID : CurveID) {t : HonestTransfer F G}
    (balanced : totalOf t.ins = totalOf t.outs) (randomness : TypeAndSumProofRandomness F) :
    (t.verifier curve curveID).verify curve ((t.responses curve randomness (t.challenge curve randomness)).proof curveID) =
      .ok () := by
  apply verify_of_accepted
  refine ⟨values_of_proof curveID _, statement_ok curve curveID t, ?_, ?_, ?_⟩
  · simp [responses, statement]
  · simp [responses, statement]
  · rw [announcements_agree curve balanced]
    rfl

end HonestTransfer

theorem type_and_sum_complete (lib : MathLib F G) (curveID : Fin lib.curves) (t : HonestTransfer F G) (some : t.ins ≠ [])
    (balanced : totalOf t.ins = totalOf t.outs) (randomness : TypeAndSumProofRandomness F) :
    ∃ witness proof raw,
      newTypeAndSumWitness lib.toCurve (pointer curveID t.typeBF) (t.ins.map (metadata curveID t.type))
        (t.outs.map (metadata curveID t.type)) = .ok witness ∧
      (t.prover lib.toCurve curveID witness).prove lib.toCurve randomness = .ok proof ∧
      (t.verifier lib.toCurve curveID).verify lib.toCurve proof = .ok () ∧
      proof.serialize lib = .ok raw ∧
      (raw.length < 2 ^ 31 → ∃ read, deserialize lib raw = .ok read ∧
        (t.verifier lib.toCurve curveID).verify lib.toCurve read = .ok ()) := by
  have verified := verify_ok lib.toCurve curveID balanced randomness
  have responses : t.ins.mapIdx (t.response randomness (t.challenge lib.toCurve randomness)) ≠ [] := by
    simpa only [ne_eq, mapIdx_eq_nil_iff] using some
  refine ⟨_, _, _, witness_ok lib.toCurve curveID some, prove_ok lib.toCurve curveID t randomness,
    verified, serialize_ok lib curveID ?_ ?_, fun bounded => ⟨_, deserialize_ok lib curveID.isLt bounded, verified⟩⟩
  · simpa only [HonestTransfer.responses, ne_eq, map_eq_nil_iff] using responses
  · simpa only [HonestTransfer.responses, ne_eq, map_eq_nil_iff] using responses

end Complete

namespace TypeAndSumBits

def bit (value : ZMod 2) : Bytes := if value = 0 then [0] else [1]

def ofBit (octets : Bytes) : ZMod 2 := if octets = [0] then 0 else 1

theorem bit_read (value : ZMod 2) : ofBit (bit value) = value := by
  revert value
  decide

def lib : MathLib (ZMod 2) (ZMod 2) where
  hashToZr _ := 0
  bytes := bit
  curves := 1
  zrBytes := bit
  newZrFromBytes _ := ofBit
  newG1FromBytes _ octets := .ok (ofBit octets)
  curves_bounded := by decide
  zr_read _ := bit_read
  g1_read _ value := congrArg Except.ok (bit_read value)

def transfer (count : Nat) : HonestTransfer (ZMod 2) (ZMod 2) :=
  { g0 := 1, g1 := 1, g2 := 1, type := [], ins := List.replicate count ⟨1, 0⟩, outs := List.replicate count ⟨1, 0⟩, typeBF := 1 }

def randomness : TypeAndSumProofRandomness (ZMod 2) :=
  { inValues := fun _ => 0, inBF := fun _ => 1, ttype := 0, typeBF := 1, sumBF := 0 }

theorem single_transfer_complete : ∃ witness proof raw,
    newTypeAndSumWitness lib.toCurve (pointer 0 1) [metadata 0 [] ⟨1, 0⟩] [metadata 0 [] ⟨1, 0⟩] =
      .ok witness ∧
    ((transfer 1).prover lib.toCurve 0 witness).prove lib.toCurve randomness = .ok proof ∧
    ((transfer 1).verifier lib.toCurve 0).verify lib.toCurve proof = .ok () ∧
    proof.serialize lib = .ok raw ∧
    (raw.length < 2 ^ 31 → ∃ read, deserialize lib raw = .ok read ∧
      ((transfer 1).verifier lib.toCurve 0).verify lib.toCurve read = .ok ()) :=
  type_and_sum_complete lib ⟨0, by decide⟩ (transfer 1) (by decide) rfl randomness

theorem bits_length (values : List (ZMod 2)) : ((values.map bit).map octetString).flatten.length = 3 * values.length := by
  induction values with
  | nil => rfl
  | cons value values ih =>
    have first : (octetString (bit value)).length = 3 := by
      revert value
      decide
    simp only [map_cons, flatten_cons, length_append, length_cons, first, ih]
    omega

theorem array_length (values : List (ZMod 2)) :
    values.length ≤ (stringsType.marshal (values.map bit)).length ∧
      (stringsType.marshal (values.map bit)).length ≤ 12 * values.length + 6 := by
  have bits := bits_length values
  have inner := Der.tlv_length_le 0x30 ((values.map bit).map Der.octetString).flatten
  have outer := Der.tlv_length_le 0x30 (octetStrings (values.map bit))
  rw [← Der.sequence, ← octetStrings] at inner
  have marshalled : stringsType.marshal (values.map bit) = Der.tlv 0x30 (octetStrings (values.map bit)) := by
    simp [stringsType, Der.sequence]
  rw [marshalled]
  constructor
  · simp only [octetStrings, Der.sequence, Der.tlv, length_cons, length_append, bits]
    omega
  · omega

theorem element_length_le (raw : Bytes) : (marshalElement ⟨0, raw⟩).length ≤ 4 * raw.length + 12 := by
  have integer : (Der.integer 0).length = 3 := rfl
  have inner := Der.tlv_length_le 0x04 raw
  have outer := Der.tlv_length_le 0x30 [Der.integer 0, Der.octetString raw].flatten
  rw [← Der.sequence] at outer
  rw [← Der.octetString] at inner
  simp only [flatten_cons, flatten_nil, append_nil, length_append, integer] at outer
  simp only [marshalElement]
  omega

variable {count : Nat}

section

variable (values : TypeAndSumValues (ZMod 2) (ZMod 2)) (factors : values.inputBlindingFactors.length = count)
  (inputs : values.inputValues.length = count)
include values factors inputs

theorem proof_length :
    count ≤ (octetStrings ((values.marshalled lib 0).map marshalElement)).length ∧
      (octetStrings ((values.marshalled lib 0).map marshalElement)).length ≤ 400 * count + 1000 := by
  have array := array_length values.inputBlindingFactors
  have array' := array_length values.inputValues
  have element := element_length_le (stringsType.marshal (values.inputBlindingFactors.map bit))
  have element' := element_length_le (stringsType.marshal (values.inputValues.map bit))
  constructor
  · have mem : (⟨0, stringsType.marshal (values.inputValues.map bit)⟩ : Element Bytes) ∈ values.marshalled lib 0 := by
      simp [marshalled, lib]
    have inside := component_shorter (mem_map_of_mem (f := marshalElement) mem)
    have shorter := marshal_element_length ⟨0, stringsType.marshal (values.inputValues.map bit)⟩
    simp only at shorter
    omega
  · have outer := Der.tlv_length_le 0x30 (((values.marshalled lib 0).map marshalElement).map octetString).flatten
    have strings := Der.tlv_length_le 0x04 (marshalElement ⟨0, stringsType.marshal (values.inputBlindingFactors.map bit)⟩)
    have strings' := Der.tlv_length_le 0x04 (marshalElement ⟨0, stringsType.marshal (values.inputValues.map bit)⟩)
    have single : ∀ value : ZMod 2, (octetString (marshalElement ⟨0, bit value⟩)).length = 10 := by decide
    refine outer.trans ?_
    simp only [marshalled, lib, map_cons, map_nil, flatten_cons, flatten_nil, length_append, length_nil, single]
    rw [← octetString] at strings strings'
    omega

theorem long_proof_not_read (long : lengthLimit ≤ count) (possible : count ≤ 2 ^ 32) (read : TypeAndSumProof (ZMod 2) (ZMod 2)) :
    deserialize lib (values.encoded lib 0) ≠ .ok read := by
  intro done
  obtain ⟨least, most⟩ := proof_length values factors inputs
  rw [deserialize, join_ok_iff] at done
  obtain ⟨u, unmarshalled, -⟩ := bind_ok_iff.mp done
  obtain ⟨strings, found, -⟩ := bind_ok_iff.mp unmarshalled
  rw [encoded, long_strings_unread (long.trans least) (by omega)] at found
  cases found

end

theorem oversized_proof_not_read : (transfer (2 ^ 31)).ins ≠ [] ∧
    totalOf (transfer (2 ^ 31)).ins = totalOf (transfer (2 ^ 31)).outs ∧ ∃ witness proof raw,
      newTypeAndSumWitness lib.toCurve (pointer 0 1) ((transfer (2 ^ 31)).ins.map (metadata 0 []))
        ((transfer (2 ^ 31)).outs.map (metadata 0 [])) = .ok witness ∧
      ((transfer (2 ^ 31)).prover lib.toCurve 0 witness).prove lib.toCurve randomness = .ok proof ∧
      proof.serialize lib = .ok raw ∧ ∀ read, deserialize lib raw ≠ .ok read := by
  have some : ∀ count, 0 < count → (transfer count).ins ≠ [] := by
    intro count positive none
    have length := congrArg List.length none
    rw [transfer, length_replicate] at length
    exact absurd length positive.ne'
  have sized : ∀ count (chal : ZMod 2), ((transfer count).responses lib.toCurve randomness chal).inputValues.length = count ∧
      ((transfer count).responses lib.toCurve randomness chal).inputBlindingFactors.length = count := by
    simp [responses, transfer]
  generalize count : 2 ^ 31 = n
  have positive : 0 < n := by omega
  obtain ⟨values, factors⟩ := sized n ((transfer n).challenge lib.toCurve randomness)
  refine ⟨some n positive, rfl, _, _, _, witness_ok lib.toCurve 0 (some n positive),
    prove_ok lib.toCurve 0 _ randomness, serialize_ok lib 0 ?_ ?_, fun read => ?_⟩
  · exact ne_nil_of_length_pos (by rw [factors]; exact positive)
  · exact ne_nil_of_length_pos (by rw [values]; exact positive)
  · exact long_proof_not_read _ factors values count.le (by omega) read

end TypeAndSumBits

end Panurus.Zkatdlog
