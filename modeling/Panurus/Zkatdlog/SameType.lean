import Panurus.Lib.Sigma
import Panurus.Zkatdlog.Actions

namespace Panurus.Zkatdlog

open Lib Outcome Lib.Sigma

def errInvalidSameTypeProof : String := "invalid same type proof"
def errProveTypeFailed : String := "couldn't prove type during the issue"

structure SameType (F G : Type) where
  type : Option (Element F)
  blindingFactor : Option (Element F)
  challenge : Option (Element F)
  commitmentToType : Option (Element G)

structure SameTypeRandomness (F : Type) where
  blindingFactor : F
  tokenType : F

structure SameTypeProver (F G : Type) where
  pedParams : Elements G
  curveID : CurveID
  tokenType : Bytes
  blindingFactor : Option (Element F)
  commitmentToType : Option (Element G)

structure SameTypeVerifier (G : Type) where
  pedParams : Elements G
  curveID : CurveID

def newSameTypeProver {F G : Type} (ttype : Bytes) (bf : Option (Element F)) (com : Option (Element G))
    (pp : Elements G) (curveID : CurveID) : SameTypeProver F G :=
  { pedParams := pp, curveID, tokenType := ttype, blindingFactor := bf, commitmentToType := com }

def newSameTypeVerifier {G : Type} (pp : Elements G) (curveID : CurveID) : SameTypeVerifier G :=
  { pedParams := pp, curveID }

section Protocol

variable {F G : Type} [Field F] [DecidableEq F] [AddCommGroup G] [Module F G]

def SameTypeProver.computeCommitment (p : SameTypeProver F G) (randomness : SameTypeRandomness F) : Outcome G := do
  let g0 ← elementAt p.curveID p.pedParams 0
  let g2 ← elementAt p.curveID p.pedParams 2
  return randomness.tokenType • g0 + randomness.blindingFactor • g2

def SameTypeProver.prove (curve : Curve F G) (p : SameTypeProver F G) (randomness : SameTypeRandomness F) :
    Outcome (SameType F G) := do
  let tokenType := curve.hashToZr p.tokenType
  let commitment ← p.computeCommitment randomness
  let commitmentToType ← (required p.commitmentToType "failed to marshal array of G1").mapError
    fun cause => errProveTypeFailed ++ "\n" ++ cause
  let chal := curve.hashToZr (curve.g1ArrayBytes [commitmentToType.value, commitment])
  let blindingFactor ← operand p.curveID p.blindingFactor
  return { type := pointer p.curveID (chal * tokenType + randomness.tokenType)
           blindingFactor := pointer p.curveID (chal * blindingFactor + randomness.blindingFactor)
           challenge := pointer p.curveID chal
           commitmentToType := p.commitmentToType }

structure SameTypeValues (F G : Type) where
  type : F
  blindingFactor : F
  challenge : F
  commitmentToType : G

def SameType.values (proof : SameType F G) (curveID : CurveID) : Outcome (SameTypeValues F G) := do
  let type ← operand curveID proof.type
  let blindingFactor ← operand curveID proof.blindingFactor
  let commitmentToType ← operand curveID proof.commitmentToType
  let challenge ← operand curveID proof.challenge
  return { type, blindingFactor, challenge, commitmentToType }

def SameTypeVerifier.commitment (v : SameTypeVerifier G) (proof : SameTypeValues F G) : Outcome G := do
  let g0 ← elementAt v.curveID v.pedParams 0
  let g2 ← elementAt v.curveID v.pedParams 2
  return proof.type • g0 + proof.blindingFactor • g2 - proof.challenge • proof.commitmentToType

def SameTypeVerifier.verify (curve : Curve F G) (v : SameTypeVerifier G) (proof : SameType F G) : Outcome Unit := do
  let values ← proof.values v.curveID
  let com ← v.commitment values
  let raw := curve.g1ArrayBytes [values.commitmentToType, com]
  ensure (curve.hashToZr raw = values.challenge) errInvalidSameTypeProof

def SameTypeVerifier.firstMessage (v : SameTypeVerifier G) (proof : SameType F G) : Outcome (G × G) := do
  let values ← proof.values v.curveID
  let com ← v.commitment values
  return (values.commitmentToType, com)

end Protocol

section Accepted

variable {F G : Type} {proof : SameType F G} {curveID : CurveID} {values : SameTypeValues F G}

theorem same_type_values_ok_iff :
    proof.values curveID = .ok values ↔ proof.type = pointer curveID values.type ∧
      proof.blindingFactor = pointer curveID values.blindingFactor ∧
      proof.commitmentToType = pointer curveID values.commitmentToType ∧ proof.challenge = pointer curveID values.challenge := by
  simp only [SameType.values, ok_iff, operand_ok_iff, pointer]
  constructor
  · rintro ⟨_, type, _, factor, _, commitment, _, challenge, rfl⟩
    exact ⟨type, factor, commitment, challenge⟩
  · rintro ⟨type, factor, commitment, challenge⟩
    exact ⟨_, type, _, factor, _, commitment, _, challenge, rfl⟩

variable [Field F] [AddCommGroup G] [Module F G] {v : SameTypeVerifier G} {com : G} {curve : Curve F G}

theorem commitment_eq (curveID : CurveID) (g0 g1 g2 : G) (proof : SameTypeValues F G) :
    (newSameTypeVerifier ([g0, g1, g2].map (pointer curveID)) curveID).commitment proof =
      .ok (proof.type • g0 + proof.blindingFactor • g2 - proof.challenge • proof.commitmentToType) := by
  have first : elementAt curveID ([g0, g1, g2].map (pointer curveID)) 0 = .ok g0 := element_at_pointers rfl
  have third : elementAt curveID ([g0, g1, g2].map (pointer curveID)) 2 = .ok g2 := element_at_pointers rfl
  simp only [SameTypeVerifier.commitment, newSameTypeVerifier, first, third]
  rfl

theorem first_message_ok (read : proof.values v.curveID = .ok values) (computed : v.commitment values = .ok com) :
    v.firstMessage proof = .ok (values.commitmentToType, com) := by
  rw [SameTypeVerifier.firstMessage, read]
  change (v.commitment values >>= _) = _
  rw [computed]
  rfl

theorem same_type_prove_ok {g0 g1 g2 : G} {type : Bytes} {bf : F} {randomness : SameTypeRandomness F} {chal : F}
    (challenged : chal = curve.hashToZr
      (curve.g1ArrayBytes [com, randomness.tokenType • g0 + randomness.blindingFactor • g2])) :
    (newSameTypeProver type (pointer curveID bf) (pointer curveID com) ([g0, g1, g2].map (pointer curveID)) curveID).prove
      curve randomness =
      .ok { type := pointer curveID (chal * curve.hashToZr type + randomness.tokenType)
            blindingFactor := pointer curveID (chal * bf + randomness.blindingFactor)
            challenge := pointer curveID chal
            commitmentToType := pointer curveID com } := by
  have first : elementAt curveID ([g0, g1, g2].map (pointer curveID)) 0 = .ok g0 := element_at_pointers rfl
  have third : elementAt curveID ([g0, g1, g2].map (pointer curveID)) 2 = .ok g2 := element_at_pointers rfl
  have factor : operand curveID (pointer curveID bf) = .ok bf := operand_ok_iff.mpr rfl
  rw [SameTypeProver.prove, SameTypeProver.computeCommitment]
  simp only [newSameTypeProver, first, third, factor]
  rw [challenged]
  rfl

theorem responses_cancel (g0 g2 : G) (type bf chal : F) (randomness : SameTypeRandomness F) :
    (chal * type + randomness.tokenType) • g0 + (chal * bf + randomness.blindingFactor) • g2 - chal • (type • g0 + bf • g2) =
      randomness.tokenType • g0 + randomness.blindingFactor • g2 := by
  module

variable [DecidableEq F]

theorem same_type_verify_ok_iff :
    v.verify curve proof = .ok () ↔ ∃ values com, proof.values v.curveID = .ok values ∧ v.commitment values = .ok com ∧
      curve.hashToZr (curve.g1ArrayBytes [values.commitmentToType, com]) = values.challenge := by
  simp only [SameTypeVerifier.verify, ok_iff, exists_and_left]

theorem same_type_complete_and_extractable (curveID : CurveID) (g0 g1 g2 : G) :
    (∀ (curve : Curve F G) (type : Bytes) (bf : F) (randomness : SameTypeRandomness F), ∃ proof,
      (newSameTypeProver type (pointer curveID bf) (pointer curveID (commitToType curve g0 g2 type bf))
        ([g0, g1, g2].map (pointer curveID)) curveID).prove curve randomness = .ok proof ∧
      (newSameTypeVerifier ([g0, g1, g2].map (pointer curveID)) curveID).verify curve proof = .ok ()) ∧
    ∀ (curve curve' : Curve F G) (proof proof' : SameType F G),
      (newSameTypeVerifier ([g0, g1, g2].map (pointer curveID)) curveID).verify curve proof = .ok () →
      (newSameTypeVerifier ([g0, g1, g2].map (pointer curveID)) curveID).verify curve' proof' = .ok () →
      (newSameTypeVerifier ([g0, g1, g2].map (pointer curveID)) curveID).firstMessage proof =
        (newSameTypeVerifier ([g0, g1, g2].map (pointer curveID)) curveID).firstMessage proof' →
      proof.challenge ≠ proof'.challenge →
      ∃ values values', proof.values curveID = .ok values ∧ proof'.values curveID = .ok values' ∧
        values.commitmentToType =
          extracted values.type values'.type values.challenge values'.challenge • g0 +
          extracted values.blindingFactor values'.blindingFactor values.challenge values'.challenge • g2 := by
  constructor
  · intro curve type bf randomness
    let chal := curve.hashToZr (curve.g1ArrayBytes
      [commitToType curve g0 g2 type bf, randomness.tokenType • g0 + randomness.blindingFactor • g2])
    let values : SameTypeValues F G :=
      { type := chal * curve.hashToZr type + randomness.tokenType
        blindingFactor := chal * bf + randomness.blindingFactor
        challenge := chal
        commitmentToType := commitToType curve g0 g2 type bf }
    refine ⟨_, same_type_prove_ok rfl, same_type_verify_ok_iff.mpr ⟨values, _, ?_, commitment_eq curveID g0 g1 g2 values, ?_⟩⟩
    · exact same_type_values_ok_iff.mpr ⟨rfl, rfl, rfl, rfl⟩
    · have cancelled := responses_cancel g0 g2 (curve.hashToZr type) bf chal randomness
      rw [← commitToType] at cancelled
      rw [cancelled]
  · intro curve curve' proof proof' accepted accepted' sameMessage distinct
    obtain ⟨values, com, read, computed, _⟩ := same_type_verify_ok_iff.mp accepted
    obtain ⟨values', com', read', computed', _⟩ := same_type_verify_ok_iff.mp accepted'
    rw [first_message_ok read computed, first_message_ok read' computed'] at sameMessage
    obtain ⟨sameCommitment, sameCom⟩ := Prod.mk.inj (Except.ok.inj sameMessage)
    rw [commitment_eq] at computed computed'
    have apart : values.challenge ≠ values'.challenge := by
      intro same
      apply distinct
      rw [(same_type_values_ok_iff.mp read).2.2.2, (same_type_values_ok_iff.mp read').2.2.2, same]
    refine ⟨values, values', read, read', two_responses_open apart ?_⟩
    rw [Except.ok.inj computed, sameCom, ← Except.ok.inj computed', sameCommitment]

end Accepted

namespace SameTypeBits

def oracle (challenge : ZMod 2) : Curve (ZMod 2) (ZMod 2) := { hashToZr := fun _ => challenge, bytes := fun _ => [] }

def answer (challenge : ZMod 2) : SameType (ZMod 2) (ZMod 2) :=
  { type := pointer 0 challenge, blindingFactor := pointer 0 0, challenge := pointer 0 challenge, commitmentToType := pointer 0 1 }

-- Both answers are to the first message 0 about the commitment 1.
theorem commitment_opened : ∃ values values', (answer 0).values 0 = .ok values ∧ (answer 1).values 0 = .ok values' ∧
    values.commitmentToType =
      extracted values.type values'.type values.challenge values'.challenge • (1 : ZMod 2) +
      extracted values.blindingFactor values'.blindingFactor values.challenge values'.challenge • (1 : ZMod 2) :=
  (same_type_complete_and_extractable 0 1 1 1).2 (oracle 0) (oracle 1) (answer 0) (answer 1) (by decide) (by decide) rfl
    (by decide)

end SameTypeBits

end Panurus.Zkatdlog
