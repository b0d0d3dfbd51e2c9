import Panurus.Identity.Unwrap
import Panurus.Zkatdlog.Actions

namespace Panurus.Zkatdlog

open List Lib Outcome Asn1 Identity

structure MathLib (F G : Type) extends Curve F G where
  curves : Nat
  zrBytes : F → Bytes
  newZrFromBytes : CurveID → Bytes → F
  newG1FromBytes : CurveID → Bytes → Outcome G
  curves_bounded : curves ≤ 2 ^ 63
  zr_read : ∀ curve value, newZrFromBytes curve (zrBytes value) = value
  g1_read : ∀ curve value, newG1FromBytes curve (bytes value) = .ok value

-- A structure of a curve id and octets. Reading takes any 64-bit integer and passes over what follows the fields.
def marshalElement (element : Element Bytes) : Bytes :=
  Der.sequence [Der.integer element.curve, Der.octetString element.value]

def unmarshalElement (data : Bytes) : Option ((Int × Bytes) × Bytes) := do
  let (fields, rest) ← readTlv tagSequence data
  let (curveID, fields) ← readInteger fields
  let (raw, _) ← readTlv 0x04 fields
  return ((curveID, raw), rest)

def marshalMath (values : List (Element Bytes)) : Outcome Bytes := do
  ensure (values ≠ []) "cannot marshal empty values"
  return stringsType.marshal (values.map marshalElement)

def newElementArray (elements : List (Element Bytes)) : Outcome (Element Bytes) := do
  let first ← required elements.head? "elements cannot be empty"
  return { curve := first.curve, value := stringsType.marshal (elements.map Element.value) }

-- A nil pointer panics when it is asked for its curve or its bytes.
def written {α : Type} (bytes : α → Bytes) (pointer : Option (Element α)) : Outcome (Element Bytes) := do
  let element ← required pointer "panic: nil element"
  return { curve := element.curve, value := bytes element.value }

abbrev Unmarshaller := List Bytes

def newUnmarshaller (raw : Bytes) : Outcome Unmarshaller := do
  let (values, _) ← wrap "failed to unmarshal values" (required (stringsType.unmarshal raw) "asn1: structure error")
  return values

namespace Unmarshaller

variable {F G : Type}

def next (u : Unmarshaller) : Outcome (Option (Int × Bytes) × Unmarshaller) :=
  match u with
  | [] => .ok (none, [])
  | value :: others => do
    let (element, rest) ← wrap "failed to unmarshal element" (required (unmarshalElement value) "asn1: structure error")
    ensure (rest = []) "values should not have trailing bytes"
    return (some element, others)

def curveAt (lib : MathLib F G) (id : Int) : Outcome CurveID := do
  ensure (0 ≤ id ∧ id < lib.curves) s!"invalid curve id [{id}]"
  return id.toNat

def nextWith {α : Type} (lib : MathLib F G) (read : CurveID → Bytes → Outcome α) (u : Unmarshaller) :
    Outcome (Option (Element α) × Unmarshaller) := do
  let (found, others) ← u.next
  match found with
  | none => return (none, others)
  | some (id, raw) =>
    let curve ← curveAt lib id
    let value ← read curve raw
    return (some { curve, value }, others)

def nextZr (lib : MathLib F G) : Unmarshaller → Outcome (Option (Element F) × Unmarshaller) :=
  nextWith lib fun curve raw => .ok (lib.newZrFromBytes curve raw)

def nextG1 (lib : MathLib F G) : Unmarshaller → Outcome (Option (Element G) × Unmarshaller) :=
  nextWith lib lib.newG1FromBytes

def nextZrArray (lib : MathLib F G) (u : Unmarshaller) : Outcome (Elements F × Unmarshaller) := do
  let (found, others) ← u.next
  match found with
  | none => return ([], others)
  | some (id, raw) =>
    let (values, rest) ← wrap "failed to serialize element" (required (stringsType.unmarshal raw) "asn1: structure error")
    ensure (rest = []) "values should not have trailing bytes"
    let curve ← curveAt lib id
    return (values.map fun value => pointer curve (lib.newZrFromBytes curve value), others)

end Unmarshaller

open Unmarshaller

section RoundTrip

theorem marshal_element_length (element : Element Bytes) : element.value.length < (marshalElement element).length := by
  simp only [marshalElement, Der.sequence, Der.octetString, Der.tlv, flatten_cons, flatten_nil, length_cons, length_append]
  omega

variable {element : Element Bytes} {strings : List Bytes} {F G : Type} {lib : MathLib F G} {curve : CurveID}

theorem unmarshal_element (curve : element.curve < 2 ^ 63) (bounded : (marshalElement element).length < lengthLimit) :
    unmarshalElement (marshalElement element) = some (((element.curve : Int), element.value), []) := by
  have inner := (marshal_element_length element).trans bounded
  have fields : [Der.integer element.curve, Der.octetString element.value].flatten.length < lengthLimit := by
    rw [marshalElement, Der.sequence, Der.tlv] at bounded
    simp only [length_cons, length_append] at bounded
    omega
  have outer := read_tlv tagSequence fields []
  have id := read_integer curve (Der.octetString element.value)
  have raw := read_tlv 0x04 inner []
  simp only [append_nil, flatten_cons, flatten_nil] at outer raw
  simp only [unmarshalElement, marshalElement, Der.sequence, flatten_cons, flatten_nil, append_nil]
  rw [show (0x30 : UInt8) = tagSequence from rfl, outer]
  simp only [Option.bind_eq_bind, Option.bind_some, id]
  rw [Der.octetString, raw]
  rfl

theorem strings_unmarshal (bounded : (stringsType.marshal strings).length < lengthLimit) :
    stringsType.unmarshal (stringsType.marshal strings) = some (strings, []) := by
  have shorter := (octet_strings_shorter strings).trans_lt bounded
  exact (unmarshal_canonical_ok_iff.mp (strings_type_read shorter)).1

theorem string_length {string : Bytes} (mem : string ∈ strings) : string.length < (stringsType.marshal strings).length :=
  (component_shorter mem).trans_le (octet_strings_shorter strings)

theorem new_unmarshaller_ok (bounded : (stringsType.marshal strings).length < lengthLimit) :
    newUnmarshaller (stringsType.marshal strings) = .ok strings := by
  rw [newUnmarshaller, strings_unmarshal bounded]
  rfl

theorem next_ok (curve : element.curve < 2 ^ 63) (bounded : (marshalElement element).length < lengthLimit) (others : Unmarshaller)
    : Unmarshaller.next (marshalElement element :: others) = .ok (some ((element.curve : Int), element.value), others) := by
  rw [Unmarshaller.next, unmarshal_element curve bounded]
  rfl

section

variable (known : curve < lib.curves)

include known

theorem curve_at_ok : curveAt lib curve = .ok curve := by
  rw [curveAt, ensure, if_pos ⟨Int.natCast_nonneg curve, Int.ofNat_lt.mpr known⟩]
  rfl

theorem next_with_ok {α : Type} {read : CurveID → Bytes → Outcome α} {raw : Bytes} {value : α}
    (readable : read curve raw = .ok value) (bounded : (marshalElement ⟨curve, raw⟩).length < lengthLimit) (others : Unmarshaller)
    : nextWith lib read (marshalElement ⟨curve, raw⟩ :: others) = .ok (pointer curve value, others) := by
  have found := next_ok (known.trans_le lib.curves_bounded) bounded others
  refine bind_ok_iff.mpr ⟨_, found, ?_⟩
  exact bind_ok_iff.mpr ⟨curve, curve_at_ok known, bind_ok_iff.mpr ⟨value, readable, rfl⟩⟩

theorem next_zr_ok {value : F} (bounded : (marshalElement ⟨curve, lib.zrBytes value⟩).length < lengthLimit)
    (others : Unmarshaller) :
    nextZr lib (marshalElement ⟨curve, lib.zrBytes value⟩ :: others) = .ok (pointer curve value, others) :=
  next_with_ok known (congrArg Except.ok (lib.zr_read curve value)) bounded others

theorem next_zr_array_ok {values : List F}
    (bounded : (marshalElement ⟨curve, stringsType.marshal (values.map lib.zrBytes)⟩).length < lengthLimit)
    (others : Unmarshaller) :
    nextZrArray lib (marshalElement ⟨curve, stringsType.marshal (values.map lib.zrBytes)⟩ :: others) =
      .ok (values.map (pointer curve), others) := by
  have found := next_ok (known.trans_le lib.curves_bounded) bounded others
  have strings := strings_unmarshal ((marshal_element_length _).trans bounded)
  refine bind_ok_iff.mpr ⟨_, found, ?_⟩
  refine bind_ok_iff.mpr ⟨_, by rw [strings]; rfl, bind_ok_iff.mpr ⟨(), rfl, bind_ok_iff.mpr ⟨curve, curve_at_ok known, ?_⟩⟩⟩
  simp only [map_map, Function.comp_def, lib.zr_read]
  rfl

end

end RoundTrip

structure TypeAndSumWitness (F : Type) where
  inValues : Elements F
  outValues : Elements F
  type : F
  inBlindingFactors : Elements F
  outBlindingFactors : Elements F
  typeBlindingFactor : Option (Element F)

structure TypeAndSumProofRandomness (F : Type) where
  inValues : Nat → F
  inBF : Nat → F
  ttype : F
  typeBF : F
  sumBF : F

structure TypeAndSumProver (F G : Type) where
  pedParams : Elements G
  inputs : Elements G
  outputs : Elements G
  commitmentToType : Option (Element G)
  witness : TypeAndSumWitness F
  curveID : CurveID

structure TypeAndSumProofCommitments (G : Type) where
  inputs : List G
  sum : G
  commitmentToType : G

section Prove

variable {F G : Type} [Field F] [AddCommGroup G] [Module F G]

def newTypeAndSumWitness (curve : Curve F G) (bf : Option (Element F)) (ins outs : List (TokenMetadata F)) :
    Outcome (TypeAndSumWitness F) := do
  let first ← required ins.head? s!"cannot create type-and-sum witness: no inputs: {errInvalidInputs}"
  return { inValues := ins.map TokenMetadata.value
           outValues := outs.map TokenMetadata.value
           type := curve.hashToZr first.type
           inBlindingFactors := ins.map TokenMetadata.blindingFactor
           outBlindingFactors := outs.map TokenMetadata.blindingFactor
           typeBlindingFactor := bf }

namespace TypeAndSumProver

def computeCommitments (p : TypeAndSumProver F G) (randomness : TypeAndSumProofRandomness F) :
    Outcome (TypeAndSumProofCommitments G) := do
  let g0 ← elementAt p.curveID p.pedParams 0
  let g2 ← elementAt p.curveID p.pedParams 2
  let inputs ← (List.range p.inputs.length).mapM fun i => do
    let g1 ← elementAt p.curveID p.pedParams 1
    return randomness.inValues i • g1 + randomness.inBF i • g2
  return { inputs
           sum := randomness.sumBF • g2
           commitmentToType := randomness.ttype • g0 + randomness.typeBF • g2 }

structure InputResponse (F : Type) where
  value : F
  blindingFactor : F
  t : F

def respond (p : TypeAndSumProver F G) (randomness : TypeAndSumProofRandomness F) (chal typeBF : F) (i : Nat) :
    Outcome (InputResponse F) := do
  let value ← elementAt p.curveID p.witness.inValues i
  let factor ← elementAt p.curveID p.witness.inBlindingFactors i
  let t := factor - typeBF
  return { value := chal * value + randomness.inValues i, blindingFactor := chal * t + randomness.inBF i, t }

def computeProof (p : TypeAndSumProver F G) (randomness : TypeAndSumProofRandomness F) (chal : F) :
    Outcome (TypeAndSumProof F G) := do
  let typeBF ← operand p.curveID p.witness.typeBlindingFactor
  let responses ← (List.range p.inputs.length).mapM (p.respond randomness chal typeBF)
  let sumIn := responses.foldl (fun sum response => sum + response.t) 0
  let outTs ← (List.range p.outputs.length).mapM fun i => do
    let factor ← elementAt p.curveID p.witness.outBlindingFactors i
    return factor - typeBF
  let sumBF := outTs.foldl (fun sum t => sum - t) sumIn
  return { commitmentToType := p.commitmentToType
           challenge := pointer p.curveID chal
           type := pointer p.curveID (chal * p.witness.type + randomness.ttype)
           typeBlindingFactor := pointer p.curveID (chal * typeBF + randomness.typeBF)
           inputValues := responses.map fun response => pointer p.curveID response.value
           inputBlindingFactors := responses.map fun response => pointer p.curveID response.blindingFactor
           equalityOfSum := pointer p.curveID (chal * sumBF + randomness.sumBF) }

def prove (curve : Curve F G) (p : TypeAndSumProver F G) (randomness : TypeAndSumProofRandomness F) :
    Outcome (TypeAndSumProof F G) := do
  let commitments ← p.computeCommitments randomness
  let commitmentToType ← operand p.curveID p.commitmentToType
  let inputs ← p.inputs.mapM (operand p.curveID)
  let outputs ← p.outputs.mapM (operand p.curveID)
  let ins := shifted commitmentToType inputs
  let outs := shifted commitmentToType outputs
  let announced : Announcements G :=
    { inComs := commitments.inputs, typeCom := commitments.commitmentToType, sumCom := commitments.sum
      inputs := ins, outputs := outs, commitmentToType, sum := sumOf ins outs }
  p.computeProof randomness (curve.hashToZr (curve.g1ArrayBytes announced.array))

end TypeAndSumProver

def newTypeAndSumProver (witness : TypeAndSumWitness F) (pp inputs outputs : Elements G)
    (comType : Option (Element G)) (curveID : CurveID) : TypeAndSumProver F G :=
  { pedParams := pp, inputs, outputs, commitmentToType := comType, witness, curveID }

end Prove

section Encoding

variable {F G : Type}

namespace TypeAndSumProof

def responseArray (lib : MathLib F G) (responses : Elements F) : Outcome (Element Bytes) := do
  let elements ← responses.mapM (written lib.zrBytes)
  join (newElementArray elements) [errInvalidSumAndTypeProof]

def serialize (lib : MathLib F G) (p : TypeAndSumProof F G) : Outcome Bytes := do
  let ibf ← responseArray lib p.inputBlindingFactors
  let iv ← responseArray lib p.inputValues
  let commitmentToType ← written lib.bytes p.commitmentToType
  let type ← written lib.zrBytes p.type
  let typeBlindingFactor ← written lib.zrBytes p.typeBlindingFactor
  let equalityOfSum ← written lib.zrBytes p.equalityOfSum
  let challenge ← written lib.zrBytes p.challenge
  join (marshalMath [commitmentToType, ibf, iv, type, typeBlindingFactor, equalityOfSum, challenge])
    [errInvalidSumAndTypeProof]

def deserialize (lib : MathLib F G) (bytes : Bytes) : Outcome (TypeAndSumProof F G) :=
  join (do
    let unmarshaller ← newUnmarshaller bytes
    let (commitmentToType, unmarshaller) ← unmarshaller.nextG1 lib
    let (inputBlindingFactors, unmarshaller) ← unmarshaller.nextZrArray lib
    let (inputValues, unmarshaller) ← unmarshaller.nextZrArray lib
    let (type, unmarshaller) ← unmarshaller.nextZr lib
    let (typeBlindingFactor, unmarshaller) ← unmarshaller.nextZr lib
    let (equalityOfSum, unmarshaller) ← unmarshaller.nextZr lib
    let (challenge, _) ← unmarshaller.nextZr lib
    return { commitmentToType, inputBlindingFactors, inputValues, type, typeBlindingFactor, equalityOfSum, challenge })
    [errInvalidSumAndTypeProof]

end TypeAndSumProof

end Encoding

end Panurus.Zkatdlog
