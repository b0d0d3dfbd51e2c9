import Panurus.Zkatdlog.TypeAndSum
import Panurus.Lib.Sigma

namespace Panurus.Zkatdlog

open List Lib Lib.Sigma

section Extract

variable {F G : Type} [Field F] [AddCommGroup G] [Module F G]

def TransferStatement.generators (statement : TransferStatement G) : G × G × G :=
  (statement.g0, statement.g1, statement.g2)

def extractedType (first second : TypeAndSumValues F G) : F × F × F :=
  (extracted first.type second.type first.challenge second.challenge, 0,
    extracted first.typeBlindingFactor second.typeBlindingFactor first.challenge second.challenge)

def extractedInput (challenge challenge' : F) (responses responses' : F × F) : F × F × F :=
  (0, extracted responses.1 responses'.1 challenge challenge', extracted responses.2 responses'.2 challenge challenge')

def extractedInputs (first second : TypeAndSumValues F G) : List (F × F × F) :=
  zipWith (extractedInput first.challenge second.challenge)
    (first.inputValues.zip first.inputBlindingFactors) (second.inputValues.zip second.inputBlindingFactors)

def extractedSum (first second : TypeAndSumValues F G) : F × F × F :=
  (0, 0, extracted first.equalityOfSum second.equalityOfSum first.challenge second.challenge)

def OpenedBy (generators : G × G × G) (point : G) (coefficients : F × F × F) : Prop :=
  point = combine generators coefficients

theorem folded_eq (response point : G) (challenge : F) : folded response point challenge = response - challenge • point := by
  rw [folded, one_smul, neg_smul, sub_eq_add_neg]

theorem sum_of_eq (inputs outputs : List G) : sumOf inputs outputs = inputs.sum - outputs.sum := by
  have adding : inputs.foldl (fun sum input => sum + input) 0 = inputs.sum := sum_eq_foldl.symm
  have subtracting : ∀ (outputs : List G) (start : G),
      outputs.foldl (fun sum output => sum - output) start = start - outputs.sum := by
    intro outputs
    induction outputs with
    | nil => simp
    | cons head tail ih =>
      intro start
      rw [foldl_cons, ih, sum_cons, sub_sub]
  rw [sumOf, adding, subtracting]

theorem inputs_extracted (statement : TransferStatement G) {challenge challenge' : F} (distinct : challenge ≠ challenge')
    {inputs : List G} {responses responses' : List (F × F)} (answered : responses.length = inputs.length)
    (answered' : responses'.length = inputs.length)
    (same : zipWith (inputCommitment statement.g1 statement.g2 challenge) inputs responses =
      zipWith (inputCommitment statement.g1 statement.g2 challenge') inputs responses') :
    Forall₂ (OpenedBy statement.generators) inputs (zipWith (extractedInput challenge challenge') responses responses') := by
  induction inputs generalizing responses responses' with
  | nil =>
    obtain rfl := eq_nil_of_length_eq_zero answered
    exact .nil
  | cons input inputs ih =>
    obtain ⟨response, responses, rfl⟩ := exists_cons_of_length_eq_add_one answered
    obtain ⟨response', responses', rfl⟩ := exists_cons_of_length_eq_add_one answered'
    simp only [zipWith_cons_cons, cons.injEq, length_cons, Nat.add_right_cancel_iff] at *
    refine .cons ?_ (ih answered answered' same.2)
    have head := same.1
    rw [inputCommitment, inputCommitment, folded_eq, folded_eq] at head
    rw [OpenedBy, combine, extractedInput, zero_smul, zero_add]
    exact two_responses_open distinct head

structure Transcripts (statement : TransferStatement G) (first second : TypeAndSumValues F G) : Prop where
  distinct : first.challenge ≠ second.challenge
  same : announcements statement first = announcements statement second
  answered : (first.inputValues.zip first.inputBlindingFactors).length = statement.inputs.length
  answered' : (second.inputValues.zip second.inputBlindingFactors).length = statement.inputs.length

namespace Transcripts

variable {statement : TransferStatement G} {first second : TypeAndSumValues F G}

section

variable (transcripts : Transcripts statement first second)
include transcripts

theorem shared : first.commitmentToType = second.commitmentToType :=
  congrArg Announcements.commitmentToType transcripts.same

theorem inputs_opened :
    Forall₂ (OpenedBy statement.generators) (shifted first.commitmentToType statement.inputs) (extractedInputs first second) := by
  have messages := congrArg Announcements.inComs transcripts.same
  simp only [announcements, ← transcripts.shared] at messages
  refine inputs_extracted statement transcripts.distinct ?_ ?_ messages
  · rw [shifted, length_map, transcripts.answered]
  · rw [shifted, length_map, transcripts.answered']

theorem type_opened : OpenedBy statement.generators first.commitmentToType (extractedType first second) := by
  have message := congrArg Announcements.typeCom transcripts.same
  simp only [announcements, folded_eq, ← transcripts.shared] at message
  rw [OpenedBy, combine, extractedType, zero_smul, add_zero]
  exact two_responses_open transcripts.distinct message

theorem sum_opened :
    OpenedBy statement.generators ((shifted first.commitmentToType statement.inputs).sum -
      (shifted first.commitmentToType statement.outputs).sum) (extractedSum first second) := by
  have message := congrArg Announcements.sumCom transcripts.same
  simp only [announcements, folded_eq, sum_of_eq, ← transcripts.shared] at message
  rw [OpenedBy, combine, extractedSum, zero_smul, zero_smul, zero_add, zero_add]
  exact two_responses_open_one transcripts.distinct message

end

end Transcripts

end Extract

section Openings

variable {F G : Type} [Field F] [AddCommGroup G] [Module F G]

structure Opening (F : Type) where
  type : F
  value : ℕ
  blinding : F

def Opening.coefficients (opening : Opening F) : F × F × F := (opening.type, (opening.value : F), opening.blinding)

def rangeCoefficients (range : ℕ × F) : F × F × F := (0, (range.1 : F), range.2)

-- The relations between the generators that two transcripts, the openings of the inputs and the openings the range
-- proofs give exhibit: every input is opened twice, and so is the sum.
def exhibitedRelations (first second : TypeAndSumValues F G) (openings : List (Opening F)) (ranges : List (ℕ × F)) :
    List (F × F × F) :=
  zipWith (fun input opening => extractedType first second + input - opening.coefficients)
      (extractedInputs first second) openings ++
    [(extractedInputs first second).sum - (ranges.map rangeCoefficients).sum - extractedSum first second]

-- The points open to tokens of the inputs' type, each below the bound, with the inputs' total value.
structure Conserved (generators : G × G × G) (bound : ℕ) (outputs : List G) (openings : List (Opening F)) (type : F)
    (opened : List (Opening F)) : Prop where
  inputTypes : ∀ opening ∈ openings, opening.type = type
  opens : Forall₂ (OpenedBy generators) outputs (opened.map Opening.coefficients)
  outputTypes : ∀ opening ∈ opened, opening.type = type
  bounded : ∀ opening ∈ opened, opening.value < bound
  total : (opened.map Opening.value).sum = (openings.map Opening.value).sum

def Exhibits (generators : G × G × G) (relations : List (F × F × F)) : Prop :=
  ∃ relation ∈ relations, relation ≠ 0 ∧ combine generators relation = 0

end Openings

open Opening

section Relations

variable {F G : Type} [Field F] {first second : TypeAndSumValues F G} {type : F × F × F} {inputs : List (F × F × F)}
  {openings : List (Opening F)}

theorem values_sum (coefficients : List (F × F × F)) : coefficients.sum.2.1 = (coefficients.map fun entry => entry.2.1).sum := by
  induction coefficients with
  | nil => rfl
  | cons head tail ih => rw [sum_cons, map_cons, sum_cons, Prod.snd_add, Prod.fst_add, ih]

theorem extracted_inputs_typeless : ∀ input ∈ extractedInputs first second, input.1 = 0 := by
  intro input mem
  obtain ⟨index, found⟩ := mem_iff_getElem?.mp mem
  obtain ⟨_, _, -, -, rfl⟩ := getElem?_zipWith_eq_some.mp found
  rfl

theorem zero_relations_agree (lengths : inputs.length = openings.length)
    (trivial : ∀ relation ∈ zipWith (fun input opening => type + input - opening.coefficients) inputs openings,
      relation = 0) : inputs.map (fun input => type + input) = openings.map coefficients := by
  induction inputs generalizing openings with
  | nil =>
    obtain rfl := eq_nil_of_length_eq_zero lengths.symm
    rfl
  | cons input inputs ih =>
    obtain ⟨opening, openings, rfl⟩ := exists_cons_of_length_eq_add_one lengths.symm
    rw [zipWith_cons_cons, forall_mem_cons] at trivial
    rw [map_cons, map_cons, sub_eq_zero.mp trivial.1, ih (Nat.succ.inj lengths) trivial.2]

variable [AddCommGroup G] [Module F G] {generators : G × G × G}

theorem input_relations_vanish {commitmentToType : G} (typed : OpenedBy generators commitmentToType type) {points : List G}
    (extracted : Forall₂ (OpenedBy generators) (shifted commitmentToType points) inputs)
    (opened : Forall₂ (OpenedBy generators) points (openings.map coefficients)) :
    ∀ relation ∈ zipWith (fun input opening => type + input - opening.coefficients) inputs openings,
      combine generators relation = 0 := by
  induction points generalizing inputs openings with
  | nil =>
    obtain rfl := forall₂_nil_left_iff.mp extracted
    simp
  | cons point points ih =>
    obtain ⟨input, inputs, shifted_point, extracted_rest, rfl⟩ := forall₂_cons_left_iff.mp extracted
    obtain ⟨coefficients, rest, first, opened_rest, given⟩ := forall₂_cons_left_iff.mp opened
    obtain ⟨opening, openings, rfl, rfl, rfl⟩ := map_eq_cons_iff.mp given
    rw [zipWith_cons_cons, forall_mem_cons]
    refine ⟨?_, ih extracted_rest opened_rest⟩
    rw [combine_sub, combine_add, ← typed, ← shifted_point, ← first, add_sub_cancel, sub_self]

theorem sum_relation_vanishes {ins outs : List G} {ranges : List (F × F × F)} {sum : F × F × F}
    (extracted : Forall₂ (OpenedBy generators) ins inputs) (ranged : Forall₂ (OpenedBy generators) outs ranges)
    (summed : OpenedBy generators (ins.sum - outs.sum) sum) : combine generators (inputs.sum - ranges.sum - sum) = 0 := by
  rw [combine_sub, combine_sub, ← opened_sum extracted, ← opened_sum ranged, ← summed, sub_self]

def rangeToken (type : F × F × F) (range : ℕ × F) : Opening F :=
  { type := type.1, value := range.1, blinding := type.2.2 + range.2 }

theorem outputs_open {outputs : List G} {ranges : List (ℕ × F)}
    (typed : OpenedBy generators first.commitmentToType (extractedType first second))
    (ranged : Forall₂ (OpenedBy generators) (shifted first.commitmentToType outputs) (ranges.map rangeCoefficients)) :
    Forall₂ (OpenedBy generators) outputs ((ranges.map (rangeToken (extractedType first second))).map coefficients) := by
  rw [shifted, forall₂_map_left_iff, forall₂_map_right_iff] at ranged
  rw [map_map, forall₂_map_right_iff]
  refine ranged.imp fun output range opened => ?_
  have coefficients : (coefficients ∘ rangeToken (extractedType first second)) range =
      extractedType first second + rangeCoefficients range := by
    simp [coefficients, rangeToken, rangeCoefficients, extractedType]
  rw [OpenedBy] at typed opened ⊢
  rw [coefficients, combine_add, ← typed, ← opened, add_sub_cancel]

end Relations

section Natural

variable {p bound : ℕ} [Fact p.Prime] {G : Type} [AddCommGroup G] [Module (ZMod p) G]
  {openings : List (Opening (ZMod p))} {ranges : List (ℕ × ZMod p)} {statement : TransferStatement G}
  {first second : TypeAndSumValues (ZMod p) G}

theorem totals_agree {type sum : ZMod p × ZMod p × ZMod p} {inputs : List (ZMod p × ZMod p × ZMod p)} (typed : type.2.1 = 0)
    (summed : sum.2.1 = 0) (agree : inputs.map (fun input => type + input) = openings.map coefficients)
    (balance : inputs.sum - (ranges.map rangeCoefficients).sum - sum = 0)
    (small : ∀ opening ∈ openings, opening.value < bound) (bounded : ∀ range ∈ ranges, range.1 < bound)
    (room : (openings.length + ranges.length) * bound < p) : (ranges.map Prod.fst).sum = (openings.map value).sum := by
  have values : inputs.map (fun input => input.2.1) = openings.map fun opening => (opening.value : ZMod p) := by
    have middle := congrArg (map fun entry => entry.2.1) agree
    simpa [Function.comp_def, typed, coefficients] using middle
  have total : (openings.map fun opening => (opening.value : ZMod p)).sum =
      (ranges.map fun range => (range.1 : ZMod p)).sum := by
    have middle := congrArg (fun entry => entry.2.1) balance
    simp only [Prod.snd_sub, Prod.fst_sub, summed, sub_zero, values_sum, values, map_map] at middle
    exact sub_eq_zero.mp middle
  have inputs_small : ∀ value ∈ openings.map Opening.value, value < bound := forall_mem_map.mpr small
  have outputs_small : ∀ value ∈ ranges.map Prod.fst, value < bound := forall_mem_map.mpr bounded
  refine (sums_agree (p := p) inputs_small outputs_small ?_ ?_).symm
  · simpa only [length_map] using room
  · simpa [Function.comp_def] using total

section

variable (transcripts : Transcripts statement first second)
  (opened : Forall₂ (OpenedBy statement.generators) statement.inputs (openings.map coefficients))
  (small : ∀ opening ∈ openings, opening.value < bound)
include transcripts opened small

theorem conserved_or_related (ranged : Forall₂ (OpenedBy statement.generators) (shifted first.commitmentToType statement.outputs)
      (ranges.map rangeCoefficients)) (bounded : ∀ range ∈ ranges, range.1 < bound)
    (room : (openings.length + ranges.length) * bound < p) :
    Exhibits statement.generators (exhibitedRelations first second openings ranges) ∨
      ∃ type tokens, Conserved statement.generators bound statement.outputs openings type tokens := by
  by_cases trivial : ∀ relation ∈ exhibitedRelations first second openings ranges, relation = 0
  · right
    rw [exhibitedRelations, forall_mem_append] at trivial
    have lengths : (extractedInputs first second).length = openings.length := by
      rw [← transcripts.inputs_opened.length_eq, shifted, length_map, opened.length_eq, length_map]
    have agree := zero_relations_agree lengths trivial.1
    have balance := trivial.2 _ (mem_singleton_self _)
    refine ⟨(extractedType first second).1, ranges.map (rangeToken (extractedType first second)), ?_,
      outputs_open transcripts.type_opened ranged, ?_, ?_, ?_⟩
    · intro opening mem
      obtain ⟨input, found, same⟩ := mem_map.mp (agree ▸ mem_map_of_mem mem)
      have types := congrArg Prod.fst same
      rw [Prod.fst_add, extracted_inputs_typeless input found, add_zero] at types
      exact types.symm
    · exact forall_mem_map.mpr fun _ _ => rfl
    · exact forall_mem_map.mpr bounded
    · rw [map_map, ← totals_agree rfl rfl agree balance small bounded room]
      rfl
  · left
    push Not at trivial
    obtain ⟨relation, mem, nonzero⟩ := trivial
    refine ⟨relation, mem, nonzero, ?_⟩
    rcases mem_append.mp mem with single | total
    · exact input_relations_vanish transcripts.type_opened transcripts.inputs_opened opened relation single
    · rw [mem_singleton.mp total]
      exact sum_relation_vanishes transcripts.inputs_opened ranged transcripts.sum_opened

theorem single_conserved (oneInput : statement.inputs.length = 1) (oneOutput : statement.outputs.length = 1) :
    ∃ type tokens, Conserved statement.generators bound statement.outputs openings type tokens := by
  obtain ⟨input, inputs⟩ := length_eq_one_iff.mp oneInput
  obtain ⟨output, outputs⟩ := length_eq_one_iff.mp oneOutput
  have one : openings.length = 1 := by rw [← length_map coefficients, ← opened.length_eq, oneInput]
  obtain ⟨opening, rfl⟩ := length_eq_one_iff.mp one
  rw [inputs, map_singleton, forall₂_cons] at opened
  have blinded := transcripts.sum_opened
  simp only [inputs, outputs, shifted, map_singleton, sum_singleton, sub_sub_sub_cancel_right] at blinded
  let token : Opening (ZMod p) :=
    { type := opening.type, value := opening.value, blinding := opening.blinding - (extractedSum first second).2.2 }
  have reblinded : token.coefficients = opening.coefficients - extractedSum first second := by
    simp [token, coefficients, extractedSum]
  refine ⟨opening.type, [token], by simp, ?_, by simp [token], by simpa [token] using small, rfl⟩
  rw [outputs, map_singleton, reblinded]
  refine .cons ?_ .nil
  have openedInput := opened.1
  rw [OpenedBy] at blinded openedInput ⊢
  rw [combine_sub, ← openedInput, ← blinded, sub_sub_cancel]

end

end Natural

end Panurus.Zkatdlog
