import Panurus.Boolpolicy.Node
import Panurus.Core.Backend
import Panurus.Identity.Envelopes

namespace Panurus.Boolpolicy

open List Lib Outcome Asn1 Core Identity

abbrev PolicySignature := List Bytes

def PolicySignature.bytes (signatures : PolicySignature) : Bytes := stringsType.marshal signatures
def PolicySignature.fromBytes (raw : Bytes) : Outcome PolicySignature := unmarshalCanonicalDER stringsType raw

open PolicySignature

def joinedSlots (uniqueID : Identity → String) (identities : List Identity) (sigmas : String → Option Bytes) : PolicySignature :=
  identities.map fun id => (sigmas (uniqueID id)).getD []

def joinSignatures (uniqueID : Identity → String) (identities : List Identity) (sigmas : String → Option Bytes) : Bytes :=
  (joinedSlots uniqueID identities sigmas).bytes

structure PolicyVerifier where
  policy : Node
  verifiers : List (Option Verifier)

inductive RefResult where
  | unknown
  | pass
  | fail
deriving DecidableEq, Repr

-- The results so far, and, for the proofs, the components whose verifiers were asked.
structure Evaluation where
  memo : List RefResult
  consulted : List Nat
deriving DecidableEq, Repr

namespace PolicyVerifier

variable (v : PolicyVerifier) (readings : Readings) (msg : Bytes) (sigs : PolicySignature)

def evalRef (i : Int) (state : Evaluation) : Bool × Evaluation :=
  if i < 0 then (false, state)
  else match sigs[i.toNat]?, state.memo[i.toNat]?, v.verifiers[i.toNat]? with
    | some sigma, some known, some (some verifier) =>
      if sigma.length = 0 then (false, state)
      else match known with
        | .pass => (true, state)
        | .fail => (false, state)
        | .unknown =>
          let ok := (verifier (componentReadings readings i.toNat) msg sigma).isOk
          (ok, { memo := state.memo.set i.toNat (if ok then .pass else .fail), consulted := i.toNat :: state.consulted })
    | _, _, _ => (false, state)

def evalNode : Node → Evaluation → Bool × Evaluation
  | .ref index, state => v.evalRef readings msg sigs index state
  | .and left right, state =>
    match evalNode left state with
    | (true, state) => evalNode right state
    | (false, state) => (false, state)
  | .or left right, state =>
    match evalNode left state with
    | (true, state) => (true, state)
    | (false, state) => evalNode right state

def evaluate : Bool × Evaluation :=
  v.evalNode readings msg sigs v.policy { memo := replicate sigs.length .unknown, consulted := [] }

def verify : Verifier := fun readings msg sigBytes => do
  let sigs ← wrap "failed to unmarshal policy signature" (fromBytes sigBytes)
  ensure (sigs.length = v.verifiers.length) s!"policy signature has [{sigs.length}] slots, expected [{v.verifiers.length}]"
  ensure ((v.evaluate readings msg sigs).1 = true) "policy not satisfied"

def accepts (index : Nat) : Bool :=
  match sigs[index]?, v.verifiers[index]? with
  | some sigma, some (some verifier) => sigma ≠ [] && (verifier (componentReadings readings index) msg sigma).isOk
  | _, _ => false

def valuation : List Bool := (range sigs.length).map (v.accepts readings msg sigs)

end PolicyVerifier

theorem is_ok_iff {outcome : Outcome Unit} : outcome.isOk = true ↔ outcome = .ok () := by
  cases outcome <;> simp [Except.isOk, Except.toBool]

def RefResult.Agrees : RefResult → Bool → Prop
  | .unknown, _ => True
  | .pass, truth => truth = true
  | .fail, truth => truth = false

namespace PolicyVerifier

variable {v : PolicyVerifier} {readings : Readings} {msg : Bytes} {sigs slots : PolicySignature} {index : Nat}
  {state : Evaluation} {uniqueID : Identity → String} {identities : List Identity} {sigmas : String → Option Bytes}

theorem accepts_iff : v.accepts readings msg sigs index = true ↔ ∃ sigma verifier,
    sigs[index]? = some sigma ∧ sigma ≠ [] ∧ v.verifiers[index]? = some (some verifier) ∧
      verifier (componentReadings readings index) msg sigma = .ok () := by
  unfold accepts
  split
  · rename_i sigma verifier slot component
    simp only [slot, component, Bool.and_eq_true, decide_eq_true_eq, is_ok_iff, Option.some.injEq]
    constructor
    · rintro ⟨filled, accepted⟩
      exact ⟨sigma, verifier, rfl, filled, rfl, accepted⟩
    · rintro ⟨_, _, rfl, filled, rfl, accepted⟩
      exact ⟨filled, accepted⟩
  · rename_i absent
    simp only [Bool.false_eq_true, false_iff, not_exists, not_and]
    intro sigma verifier slot _ component
    exact absurd component (absent sigma verifier slot)

theorem valuation_iff : (v.valuation readings msg sigs)[index]? = some true ↔ v.accepts readings msg sigs index = true := by
  simp only [valuation, getElem?_map, Option.map_eq_some_iff]
  constructor
  · rintro ⟨position, found, accepted⟩
    obtain ⟨_, rfl⟩ := List.getElem?_eq_some_iff.mp found
    simpa using accepted
  · intro accepted
    obtain ⟨sigma, _, slot, _⟩ := accepts_iff.mp accepted
    exact ⟨index, List.getElem?_range (List.getElem?_eq_some_iff.mp slot).1, accepted⟩

structure Remembers (v : PolicyVerifier) (readings : Readings) (msg : Bytes) (sigs : PolicySignature) (state : Evaluation) :
    Prop where
  slots : state.memo.length = sigs.length
  agrees : ∀ index (known : RefResult), state.memo[index]? = some known → known.Agrees (v.accepts readings msg sigs index)
  asked : ∀ index ∈ state.consulted, state.memo[index]? ≠ some .unknown
  once : state.consulted.Nodup

theorem eval_ref_valuation (i : Int) :
    (Node.ref i).eval (v.valuation readings msg sigs) = (decide (0 ≤ i) && v.accepts readings msg sigs i.toNat) := by
  rw [Bool.eq_iff_iff, eval_iff_holds, Bool.and_eq_true, decide_eq_true_eq, Node.Holds, valuation_iff]

theorem remembers_set (remembers : Remembers v readings msg sigs state) {known : RefResult}
    (fresh : state.memo[index]? = some .unknown) (settled : known ≠ .unknown)
    (agrees : known.Agrees (v.accepts readings msg sigs index)) :
    Remembers v readings msg sigs { memo := state.memo.set index known, consulted := index :: state.consulted } := by
  have inside : index < state.memo.length := (List.getElem?_eq_some_iff.mp fresh).1
  refine ⟨by rw [length_set, remembers.slots], ?_, ?_, ?_⟩
  · intro other result found
    rw [getElem?_set] at found
    split at found
    · rename_i same
      subst same
      simp only [Option.some.injEq] at found
      exact found ▸ agrees
    · exact remembers.agrees other result found
  · intro other mem unknown
    rw [getElem?_set] at unknown
    split at unknown
    · simp only [Option.some.injEq] at unknown
      exact settled unknown
    · rename_i different
      rcases mem_cons.mp mem with same | before
      · exact different same.symm
      · exact remembers.asked other before unknown
  · refine nodup_cons.mpr ⟨fun before => ?_, remembers.once⟩
    exact remembers.asked index before fresh

theorem eval_ref_spec (remembers : Remembers v readings msg sigs state) (i : Int) :
    (v.evalRef readings msg sigs i state).1 = (Node.ref i).eval (v.valuation readings msg sigs) ∧
      Remembers v readings msg sigs (v.evalRef readings msg sigs i state).2 := by
  rw [eval_ref_valuation]
  unfold evalRef
  by_cases negative : i < 0
  · rw [if_pos negative]
    exact ⟨by simp [negative], remembers⟩
  · rw [if_neg negative, decide_eq_true (by omega : 0 ≤ i), Bool.true_and]
    split
    · rename_i sigma known verifier slot noted component
      have accepts : v.accepts readings msg sigs i.toNat =
          (decide (sigma ≠ []) && (verifier (componentReadings readings i.toNat) msg sigma).isOk) := by
        simp [PolicyVerifier.accepts, slot, component]
      by_cases empty : sigma.length = 0
      · rw [if_pos empty]
        exact ⟨by simp [accepts, length_eq_zero_iff.mp empty], remembers⟩
      · rw [if_neg empty]
        have filled : sigma ≠ [] := fun nothing => empty (by rw [nothing, length_nil])
        rw [decide_eq_true filled] at accepts
        have agrees := remembers.agrees _ _ noted
        cases known with
        | pass | fail => exact ⟨Eq.symm agrees, remembers⟩
        | unknown =>
          refine ⟨accepts.symm, remembers_set remembers noted ?_ ?_⟩
          · split <;> simp
          · rw [accepts]
            cases (verifier (componentReadings readings i.toNat) msg sigma).isOk <;> rfl
    · rename_i absent
      refine ⟨?_, remembers⟩
      have refused : ¬ v.accepts readings msg sigs i.toNat = true := by
        intro accepted
        obtain ⟨sigma, verifier, slot, _, component, _⟩ := accepts_iff.mp accepted
        have inside := (List.getElem?_eq_some_iff.mp slot).1
        rw [← remembers.slots] at inside
        exact absent sigma _ verifier slot (getElem?_eq_getElem inside) component
      simpa using refused

theorem eval_node_spec (n : Node) (remembers : Remembers v readings msg sigs state) :
    (v.evalNode readings msg sigs n state).1 = n.eval (v.valuation readings msg sigs) ∧
      Remembers v readings msg sigs (v.evalNode readings msg sigs n state).2 := by
  induction n generalizing state with
  | ref index => exact eval_ref_spec remembers index
  | and left right ihLeft ihRight =>
    obtain ⟨value, after⟩ := ihLeft remembers
    rw [evalNode, Node.eval, ← value]
    split
    · rename_i next reached
      simpa only [reached, Bool.true_and] using ihRight after
    · rename_i next reached
      rw [reached] at after
      exact ⟨by rw [reached, Bool.false_and], after⟩
  | or left right ihLeft ihRight =>
    obtain ⟨value, after⟩ := ihLeft remembers
    rw [evalNode, Node.eval, ← value]
    split
    · rename_i next reached
      rw [reached] at after
      exact ⟨by rw [reached, Bool.true_or], after⟩
    · rename_i next reached
      simpa only [reached, Bool.false_or] using ihRight after

theorem remembers_nothing : Remembers v readings msg sigs { memo := replicate sigs.length .unknown, consulted := [] } := by
  refine ⟨length_replicate, ?_, by simp, nodup_nil⟩
  intro index known found
  rw [getElem?_replicate] at found
  split at found
  · cases found
    trivial
  · cases found

theorem verify_ok_iff {raw : Bytes} : v.verify readings msg raw = .ok () ↔ ∃ sigs, fromBytes raw = .ok sigs ∧
    sigs.length = v.verifiers.length ∧ v.policy.eval (v.valuation readings msg sigs) = true := by
  simp only [verify, ok_iff, exists_const, evaluate, (eval_node_spec _ remembers_nothing).1]

def Extends (v : PolicyVerifier) (readings : Readings) (msg : Bytes) (sigs slots : PolicySignature) : Prop :=
  ∀ index, slots[index]? = sigs[index]? ∨ v.accepts readings msg slots index = true

def SignedBy (v : PolicyVerifier) (readings : Readings) (msg : Bytes) (uniqueID : Identity → String)
    (identities : List Identity) (sigmas : String → Option Bytes) (index : Nat) : Prop :=
  ∃ id sigma verifier, identities[index]? = some id ∧ sigmas (uniqueID id) = some sigma ∧ sigma ≠ [] ∧
    v.verifiers[index]? = some (some verifier) ∧ verifier (componentReadings readings index) msg sigma = .ok ()

theorem accepts_extends (extends_ : v.Extends readings msg sigs slots)
    (accepted : v.accepts readings msg sigs index = true) : v.accepts readings msg slots index = true := by
  rcases extends_ index with same | valid
  · rw [accepts, same]
    exact accepted
  · exact valid

theorem accepts_joined (signed : v.SignedBy readings msg uniqueID identities sigmas index) :
    v.accepts readings msg (joinedSlots uniqueID identities sigmas) index = true := by
  obtain ⟨id, sigma, verifier, component, given, filled, held, accepted⟩ := signed
  refine accepts_iff.mpr ⟨sigma, verifier, ?_, filled, held, accepted⟩
  rw [joinedSlots, getElem?_map, component, Option.map_some, given, Option.getD_some]

theorem eval_valuation_mono {refs : List Bool} {n : Node}
    (inside : ∀ index, refs[index]? = some true → v.accepts readings msg slots index = true) (held : n.eval refs = true) :
    n.eval (v.valuation readings msg slots) = true := by
  rw [eval_iff_holds] at held ⊢
  exact holds_mono (fun index given => valuation_iff.mpr (inside index given)) held

theorem eval_of_extends (extends_ : v.Extends readings msg sigs slots)
    (held : v.policy.eval (v.valuation readings msg sigs) = true) : v.policy.eval (v.valuation readings msg slots) = true :=
  eval_valuation_mono (fun _ given => accepts_extends extends_ (valuation_iff.mp given)) held

theorem joined_accepted {signers : Finset ℕ} (components : identities.length = v.verifiers.length)
    (signed : ∀ index ∈ signers, v.SignedBy readings msg uniqueID identities sigmas index)
    (satisfied : v.policy.eval ((range identities.length).map fun index => decide (index ∈ signers)) = true)
    (bounded : (octetStrings (joinedSlots uniqueID identities sigmas)).length < lengthLimit) :
    v.verify readings msg (joinSignatures uniqueID identities sigmas) = .ok () := by
  refine verify_ok_iff.mpr ⟨joinedSlots uniqueID identities sigmas, strings_type_read bounded, ?_, ?_⟩
  · rw [joinedSlots, length_map, components]
  · refine eval_valuation_mono (fun index given => accepts_joined (signed index ?_)) satisfied
    rw [getElem?_map, Option.map_eq_some_iff] at given
    obtain ⟨position, found, member⟩ := given
    obtain ⟨_, rfl⟩ := List.getElem?_eq_some_iff.mp found
    simpa using member

theorem policy_verified_iff (v : PolicyVerifier) (readings : Readings) (msg : Bytes) :
    (∀ raw, v.verify readings msg raw = .ok () ↔ ∃ sigs, fromBytes raw = .ok sigs ∧
      sigs.length = v.verifiers.length ∧ v.policy.eval (v.valuation readings msg sigs) = true) ∧
    (∀ sigs, (v.evaluate readings msg sigs).2.consulted.Nodup) ∧
    (∀ raw more sigs slots, fromBytes raw = .ok sigs → fromBytes more = .ok slots →
      slots.length = sigs.length → v.Extends readings msg sigs slots →
      v.verify readings msg raw = .ok () → v.verify readings msg more = .ok ()) ∧
    (∀ uniqueID identities sigmas (signers : Finset ℕ), identities.length = v.verifiers.length →
      (∀ index ∈ signers, v.SignedBy readings msg uniqueID identities sigmas index) →
      v.policy.eval ((range identities.length).map fun index => decide (index ∈ signers)) = true →
      (octetStrings (joinedSlots uniqueID identities sigmas)).length < lengthLimit →
      v.verify readings msg (joinSignatures uniqueID identities sigmas) = .ok ()) := by
  refine ⟨fun raw => verify_ok_iff, fun sigs => (eval_node_spec v.policy remembers_nothing).2.once, ?_, ?_⟩
  · intro raw more sigs slots read readMore count extends_ accepted
    obtain ⟨sigs', read', length, held⟩ := verify_ok_iff.mp accepted
    obtain rfl : sigs = sigs' := Except.ok.inj (read.symm.trans read')
    exact verify_ok_iff.mpr ⟨slots, readMore, count.trans length, eval_of_extends extends_ held⟩
  · intro uniqueID identities sigmas signers components signed satisfied bounded
    exact joined_accepted components signed satisfied bounded

end PolicyVerifier

namespace SecondAndThird

def readings : Readings := fun _ => 0
def msg : Bytes := [7]
def uniqueID (id : Identity) : String := toString id.length
def identities : List Identity := [[1], [1, 2], [1, 2, 3]]
def component (octet : UInt8) : Verifier := fun _ _ sigma => ensure (sigma = [octet]) "wrong signature"

def verifier : PolicyVerifier :=
  { policy := .or (.ref 0) (.and (.ref 1) (.ref 2)), verifiers := [some (component 1), some (component 2), some (component 3)] }

def sigmas (uid : String) : Option Bytes := if uid = "2" then some [2] else if uid = "3" then some [3] else none

theorem second_and_third_accepted : verifier.verify readings msg (joinSignatures uniqueID identities sigmas) = .ok () := by
  refine (PolicyVerifier.policy_verified_iff verifier readings msg).2.2.2 uniqueID identities sigmas {1, 2} rfl ?_
    (by decide) (by decide)
  intro index member
  obtain rfl | rfl : index = 1 ∨ index = 2 := by simpa using member
  · exact ⟨[1, 2], [2], component 2, rfl, by decide, by decide, rfl, rfl⟩
  · exact ⟨[1, 2, 3], [3], component 3, rfl, by decide, by decide, rfl, rfl⟩

end SecondAndThird

namespace OversizedSignature

def verifier : PolicyVerifier := { policy := .ref 0, verifiers := [some fun _ _ _ => .ok ()] }
def signature : Bytes := replicate (2 ^ 32) 0

theorem signature_length : signature.length = 2 ^ 32 := length_replicate

theorem signature_filled : signature ≠ [] := by
  intro empty
  have size := signature_length
  rw [empty] at size
  cases size

theorem signature_unread {sigs : List Bytes} : unmarshalCanonicalDER stringsType (stringsType.marshal [signature]) ≠ .ok sigs := by
  refine huge_string_unread ?_ ?_ <;> rw [signature_length] <;> decide

theorem oversized_signature_rejected : ∃ (readings : Readings) (msg : Bytes) (uniqueID : Identity → String)
    (identities : List Identity) (sigmas : String → Option Bytes) (signers : Finset ℕ),
    identities.length = verifier.verifiers.length ∧
    (∀ index ∈ signers, verifier.SignedBy readings msg uniqueID identities sigmas index) ∧
    verifier.policy.eval ((range identities.length).map fun index => decide (index ∈ signers)) = true ∧
    verifier.verify readings msg (joinSignatures uniqueID identities sigmas) ≠ .ok () := by
  refine ⟨fun _ => 0, [], fun _ => "", [[1]], fun _ => some signature, {0}, rfl, ?_, by decide, ?_⟩
  · intro index member
    obtain rfl : index = 0 := by simpa using member
    exact ⟨[1], signature, fun _ _ _ => .ok (), rfl, rfl, signature_filled, rfl, rfl⟩
  · intro accepted
    obtain ⟨_, read, -⟩ := PolicyVerifier.verify_ok_iff.mp accepted
    exact signature_unread read

end OversizedSignature

end Panurus.Boolpolicy
