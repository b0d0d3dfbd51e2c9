import Panurus.Boolpolicy.Parser
import Panurus.Boolpolicy.Verifier
import Panurus.Identity.Composite

namespace Panurus.Identity

open Lib Outcome Core List

def errTooManyIdentityComponents : String := "composite identity has too many components"

-- The same check in the packages of multisig and policy identities.
def validateComponentIdentities (uniqueID : Identity → String) (ids : List Identity) (maxComponents : Int) : Outcome Unit := do
  ensure (¬ ids.length > maxComponents)
    s!"got {ids.length} component identities, the maximum is {maxComponents}: {errTooManyIdentityComponents}"
  let _ ← foldEach (fun k (seen : List String) id => do
    ensure (¬ id.length = 0) s!"component identity at index {k} must not be empty"
    ensure (uniqueID id ∉ seen) s!"component identity at index {k} is a duplicate of an earlier identity"
    return uniqueID id :: seen) 0 [] ids

theorem component_identities_bounded {uniqueID : Identity → String} {ids : List Identity} {maxComponents : Int} {done : Unit}
    (valid : validateComponentIdentities uniqueID ids maxComponents = .ok done) : ids.length ≤ max maxComponents.toNat 2 := by
  simp only [validateComponentIdentities, ok_iff] at valid
  omega

theorem component_identities_valid {uniqueID : Identity → String} {ids : List Identity} {maxComponents : Int}
    (few : ids.length ≤ maxComponents) (filled : [] ∉ ids) (distinct : (ids.map uniqueID).Nodup) :
    validateComponentIdentities uniqueID ids maxComponents = .ok () := by
  simp only [validateComponentIdentities, ok_iff, exists_const, and_true]
  refine ⟨by omega, fold_each_ok (fun done (seen : List String) => seen ⊆ done.map uniqueID) ?_ (nil_subset _)⟩
  intro done id rest seen split known
  subst split
  rw [map_append, nodup_append'] at distinct
  refine ⟨uniqueID id :: seen, ?_, ?_⟩
  · simp only [ok_iff, exists_const, length_eq_zero_iff, and_true]
    refine ⟨?_, fun before => distinct.2.2 (known before) mem_cons_self⟩
    rintro rfl
    exact filled (mem_append_right _ mem_cons_self)
  · rw [map_append]
    exact cons_subset.mpr ⟨mem_append_right _ mem_cons_self, fun _ before => mem_append_left _ (known before)⟩

end Panurus.Identity

namespace Panurus.Multisig

open List Lib Outcome Asn1 Core Identity

def verify (hashable : Bytes → String) (verifiers : List Verifier) : Verifier := fun readings msg raw => do
  ensure (verifiers.length ≠ 0) "multisig verifier has no members"
  let sigs ← wrap s!"failed to unmarshal multisig [{hashable raw}]" (unmarshalCanonicalDER stringsType raw)
  ensure (verifiers.length = sigs.length)
    s!"invalid multisig: expect [{verifiers.length}] signatures, but received [{sigs.length}]"
  checkEach (fun k pair => (pair.1 (componentReadings readings k) msg pair.2).mapError fun _ =>
    s!"invalid multisig: signature at index [{k}] does not verify") 0 (verifiers.zip sigs)

def composite (hashable : Bytes → String) (uniqueID : Identity → String) : Composite where
  Content := List Identity
  typed _ := .ok ()
  cannot := "cannot deserialize multisig identity"
  decode raw := (unmarshalCanonicalDER stringsType raw).mapError fun _ => "failed to unmarshal multisig identity"
  components ids := ids
  validate maxComponents ids := do
    ensure (ids.length ≠ 0) "multisig identity has no members"
    wrap "invalid multisig identity" (validateComponentIdentities uniqueID ids maxComponents)
    return verify hashable
  text _ := "failed to unmarshal multisig identity"

def joinSignatures (uniqueID : Identity → String) (identities : List Identity) (sigmas : String → Option Bytes) :
    Outcome Bytes := do
  let signatures ← identities.mapM fun identity =>
    required (sigmas (uniqueID identity)) s!"signature for identity [{uniqueID identity}] is missing"
  return stringsType.marshal signatures

section Members

variable {hashable : Bytes → String} {uniqueID : Identity → String} {members : List Verifier} {readings : Readings} {msg : Bytes}
  {ids : List Identity}

def Accepted (members : List Verifier) (readings : Readings) (msg : Bytes) (slots : List Bytes) : Prop :=
  members.length = slots.length ∧ ∀ (k : Nat) (member : Verifier) (slot : Bytes), members[k]? = some member →
    slots[k]? = some slot → member (componentReadings readings k) msg slot = .ok ()

theorem verify_ok_iff {raw : Bytes} (filled : members.length ≠ 0) : verify hashable members readings msg raw = .ok () ↔
    ∃ slots, unmarshalCanonicalDER stringsType raw = .ok slots ∧ Accepted members readings msg slots := by
  simp [verify, ok_iff, check_each_ok_iff, getElem?_zip_eq_some, Accepted, filled]

theorem joined_accepted {sigmas : String → Option Bytes} (count : ids.length = members.length)
    (signed : ∀ (k : Nat) (id : Identity) (member : Verifier), ids[k]? = some id → members[k]? = some member →
      ∃ sigma, sigmas (uniqueID id) = some sigma ∧ member (componentReadings readings k) msg sigma = .ok ()) :
    ∃ slots, joinSignatures uniqueID ids sigmas = .ok (stringsType.marshal slots) ∧ Accepted members readings msg slots := by
  let slots := ids.map fun id => (sigmas (uniqueID id)).getD []
  have present : ∀ k id, ids[k]? = some id → ∃ member, members[k]? = some member := fun k id found =>
    ⟨_, getElem?_eq_getElem (count ▸ (List.getElem?_eq_some_iff.mp found).1)⟩
  refine ⟨slots, bind_ok_iff.mpr ⟨slots, mapM_ok_iff.mpr (forall₂_map_right_iff.mpr (forall₂_same.mpr fun id mem => ?_)), rfl⟩,
    by rw [length_map, count], fun k member slot held filled => ?_⟩
  · obtain ⟨k, found⟩ := mem_iff_getElem?.mp mem
    obtain ⟨member, held⟩ := present k id found
    obtain ⟨sigma, given, -⟩ := signed k id member found held
    rw [given]
    rfl
  · rw [getElem?_map, Option.map_eq_some_iff] at filled
    obtain ⟨id, found, rfl⟩ := filled
    obtain ⟨sigma, given, accepted⟩ := signed k id member found held
    rw [given]
    exact accepted

theorem multisig_verified_iff (hashable : Bytes → String) (uniqueID : Identity → String) (n : IdentityNesting)
    (deserialize : IdentityNesting → Identity → Outcome Verifier) (typ : Int32) (raw : Bytes) (ids : List Identity)
    (decoded : unmarshalCanonicalDER stringsType raw = .ok ids) (nonempty : ids ≠ []) (shallow : n.depth < n.maxDepth)
    (few : ids.length ≤ n.maxComponents) (filled : [] ∉ ids) (distinct : (ids.map uniqueID).Nodup) (members : List Verifier)
    (each : Forall₂ (fun id member => deserialize { n with depth := n.depth + 1 } id = .ok member) ids members) :
    ∃ verifier, (composite hashable uniqueID).deserializeVerifier n deserialize typ raw = .ok verifier ∧
      ∀ readings msg, (∀ sigma, verifier readings msg sigma = .ok () ↔
          ∃ slots, unmarshalCanonicalDER stringsType sigma = .ok slots ∧ Accepted members readings msg slots) ∧
        ∀ sigmas, (∀ (k : Nat) (id : Identity) (member : Verifier), ids[k]? = some id → members[k]? = some member →
            ∃ sigma, sigmas (uniqueID id) = some sigma ∧ member (componentReadings readings k) msg sigma = .ok ()) →
          ∃ joined, joinSignatures uniqueID ids sigmas = .ok joined ∧
            (joined.length < lengthLimit → verifier readings msg joined = .ok ()) := by
  refine ⟨verify hashable members, ?_, fun readings msg => ?_⟩
  · simp only [Composite.deserializeVerifier, Composite.unpack, enterCompositeIdentity, composite, ok_iff, map_error_ok_iff,
      exists_const]
    refine ⟨_, ⟨trivial, _, ⟨by omega, rfl⟩, ids, decoded, _,
      ⟨by simpa using nonempty, (), component_identities_valid few filled distinct, rfl⟩, rfl⟩, members,
      deserialize_each_ok_iff.mpr each, rfl⟩
  · have filled : members.length ≠ 0 := each.length_eq ▸ fun empty => nonempty (length_eq_zero_iff.mp empty)
    refine ⟨fun sigma => verify_ok_iff filled, fun sigmas signed => ?_⟩
    obtain ⟨slots, joined, accepted⟩ := joined_accepted each.length_eq signed
    refine ⟨_, joined, fun bounded => (verify_ok_iff filled).mpr ⟨slots, strings_type_read ?_, accepted⟩⟩
    exact lt_of_le_of_lt (octet_strings_shorter slots) bounded

end Members

namespace TwoMembers

open Boolpolicy.SecondAndThird (readings msg uniqueID component)

def nesting : IdentityNesting := { depth := 0, maxDepth := 2, maxComponents := 4 }
def deserialize (_ : IdentityNesting) (id : Identity) : Outcome Verifier := .ok (component (UInt8.ofNat id.length))
def sigmas (uid : String) : Option Bytes := if uid = "1" then some [1] else some [2]
def ids : List Identity := [[7], [7, 8]]

theorem both_signatures_accepted :
    ∃ verifier, (composite (fun _ => "") uniqueID).deserializeVerifier nesting deserialize 5 (stringsType.marshal ids) = .ok verifier ∧
      ∃ joined, joinSignatures uniqueID ids sigmas = .ok joined ∧ joined.length < lengthLimit ∧
        verifier readings msg joined = .ok () := by
  obtain ⟨verifier, returned, all⟩ := multisig_verified_iff (fun _ => "") uniqueID nesting deserialize 5 (stringsType.marshal ids) ids
    (strings_type_read (by decide)) (by decide) (by decide) (by decide) (by decide) (by decide) [component 1, component 2]
    (.cons rfl (.cons rfl .nil))
  have computed : joinSignatures uniqueID ids sigmas = .ok (stringsType.marshal [[1], [2]]) := rfl
  obtain ⟨joined, made, accepted⟩ := (all readings msg).2 sigmas fun k id member found held => by
    rcases k with _ | _ | k <;> cases found <;> cases held
    · exact ⟨[1], rfl, rfl⟩
    · exact ⟨[2], rfl, rfl⟩
  obtain rfl := Except.ok.inj (computed.symm.trans made)
  exact ⟨verifier, returned, _, made, by decide, accepted (by decide)⟩

-- A multi-identity that has one member twice has no verifier, and a slot of four gigabytes is not read.
theorem repeated_and_oversized_refused : ((composite (fun _ => "") uniqueID).deserializeVerifier nesting deserialize 5
      (stringsType.marshal [[7], [7]])).isOk = false ∧
    ∃ joined, joinSignatures uniqueID [[7]] (fun _ => some Boolpolicy.OversizedSignature.signature) = .ok joined ∧
      verify (fun _ => "") [fun _ _ _ => .ok ()] readings msg joined ≠ .ok () := by
  refine ⟨by decide, _, rfl, fun accepted => ?_⟩
  obtain ⟨slots, read, -⟩ := (verify_ok_iff (by decide)).mp accepted
  exact Boolpolicy.OversizedSignature.signature_unread read

end TwoMembers

end Panurus.Multisig

namespace Panurus.Boolpolicy

open Lib Outcome Text Core Identity

def composite (t : Tables) (uniqueID : Identity → String) : Composite where
  Content := Bytes × List Identity
  typed _ := .ok ()
  cannot := "cannot deserialize policy identity"
  decode raw := wrap "failed to unmarshal policy identity" (unmarshalCanonicalDER textAndStringsType raw)
  components pi := pi.2
  validate maxComponents pi := do
    wrap "invalid policy identity" (validateComponentIdentities uniqueID pi.2 maxComponents)
    let node ← wrap s!"failed to parse policy expression [{render pi.1}]" (parse t pi.1)
    return fun verifiers => PolicyVerifier.verify { policy := node, verifiers := verifiers.map some }
  text k := s!"failed to deserialise verifier for component identity [{k}]"

end Panurus.Boolpolicy

namespace Panurus.Htlc

open Lib Outcome Core Identity

def buildVerifier (lib : Libraries) (script : Script) : List Core.Verifier → Core.Verifier
  | [sender, recipient] => Verifier.verify lib { recipient, sender, deadline := script.deadline, hashInfo := script.hashInfo }
  | _ => fun _ _ _ => .error ""

def composite (lib : Libraries) : Composite where
  Content := Script
  typed typ := ensure (typ = htlcScriptIdentityType) s!"cannot deserializer type [{typ}], expected [{htlcScriptIdentityType}]"
  cannot := "cannot deserialize htlc script identity"
  decode raw := (unmarshalStrict lib.decodeScript raw).mapError fun _ => "failed to unmarshal TypedIdentity as an htlc script"
  components script := [script.sender, script.recipient]
  validate _ script := .ok (buildVerifier lib script)
  text k := if k = 0 then "failed to unmarshal the identity of the sender in the htlc script"
    else "failed to unmarshal the identity of the recipient in the htlc script"

theorem script_composite (lib : Libraries) : (composite lib).deserializeVerifier = deserializeScriptVerifier lib := by
  funext n deserialize typ raw
  simp only [Composite.deserializeVerifier, Composite.unpack, composite, deserializeScriptVerifier, deserializeEach, bind_assoc,
    pure_bind, if_true]
  rfl

end Panurus.Htlc

namespace Panurus.Identity

open Lib Outcome Core

-- What the drivers register: three composites, each alone for its type, and deserializers of plain identities.
def registry (lib : Htlc.Libraries) (t : Boolpolicy.Tables) (uniqueID : Identity → String)
    (leaves : Int32 → List (Int32 → Bytes → Outcome Verifier)) : Registry where
  composite typ :=
    if typ = htlcScriptIdentityType then some (Htlc.composite lib)
    else if typ = multiSigIdentityType then some (Multisig.composite lib.hashable uniqueID)
    else if typ = policyIdentityType then some (Boolpolicy.composite t uniqueID)
    else none
  leaves := leaves

def memberDeserializers (lib : Htlc.Libraries) (t : Boolpolicy.Tables) (uniqueID : Identity → String)
    (leaves : Int32 → List (Int32 → Bytes → Outcome Verifier)) (typ : Int32) : List TypedDeserializer :=
  if typ = multiSigIdentityType then [(Multisig.composite lib.hashable uniqueID).deserializeVerifier]
  else if typ = policyIdentityType then [(Boolpolicy.composite t uniqueID).deserializeVerifier]
  else (leaves typ).map fun leaf _ _ => leaf

section Drivers

variable (lib : Htlc.Libraries) (t : Boolpolicy.Tables) (uniqueID : Identity → String)
  (leaves : Int32 → List (Int32 → Bytes → Outcome Verifier))

theorem registry_typed :
    (registry lib t uniqueID leaves).typed = Htlc.typedDeserializers lib (memberDeserializers lib t uniqueID leaves) := by
  funext typ
  simp only [Registry.typed, registry, Htlc.typedDeserializers, memberDeserializers, ← Htlc.script_composite]
  split_ifs <;> rfl

theorem registry_bounded : (registry lib t uniqueID leaves).Bounded := by
  intro typ c registered limit content build valid
  simp only [registry] at registered
  split at registered
  · cases registered
    exact le_max_right _ _
  · split at registered
    · cases registered
      simp only [Multisig.composite, ok_iff] at valid
      obtain ⟨_, _, _, few, _⟩ := valid
      exact component_identities_bounded few
    · split at registered
      · cases registered
        simp only [Boolpolicy.composite, ok_iff] at valid
        obtain ⟨_, few, _⟩ := valid
        exact component_identities_bounded few
      · cases registered

theorem recursion_bounded (context : Option IdentityNesting) (id : Bytes) : ∃ outcome tried,
    (∀ levels, (nestingFrom context).left < levels →
      (registry lib t uniqueID leaves).run levels (nestingFrom context) id = some (outcome, tried) ∧
      deserializeVerifier (Htlc.typedDeserializers lib (memberDeserializers lib t uniqueID leaves)) levels (nestingFrom context) id =
        outcome) ∧
    tried ≤ ∑ level ∈ Finset.Icc 1 (nestingFrom context).left, (max (nestingFrom context).maxComponents.toNat 2) ^ level ∧
    ∀ nested, (nestingFrom context).left < nested → (registry lib t uniqueID leaves).Nested nested id →
      ∀ verifier, outcome ≠ .ok verifier := by
  have ended := run_ends (r := registry lib t uniqueID leaves) (Nat.lt_succ_self (nestingFrom context).left) id
  obtain ⟨⟨outcome, tried⟩, ran⟩ := Option.isSome_iff_exists.mp ended
  have code : ∀ levels, (nestingFrom context).left < levels →
      (registry lib t uniqueID leaves).run levels (nestingFrom context) id = some (outcome, tried) := fun levels enough =>
    (run_stable enough (Nat.lt_succ_self _) id).trans ran
  refine ⟨outcome, tried, fun levels enough => ⟨code levels enough, ?_⟩, run_tried (registry_bounded lib t uniqueID leaves) ran, ?_⟩
  · rw [← registry_typed]
    exact (run_outcome (code levels enough)).symm
  · intro nested deep inside verifier accepted
    have within := nested_within inside ((run_outcome ran).symm.trans accepted)
    omega

end Drivers

end Panurus.Identity
