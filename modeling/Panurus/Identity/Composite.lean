import Panurus.Identity.Multiplex
import Panurus.Lib.Pointwise

namespace Panurus.Identity

open Lib Outcome Core Driver

def nestingFrom : Option IdentityNesting → IdentityNesting
  | some n => n
  | none =>
    { depth := 0
      maxDepth := defaultResourceLimits.maxIdentityDepth.toInt
      maxComponents := defaultResourceLimits.maxIdentityComponents.toInt }

-- An identity made of others. What is checked before the others are looked at also says what
-- is built of their verifiers; each position has its text for a component that fails.
structure Composite where
  Content : Type
  typed : Int32 → Outcome Unit
  cannot : String
  decode : Bytes → Outcome Content
  components : Content → List Identity
  validate : Int → Content → Outcome (List Verifier → Verifier)
  text : Nat → String

structure Unpacked where
  nesting : IdentityNesting
  components : List Identity
  build : List Verifier → Verifier

def Composite.unpack (c : Composite) (n : IdentityNesting) (typ : Int32) (raw : Bytes) : Outcome Unpacked := do
  c.typed typ
  let n ← wrap c.cannot (enterCompositeIdentity n)
  let content ← c.decode raw
  let build ← c.validate n.maxComponents content
  return { nesting := n, components := c.components content, build }

def deserializeEach (deserialize : Identity → Outcome Verifier) (text : Nat → String) :
    Nat → List Identity → Outcome (List Verifier)
  | _, [] => .ok []
  | k, id :: ids => do
    let verifier ← wrap (text k) (deserialize id)
    let verifiers ← deserializeEach deserialize text (k + 1) ids
    return verifier :: verifiers

def Composite.deserializeVerifier (c : Composite) : TypedDeserializer := fun n deserialize typ raw => do
  let unpacked ← c.unpack n typ raw
  let verifiers ← deserializeEach (deserialize unpacked.nesting) c.text 0 unpacked.components
  return unpacked.build verifiers

-- What is registered for each type: one composite, or deserializers that look at no other identity.
structure Registry where
  composite : Int32 → Option Composite
  leaves : Int32 → List (Int32 → Bytes → Outcome Verifier)

def Registry.typed (r : Registry) (typ : Int32) : List TypedDeserializer :=
  match r.composite typ with
  | some c => [c.deserializeVerifier]
  | none => (r.leaves typ).map fun leaf _ _ => leaf

abbrev Run (α : Type) := Option (Outcome α × Nat)

def runEach (attempt : Identity → Run Verifier) (text : Nat → String) : Nat → List Identity → Run (List Verifier)
  | _, [] => some (.ok [], 0)
  | k, id :: ids =>
    match attempt id with
    | none => none
    | some (outcome, tried) =>
      match wrap (text k) outcome with
      | .error err => some (.error err, tried + 1)
      | .ok verifier =>
        (runEach attempt text (k + 1) ids).map fun (outcomes, more) => (outcomes.map (verifier :: ·), tried + 1 + more)

def Composite.run (c : Composite) (n : IdentityNesting) (attempt : IdentityNesting → Identity → Run Verifier) (typ : Int32)
    (raw : Bytes) : Run Verifier :=
  match c.unpack n typ raw with
  | .error err => some (.error err, 0)
  | .ok unpacked =>
    (runEach (attempt unpacked.nesting) c.text 0 unpacked.components).map fun (outcomes, tried) =>
      (outcomes.map unpacked.build, tried)

def Registry.run (r : Registry) : Nat → IdentityNesting → Identity → Run Verifier
  | 0, _, _ => none
  | levels + 1, n, id =>
    match wrap "failed to unmarshal to TypedIdentity" (unmarshalTypedIdentity id) with
    | .error err => some (.error err, 0)
    | .ok si =>
      match r.composite si.type with
      | some c =>
        (c.run n (r.run levels) si.type si.identity).map fun (outcome, tried) =>
          (firstVerifier s!"failed to deserialize verifier for [{si.type}]" [] [outcome], tried)
      | none =>
        some (do
          ensure (r.typed si.type ≠ []) s!"no deserializer found for [{si.type}]"
          firstVerifier s!"failed to deserialize verifier for [{si.type}]" []
            ((r.leaves si.type).map fun leaf => leaf si.type si.identity), 0)

inductive Registry.Nested (r : Registry) : Nat → Identity → Prop where
  | any (id : Identity) : r.Nested 0 id
  | one {id : Identity} {si : TypedIdentity} {c : Composite} (typed : unmarshalTypedIdentity id = .ok si)
      (composite : r.composite si.type = some c) : r.Nested 1 id
  | inside {id inner : Identity} {si : TypedIdentity} {c : Composite} {content : c.Content} {nested : Nat}
      (typed : unmarshalTypedIdentity id = .ok si) (composite : r.composite si.type = some c)
      (decoded : c.decode si.identity = .ok content) (component : inner ∈ c.components content) (more : r.Nested nested inner) :
      r.Nested (nested + 1) id

def IdentityNesting.left (n : IdentityNesting) : Nat := (n.maxDepth - n.depth).toNat

variable {c : Composite} {n : IdentityNesting} {typ : Int32} {raw : Bytes}

open Composite

theorem unpack_ok {unpacked : Unpacked} (done : c.unpack n typ raw = .ok unpacked) :
    n.left = unpacked.nesting.left + 1 ∧ unpacked.nesting.maxComponents = n.maxComponents ∧
      ∃ content, c.decode raw = .ok content ∧ unpacked.components = c.components content ∧
        ∃ build, c.validate n.maxComponents content = .ok build := by
  simp only [unpack, enterCompositeIdentity, ok_iff, exists_const] at done
  obtain ⟨-, -, inner, ⟨shallow, rfl⟩, content, decoded, build, valid, rfl⟩ := done
  refine ⟨?_, rfl, content, decoded, rfl, build, valid⟩
  simp only [IdentityNesting.left]
  omega

section Runs

variable {r : Registry} {attempt : Identity → Run Verifier} {deserialize : Identity → Outcome Verifier}
  {text : Nat → String} {k tried levels : Nat} {ids : List Identity} {outcomes : Outcome (List Verifier)}
  {outcome : Outcome Verifier} {id : Identity} {verifier : Verifier}

theorem run_each_outcome (same : ∀ id outcome tried, attempt id = some (outcome, tried) → outcome = deserialize id)
    (done : runEach attempt text k ids = some (outcomes, tried)) : outcomes = deserializeEach deserialize text k ids := by
  induction ids generalizing k tried outcomes with
  | nil =>
    cases done
    rfl
  | cons id ids ih =>
    rw [runEach] at done
    split at done
    · cases done
    · rename_i outcome _ attempted
      rw [deserializeEach, ← same id outcome _ attempted]
      split at done
      · rename_i failed
        cases done
        rw [failed]
        rfl
      · rename_i verifier succeeded
        obtain ⟨⟨others, more⟩, rest, result⟩ := Option.map_eq_some_iff.mp done
        cases result
        rw [succeeded, ← ih rest]
        cases others <;> rfl

theorem composite_run_outcome {attempt : IdentityNesting → Identity → Run Verifier}
    {deserialize : IdentityNesting → Identity → Outcome Verifier}
    (same : ∀ n id outcome tried, attempt n id = some (outcome, tried) → outcome = deserialize n id)
    (done : c.run n attempt typ raw = some (outcome, tried)) : outcome = c.deserializeVerifier n deserialize typ raw := by
  unfold run at done
  unfold Composite.deserializeVerifier
  split at done
  · rename_i failed
    cases done
    rw [failed]
    rfl
  · rename_i unpacked opened
    obtain ⟨⟨outcomes, more⟩, each, result⟩ := Option.map_eq_some_iff.mp done
    cases result
    rw [run_each_outcome (same unpacked.nesting) each]
    simp only [opened, bind, Except.bind]
    cases deserializeEach (deserialize unpacked.nesting) c.text 0 unpacked.components <;> rfl

theorem run_outcome (done : r.run levels n id = some (outcome, tried)) : outcome = deserializeVerifier r.typed levels n id := by
  induction levels generalizing n id outcome tried with
  | zero => cases done
  | succ levels ih =>
    rw [Registry.run] at done
    rw [deserializeVerifier]
    split at done
    · rename_i failed
      cases done
      rw [failed]
      rfl
    · rename_i si typed
      simp only [typed, bind, Except.bind]
      split at done
      · rename_i c composite
        obtain ⟨⟨result, count⟩, ran, same⟩ := Option.map_eq_some_iff.mp done
        cases same
        have registered : r.typed si.type = [c.deserializeVerifier] := by simp [Registry.typed, composite]
        simp only [registered, composite_run_outcome (fun n id outcome tried => ih) ran]
        rfl
      · rename_i leaf
        cases done
        have registered : r.typed si.type = (r.leaves si.type).map fun leaf _ _ => leaf := by simp [Registry.typed, leaf]
        simp only [registered, List.map_map]
        rfl

theorem run_each_ends (ends : ∀ id, (attempt id).isSome) (k : Nat) (ids : List Identity) : (runEach attempt text k ids).isSome := by
  induction ids generalizing k with
  | nil => rfl
  | cons id ids ih =>
    obtain ⟨⟨outcome, tried⟩, attempted⟩ := Option.isSome_iff_exists.mp (ends id)
    simp only [runEach, attempted]
    cases wrap (text k) outcome with
    | error err => rfl
    | ok verifier => simpa using ih (k + 1)

theorem run_ends (enough : n.left < levels) (id : Identity) : (r.run levels n id).isSome := by
  induction levels generalizing n id with
  | zero => omega
  | succ levels ih =>
    rw [Registry.run]
    split
    · rfl
    · split
      · rename_i c composite
        rw [Option.isSome_map, run]
        split
        · rfl
        · rename_i unpacked opened
          have deeper := (unpack_ok opened).1
          rw [Option.isSome_map]
          exact run_each_ends (fun id => ih (by omega) id) 0 unpacked.components
      · rfl

theorem run_stable {more : Nat} (enough : n.left < levels) (enough' : n.left < more) (id : Identity) :
    r.run levels n id = r.run more n id := by
  induction levels generalizing more n id with
  | zero => omega
  | succ levels ih =>
    obtain ⟨more, rfl⟩ : ∃ fewer, more = fewer + 1 := ⟨more - 1, by omega⟩
    have same : ∀ c : Composite, ∀ typ raw, c.run n (r.run levels) typ raw = c.run n (r.run more) typ raw := by
      intro c typ raw
      unfold run
      split
      · rfl
      · rename_i unpacked opened
        have deeper := (unpack_ok opened).1
        have attempts : r.run levels unpacked.nesting = r.run more unpacked.nesting :=
          funext fun id => ih (by omega) (by omega) id
        rw [attempts]
    simp [Registry.run, same]

def triedLimit (fanOut depth : Nat) : Nat := ∑ level ∈ Finset.Icc 1 depth, fanOut ^ level

theorem tried_limit_succ (fanOut depth : Nat) : triedLimit fanOut (depth + 1) = fanOut * (triedLimit fanOut depth + 1) := by
  induction depth with
  | zero => simp [triedLimit]
  | succ depth ih =>
    have top : ∀ depth, triedLimit fanOut (depth + 1) = triedLimit fanOut depth + fanOut ^ (depth + 1) := fun depth =>
      Finset.sum_Icc_succ_top (by omega) _
    calc triedLimit fanOut (depth + 1 + 1)
        = fanOut * (triedLimit fanOut depth + 1) + fanOut * fanOut ^ (depth + 1) := by rw [top, ih, pow_succ' fanOut (depth + 1)]
      _ = fanOut * (triedLimit fanOut depth + fanOut ^ (depth + 1) + 1) := by ring
      _ = fanOut * (triedLimit fanOut (depth + 1) + 1) := by rw [← top]

theorem run_each_tried {limit : Nat} (each : ∀ id outcome tried, attempt id = some (outcome, tried) → tried ≤ limit)
    (done : runEach attempt text k ids = some (outcomes, tried)) : tried ≤ ids.length * (limit + 1) := by
  induction ids generalizing k tried outcomes with
  | nil =>
    cases done
    exact Nat.zero_le _
  | cons id ids ih =>
    rw [runEach] at done
    rw [List.length_cons, Nat.add_mul]
    split at done
    · cases done
    · rename_i outcome first attempted
      have bounded := each id outcome first attempted
      split at done
      · cases done
        omega
      · obtain ⟨⟨others, more⟩, rest, result⟩ := Option.map_eq_some_iff.mp done
        cases result
        have others_bounded := ih rest
        omega

def Registry.Bounded (r : Registry) : Prop :=
  ∀ typ c, r.composite typ = some c → ∀ limit content build, c.validate limit content = .ok build →
    (c.components content).length ≤ max limit.toNat 2

def IdentityNesting.fanOut (n : IdentityNesting) : Nat := max n.maxComponents.toNat 2

theorem run_tried (bounded : r.Bounded) (done : r.run levels n id = some (outcome, tried)) :
    tried ≤ triedLimit n.fanOut n.left := by
  induction levels generalizing n id outcome tried with
  | zero => cases done
  | succ levels ih =>
    rw [Registry.run] at done
    split at done
    · cases done
      exact Nat.zero_le _
    · split at done
      · rename_i c composite
        obtain ⟨⟨result, count⟩, ran, same⟩ := Option.map_eq_some_iff.mp done
        cases same
        unfold run at ran
        split at ran
        · cases ran
          exact Nat.zero_le _
        · rename_i unpacked opened
          obtain ⟨⟨outcomes, count⟩, each, same⟩ := Option.map_eq_some_iff.mp ran
          cases same
          obtain ⟨deeper, components, content, -, listed, build, valid⟩ := unpack_ok opened
          have fan : unpacked.nesting.fanOut = n.fanOut := by rw [IdentityNesting.fanOut, IdentityNesting.fanOut, components]
          have total := run_each_tried (fun id outcome tried done => ih done) each
          have width : unpacked.components.length ≤ n.fanOut := by
            rw [listed]
            exact bounded _ c composite _ content build valid
          rw [deeper, tried_limit_succ, ← fan]
          exact total.trans (Nat.mul_le_mul_right _ (fan ▸ width))
      · cases done
        exact Nat.zero_le _

theorem deserialize_each_ok_iff {verifiers : List Verifier} : deserializeEach deserialize text k ids = .ok verifiers ↔
    List.Forall₂ (fun id verifier => deserialize id = .ok verifier) ids verifiers := by
  induction ids generalizing k verifiers with
  | nil => cases verifiers <;> simp [deserializeEach]
  | cons id ids ih =>
    simp only [deserializeEach, ok_iff, ih, List.forall₂_cons_left_iff, exists_and_left, eq_comm (a := verifiers)]

theorem composite_ok {si : TypedIdentity} (typed : unmarshalTypedIdentity id = .ok si) (composite : r.composite si.type = some c)
    (done : deserializeVerifier r.typed levels n id = .ok verifier) :
    ∃ unpacked verifiers fewer, levels = fewer + 1 ∧ c.unpack n si.type si.identity = .ok unpacked ∧
      deserializeEach (deserializeVerifier r.typed fewer unpacked.nesting) c.text 0 unpacked.components = .ok verifiers ∧
      verifier = unpacked.build verifiers := by
  cases levels with
  | zero => cases done
  | succ levels =>
    obtain ⟨si', deserializer, typed', mem, found⟩ := deserialize_verifier_ok done
    obtain rfl : si = si' := Except.ok.inj (typed.symm.trans typed')
    have registered : r.typed si.type = [c.deserializeVerifier] := by simp [Registry.typed, composite]
    rw [registered, List.mem_singleton] at mem
    subst mem
    simp only [Composite.deserializeVerifier, ok_iff] at found
    obtain ⟨unpacked, opened, verifiers, each, rfl⟩ := found
    exact ⟨unpacked, verifiers, levels, rfl, opened, each, rfl⟩

theorem nested_within {nested : Nat} (inside : r.Nested nested id)
    (done : deserializeVerifier r.typed levels n id = .ok verifier) : nested ≤ n.left := by
  induction inside generalizing levels n verifier with
  | any id => exact Nat.zero_le _
  | one typed composite =>
    obtain ⟨unpacked, _, _, _, opened, _, _⟩ := composite_ok typed composite done
    have deeper := (unpack_ok opened).1
    omega
  | inside typed composite decoded component more ih =>
    obtain ⟨unpacked, _, fewer, _, opened, each, _⟩ := composite_ok typed composite done
    obtain ⟨deeper, _, content, decoded', listed, _⟩ := unpack_ok opened
    cases decoded.symm.trans decoded'
    obtain ⟨verifier, -, found⟩ := Pointwise.forall₂_mem (deserialize_each_ok_iff.mp each) (listed ▸ component)
    have inner := ih found
    omega

end Runs

end Panurus.Identity
