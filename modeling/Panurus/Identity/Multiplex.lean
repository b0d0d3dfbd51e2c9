import Panurus.Htlc.Script

namespace Panurus.Identity

open Lib Outcome Core Driver

structure IdentityNesting where
  depth : Int
  maxDepth : Int
  maxComponents : Int

def withIdentityNestingLimits (maxDepth maxComponents : Int64) : IdentityNesting :=
  { depth := 0
    maxDepth := if maxDepth ≤ 0 then defaultResourceLimits.maxIdentityDepth.toInt else maxDepth.toInt
    maxComponents := if maxComponents ≤ 0 then defaultResourceLimits.maxIdentityComponents.toInt else maxComponents.toInt }

def errIdentityNestingTooDeep : String := "composite identity nesting is too deep"

def enterCompositeIdentity (n : IdentityNesting) : Outcome IdentityNesting := do
  ensure (¬ n.depth ≥ n.maxDepth) s!"nesting exceeds the maximum depth of {n.maxDepth}: {errIdentityNestingTooDeep}"
  return { n with depth := n.depth + 1 }

-- A deserializer of identities of one type; the deserializer of the identities inside is an argument.
abbrev TypedDeserializer := IdentityNesting → (IdentityNesting → Identity → Outcome Verifier) → Int32 → Bytes → Outcome Verifier

def firstVerifier (text : String) : List String → List (Outcome Verifier) → Outcome Verifier
  | errs, [] => .error (text ++ ": " ++ "\n".intercalate errs)
  | _, .ok verifier :: _ => .ok verifier
  | errs, .error err :: tail => firstVerifier text (errs ++ [err]) tail

-- Every identity inside another one is one level deeper, and no level is deeper than the limit.
def deserializeVerifier (deserializers : Int32 → List TypedDeserializer) : Nat → IdentityNesting → Identity → Outcome Verifier
  | 0, _, _ => .error errIdentityNestingTooDeep
  | levels + 1, n, id => do
    let si ← wrap "failed to unmarshal to TypedIdentity" (unmarshalTypedIdentity id)
    ensure (deserializers si.type ≠ []) s!"no deserializer found for [{si.type}]"
    firstVerifier s!"failed to deserialize verifier for [{si.type}]" []
      ((deserializers si.type).map fun deserializer =>
        deserializer n (deserializeVerifier deserializers levels) si.type si.identity)

theorem first_verifier_ok {text : String} {errs : List String} {attempts : List (Outcome Verifier)} {verifier : Verifier}
    (done : firstVerifier text errs attempts = .ok verifier) : .ok verifier ∈ attempts := by
  induction attempts generalizing errs with
  | nil => simp [firstVerifier] at done
  | cons attempt tail ih =>
    cases attempt with
    | ok found =>
      exact done ▸ List.mem_cons_self
    | error err => exact List.mem_cons_of_mem _ (ih done)

theorem deserialize_verifier_ok {deserializers : Int32 → List TypedDeserializer} {levels : Nat} {n : IdentityNesting}
    {id : Identity} {verifier : Verifier} (done : deserializeVerifier deserializers (levels + 1) n id = .ok verifier) :
    ∃ si deserializer, unmarshalTypedIdentity id = .ok si ∧ deserializer ∈ deserializers si.type ∧
      deserializer n (deserializeVerifier deserializers levels) si.type si.identity = .ok verifier := by
  simp only [deserializeVerifier, ok_iff, exists_const] at done
  obtain ⟨si, typed, _, first⟩ := done
  obtain ⟨deserializer, mem, found⟩ := List.mem_map.mp (first_verifier_ok first)
  exact ⟨si, deserializer, typed, mem, found⟩

end Panurus.Identity

namespace Panurus.Htlc

open Lib Outcome Core Driver Identity

def deserializeScriptVerifier (lib : Libraries) : TypedDeserializer := fun n deserialize typ raw => do
  ensure (typ = htlcScriptIdentityType) s!"cannot deserializer type [{typ}], expected [{htlcScriptIdentityType}]"
  let n ← wrap "cannot deserialize htlc script identity" (enterCompositeIdentity n)
  let script ← (unmarshalStrict lib.decodeScript raw).mapError fun _ => "failed to unmarshal TypedIdentity as an htlc script"
  let sender ← wrap "failed to unmarshal the identity of the sender in the htlc script" (deserialize n script.sender)
  let recipient ← wrap "failed to unmarshal the identity of the recipient in the htlc script" (deserialize n script.recipient)
  return Verifier.verify lib { recipient, sender, deadline := script.deadline, hashInfo := script.hashInfo }

def typedDeserializers (lib : Libraries) (others : Int32 → List TypedDeserializer) (typ : Int32) : List TypedDeserializer :=
  if typ = htlcScriptIdentityType then [deserializeScriptVerifier lib] else others typ

def newDeserializer (lib : Libraries) (others : Int32 → List TypedDeserializer) (uniqueID : Identity → String)
    (limits : ResourceLimits) : Deserializer :=
  let n := withIdentityNestingLimits limits.maxIdentityDepth limits.maxIdentityComponents
  let getVerifier := fun id =>
    (deserializeVerifier (typedDeserializers lib others) (n.maxDepth.toNat + 1) n id).map some
  { uniqueID, getOwnerVerifier := getVerifier, getIssuerVerifier := getVerifier, getAuditorVerifier := getVerifier }

theorem script_owner_verifier {lib : Libraries} {others : Int32 → List TypedDeserializer} {levels : Nat} {n : IdentityNesting}
    {owner : Identity} {si : TypedIdentity} {verifier : Core.Verifier} (typed : unmarshalTypedIdentity owner = .ok si)
    (scripted : si.type = htlcScriptIdentityType)
    (done : deserializeVerifier (typedDeserializers lib others) (levels + 1) n owner = .ok verifier) :
    ∃ script sender recipient inner, unmarshalStrict lib.decodeScript si.identity = .ok script ∧
      deserializeVerifier (typedDeserializers lib others) levels inner script.sender = .ok sender ∧
      deserializeVerifier (typedDeserializers lib others) levels inner script.recipient = .ok recipient ∧
      verifier = Verifier.verify lib { recipient, sender, deadline := script.deadline, hashInfo := script.hashInfo } := by
  obtain ⟨si', deserializer, typed', mem, found⟩ := deserialize_verifier_ok done
  obtain rfl : si = si' := Except.ok.inj (typed.symm.trans typed')
  rw [typedDeserializers, if_pos scripted, List.mem_singleton] at mem
  subst mem
  simp only [deserializeScriptVerifier, ok_iff, map_error_ok_iff] at found
  obtain ⟨_, _, inner, _, script, read, sender, senderFound, recipient, recipientFound, rfl⟩ := found
  exact ⟨script, sender, recipient, inner, read, senderFound, recipientFound, rfl⟩

end Panurus.Htlc
