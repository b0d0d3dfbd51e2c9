import Panurus.Evm.Eip712

namespace Panurus.Evm

open List Lib Outcome

def secp256k1NHalf : Nat := 0x7FFFFFFFFFFFFFFFFFFFFFFFFFFFFFFF5D576E7357A4501DDFE92F46681B20A0

def signatureLength : Nat := 65

inductive VerifierRevert where
  | invalidThreshold (threshold endorserCount : Nat)
  | zeroEndorser
  | duplicateEndorser (endorser : Address)
  | insufficientEndorsements (provided threshold : Nat)
  | invalidSignatureLength (length : Nat)
  | invalidSignatureV (v : UInt8)
  | highSValue
  | unauthorizedSigner (signer : Address)
  | duplicateSigner (signer : Address)
deriving DecidableEq, Repr

structure EndorsementVerifier where
  isEndorser : Address → Bool
  endorsers : List Address
  threshold : Nat

variable {endorsers : List Address} {threshold : Nat}

namespace EndorsementVerifier

def addEndorser (verifier : EndorsementVerifier) (e : Address) : Except VerifierRevert EndorsementVerifier := do
  ensure (e ≠ 0) .zeroEndorser
  ensure (verifier.isEndorser e = false) (.duplicateEndorser e)
  return { verifier with isEndorser := Function.update verifier.isEndorser e true, endorsers := verifier.endorsers ++ [e] }

def construct (endorsers : List Address) (threshold : Nat) : Except VerifierRevert EndorsementVerifier := do
  ensure (threshold ≠ 0 ∧ threshold ≤ endorsers.length) (.invalidThreshold threshold endorsers.length)
  let seeded ← endorsers.foldlM addEndorser { isEndorser := fun _ => false, endorsers := [], threshold := 0 }
  return { seeded with threshold }

-- The precompile gives the one signer of a signature, or nothing, which the contract sees as the zero address.
abbrev Ecrecover := Bytes32 → UInt8 → Bytes32 → Bytes32 → Option Address

def signatureR (sig : Bytes) : Bytes32 := ofBytes32 (sig.take 32)
def signatureS (sig : Bytes) : Bytes32 := ofBytes32 ((sig.drop 32).take 32)
def signatureV (sig : Bytes) : UInt8 := (sig.drop 64).headD 0

def recover (ecrecover : Ecrecover) (digest : Bytes32) (sig : Bytes) : Except VerifierRevert Address := do
  ensure (sig.length = signatureLength) (.invalidSignatureLength sig.length)
  let r := signatureR sig
  let s := signatureS sig
  let v := signatureV sig
  ensure (v = 27 ∨ v = 28) (.invalidSignatureV v)
  ensure (s.toNat ≤ secp256k1NHalf) .highSValue
  let signer := (ecrecover digest v r s).getD 0
  ensure (signer ≠ 0) (.unauthorizedSigner 0)
  return signer

def accept (ecrecover : Ecrecover) (verifier : EndorsementVerifier) (digest : Bytes32) (seen : List Address) (sig : Bytes) :
    Except VerifierRevert (List Address) := do
  let signer ← recover ecrecover digest sig
  ensure (verifier.isEndorser signer = true) (.unauthorizedSigner signer)
  ensure (signer ∉ seen) (.duplicateSigner signer)
  return seen ++ [signer]

def verify (ecrecover : Ecrecover) (verifier : EndorsementVerifier) (digest : Bytes32) (signatures : List Bytes) :
    Except VerifierRevert Bool := do
  ensure (verifier.threshold ≤ signatures.length) (.insufficientEndorsements signatures.length verifier.threshold)
  let _ ← signatures.foldlM (accept ecrecover verifier digest) []
  return true

variable {verifier : EndorsementVerifier}

section Construction

theorem add_endorsers_ok_iff {seeded : EndorsementVerifier} :
    endorsers.foldlM addEndorser verifier = .ok seeded ↔
      0 ∉ endorsers ∧ endorsers.Nodup ∧ (∀ e ∈ endorsers, verifier.isEndorser e = false) ∧
      seeded = { verifier with
        isEndorser := fun a => verifier.isEndorser a || decide (a ∈ endorsers)
        endorsers := verifier.endorsers ++ endorsers } := by
  induction endorsers generalizing verifier with
  | nil =>
    simp only [foldlM_nil, pure_ok_iff, not_mem_nil, not_false_eq_true, nodup_nil, false_implies, implies_true,
      decide_false, Bool.or_false, append_nil, true_and]
    exact eq_comm
  | cons e rest ih =>
    have grown : (fun a => Function.update verifier.isEndorser e true a || decide (a ∈ rest)) =
        fun a => verifier.isEndorser a || decide (a ∈ e :: rest) := by
      funext a
      by_cases same : a = e
      · simp [same]
      · simp [same]
    rw [foldlM_cons]
    simp only [addEndorser, ok_iff, exists_const, ih]
    constructor
    · rintro ⟨_, ⟨nonzero, fresh, rfl⟩, zeros, distinct, others, rfl⟩
      have apart : e ∉ rest := fun mem => by simpa using others e mem
      refine ⟨?_, nodup_cons.mpr ⟨apart, distinct⟩, forall_mem_cons.mpr ⟨fresh, fun a mem => ?_⟩, ?_⟩
      · rw [mem_cons, not_or]
        exact ⟨nonzero.symm, zeros⟩
      · have different : a ≠ e := fun same => apart (same ▸ mem)
        simpa only [Function.update_of_ne different] using others a mem
      · simp [grown]
    · rintro ⟨zeros, distinct, others, rfl⟩
      obtain ⟨apart, distinct⟩ := nodup_cons.mp distinct
      obtain ⟨fresh, others⟩ := forall_mem_cons.mp others
      rw [mem_cons, not_or] at zeros
      refine ⟨_, ⟨Ne.symm zeros.1, fresh, rfl⟩, zeros.2, distinct, fun a mem => ?_, ?_⟩
      · have different : a ≠ e := fun same => apart (same ▸ mem)
        simpa only [Function.update_of_ne different] using others a mem
      · simp [grown]

theorem construct_ok_iff :
    construct endorsers threshold = .ok verifier ↔
      (threshold ≠ 0 ∧ threshold ≤ endorsers.length) ∧ 0 ∉ endorsers ∧ endorsers.Nodup ∧
      verifier = { isEndorser := fun a => decide (a ∈ endorsers), endorsers, threshold } := by
  simp only [construct, ok_iff, exists_const, add_endorsers_ok_iff, Bool.false_or, nil_append, implies_true, true_and,
    and_assoc, exists_and_left, exists_eq_left, eq_comm (a := verifier)]

end Construction

section Verification

structure SignedBy (ecrecover : Ecrecover) (digest : Bytes32) (sig : Bytes) (signer : Address) : Prop where
  length : sig.length = signatureLength
  v : signatureV sig = 27 ∨ signatureV sig = 28
  s : (signatureS sig).toNat ≤ secp256k1NHalf
  recovered : ecrecover digest (signatureV sig) (signatureR sig) (signatureS sig) = some signer

variable {ecrecover : Ecrecover} {digest : Bytes32} {signatures : List Bytes}

theorem recover_ok_iff {sig : Bytes} {signer : Address} :
    recover ecrecover digest sig = .ok signer ↔ SignedBy ecrecover digest sig signer ∧ signer ≠ 0 := by
  simp only [recover, ok_iff, exists_const]
  constructor
  · rintro ⟨length, v, s, nonzero, rfl⟩
    refine ⟨⟨length, v, s, ?_⟩, nonzero⟩
    cases found : ecrecover digest (signatureV sig) (signatureR sig) (signatureS sig) with
    | none => simp [found] at nonzero
    | some signer => rfl
  · rintro ⟨⟨length, v, s, recovered⟩, nonzero⟩
    rw [recovered]
    exact ⟨length, v, s, nonzero, rfl⟩

theorem accept_all_ok_iff {seen final : List Address} :
    signatures.foldlM (accept ecrecover verifier digest) seen = .ok final ↔
      ∃ signers, List.Forall₂ (fun sig signer => recover ecrecover digest sig = .ok signer) signatures signers ∧
        (∀ signer ∈ signers, verifier.isEndorser signer = true) ∧ signers.Nodup ∧ signers.Disjoint seen ∧
        final = seen ++ signers := by
  induction signatures generalizing seen with
  | nil =>
    simp only [foldlM_nil, pure_ok_iff, forall₂_nil_left_iff, exists_eq_left, not_mem_nil, false_implies,
      implies_true, nodup_nil, disjoint_nil_left, append_nil, true_and]
    exact eq_comm
  | cons sig rest ih =>
    rw [foldlM_cons]
    simp only [accept, ok_iff, exists_const, ih]
    constructor
    · rintro ⟨_, ⟨signer, recovered, authorised, fresh, rfl⟩, signers, others, allowed, distinct, apart, rfl⟩
      obtain ⟨old, new⟩ := disjoint_append_right.mp apart
      refine ⟨signer :: signers, .cons recovered others, forall_mem_cons.mpr ⟨authorised, allowed⟩, ?_, ?_, by simp⟩
      · exact nodup_cons.mpr ⟨fun mem => new mem (mem_singleton_self _), distinct⟩
      · exact disjoint_cons_left.mpr ⟨fresh, old⟩
    · rintro ⟨_, all, allowed, distinct, apart, rfl⟩
      cases all with
      | @cons _ signer _ signers recovered others =>
        obtain ⟨authorised, allowed⟩ := forall_mem_cons.mp allowed
        obtain ⟨new, distinct⟩ := nodup_cons.mp distinct
        obtain ⟨fresh, old⟩ := disjoint_cons_left.mp apart
        refine ⟨_, ⟨signer, recovered, authorised, fresh, rfl⟩, signers, others, allowed, distinct, ?_, by simp⟩
        exact disjoint_append_right.mpr ⟨old, disjoint_singleton.mpr new⟩

theorem verify_ok_iff {answer : Bool} :
    verify ecrecover verifier digest signatures = .ok answer ↔ answer = true ∧ verifier.threshold ≤ signatures.length ∧
      ∃ signers, List.Forall₂ (fun sig signer => recover ecrecover digest sig = .ok signer) signatures signers ∧
        (∀ signer ∈ signers, verifier.isEndorser signer = true) ∧ signers.Nodup := by
  simp only [verify, ok_iff, exists_const, accept_all_ok_iff, disjoint_nil_right, true_and]
  constructor
  · rintro ⟨enough, _, ⟨signers, recovered, allowed, distinct, -⟩, rfl⟩
    exact ⟨rfl, enough, signers, recovered, allowed, distinct⟩
  · rintro ⟨rfl, enough, signers, recovered, allowed, distinct⟩
    exact ⟨enough, _, ⟨signers, recovered, allowed, distinct, rfl⟩, rfl⟩

section Quorum

variable {endorsers : List Address} {threshold : Nat} {verifier : EndorsementVerifier}

theorem accepted_iff (built : construct endorsers threshold = .ok verifier) :
    verify ecrecover verifier digest signatures = .ok true ↔ threshold ≤ signatures.length ∧
      ∃ signers, List.Forall₂ (SignedBy ecrecover digest) signatures signers ∧ (∀ signer ∈ signers, signer ∈ endorsers) ∧
        signers.Nodup := by
  obtain ⟨-, zeros, -, rfl⟩ := construct_ok_iff.mp built
  simp only [verify_ok_iff, decide_eq_true_eq, true_and]
  refine and_congr_right fun enough => exists_congr fun signers => ?_
  constructor
  · rintro ⟨recovered, allowed, distinct⟩
    exact ⟨recovered.imp fun _ _ one => (recover_ok_iff.mp one).1, allowed, distinct⟩
  · rintro ⟨signed, allowed, distinct⟩
    refine ⟨?_, allowed, distinct⟩
    have nonzero : ∀ signer ∈ signers, signer ≠ 0 := fun signer mem same => zeros (same ▸ allowed signer mem)
    clear enough allowed distinct
    induction signed with
    | nil => exact .nil
    | cons first _ ih =>
      obtain ⟨here, later⟩ := forall_mem_cons.mp nonzero
      exact .cons (recover_ok_iff.mpr ⟨first, here⟩) (ih later)

theorem accepted_perm (built : construct endorsers threshold = .ok verifier) {others : List Bytes}
    (order : signatures.Perm others) (accepted : verify ecrecover verifier digest signatures = .ok true) :
    verify ecrecover verifier digest others = .ok true := by
  obtain ⟨enough, signers, signed, allowed, distinct⟩ := (accepted_iff built).mp accepted
  obtain ⟨moved, recovered, perm⟩ := perm_comp_forall₂ order.symm signed
  refine (accepted_iff built).mpr ⟨order.length_eq ▸ enough, moved, recovered, ?_, perm.nodup_iff.mpr distinct⟩
  exact fun signer mem => allowed signer (perm.mem_iff.mp mem)

end Quorum

end Verification

theorem verified_iff_quorum (ecrecover : Ecrecover) (endorsers : List Address) (threshold : Nat) (verifier : EndorsementVerifier)
    (built : construct endorsers threshold = .ok verifier) (digest : Bytes32) (signatures : List Bytes) :
    (verify ecrecover verifier digest signatures = .ok true ↔ threshold ≤ signatures.length ∧
      ∃ signers, List.Forall₂ (SignedBy ecrecover digest) signatures signers ∧ (∀ signer ∈ signers, signer ∈ endorsers) ∧
        signers.Nodup) ∧ (verify ecrecover verifier digest signatures = .ok true → signatures ≠ [] ∧
      ∃ signers, List.Forall₂ (fun sig signer => recover ecrecover digest sig = .ok signer) signatures signers ∧
        signers.Nodup ∧ ∀ signer ∈ signers, signer ∈ endorsers ∧ signer ≠ 0) ∧ (∀ others, signatures.Perm others →
      (verify ecrecover verifier digest signatures = .ok true ↔ verify ecrecover verifier digest others = .ok true)) ∧
    verify ecrecover verifier digest signatures ≠ .ok false := by
  have made := construct_ok_iff.mp built
  refine ⟨accepted_iff built, ?_, fun others order => ⟨accepted_perm built order, accepted_perm built order.symm⟩, ?_⟩
  · intro accepted
    obtain ⟨⟨positive, -⟩, zeros, -, rfl⟩ := made
    obtain ⟨-, enough, signers, recovered, allowed, distinct⟩ := verify_ok_iff.mp accepted
    simp only [decide_eq_true_eq] at allowed
    refine ⟨?_, signers, recovered, distinct, fun signer mem => ⟨allowed signer mem, fun same => zeros (same ▸ allowed signer mem)⟩⟩
    rintro rfl
    exact positive (Nat.le_zero.mp enough)
  · exact fun refused => absurd (verify_ok_iff.mp refused).1 (by decide)

namespace TwoOfThree

-- Stands for signing: the second word of a signature is bound to the digest, and the signer is found for no other.
def bound (digest : Bytes32) : Bytes32 := BitVec.ofNat 256 (digest.toNat % 2 ^ 128)

def ecrecover : Ecrecover := fun digest _ r s => if s = bound digest then some (r.setWidth 160) else none

def sigOf (signer digest : Bytes32) : Bytes := bytes32 signer ++ bytes32 (bound digest) ++ [27]

theorem sig_of_signed : SignedBy ecrecover 7 (sigOf 3 7) 3 ∧ SignedBy ecrecover 7 (sigOf 1 7) 1 :=
  ⟨⟨by decide, by decide, by decide +kernel, by decide +kernel⟩, ⟨by decide, by decide, by decide +kernel, by decide +kernel⟩⟩

theorem two_of_three_accepted :
    ∃ verifier, construct [1, 2, 3] 2 = .ok verifier ∧ verify ecrecover verifier 7 [sigOf 3 7, sigOf 1 7] = .ok true ∧
      verify ecrecover verifier 7 [sigOf 1 7, sigOf 3 7] = .ok true := by
  obtain ⟨verifier, built⟩ : ∃ verifier, construct [1, 2, 3] 2 = .ok verifier :=
    ⟨_, construct_ok_iff.mpr ⟨by decide +kernel, by decide +kernel, by decide +kernel, rfl⟩⟩
  obtain ⟨accepted, -, order, -⟩ := verified_iff_quorum ecrecover [1, 2, 3] 2 verifier built 7 [sigOf 3 7, sigOf 1 7]
  have both := accepted.mpr ⟨Nat.le_refl 2, [3, 1], .cons sig_of_signed.1 (.cons sig_of_signed.2 .nil), by simp,
    by decide +kernel⟩
  exact ⟨verifier, built, both, (order [sigOf 1 7, sigOf 3 7] (List.Perm.swap _ _ _)).mp both⟩

end TwoOfThree

end EndorsementVerifier

section Applied

open EndorsementVerifier

def deployedChain (keccak256 sha256 : Hash) (ecrecover : Ecrecover) (domainSeparator : Bytes32)
    (deployed : Address → EndorsementVerifier) : Chain where
  sha256 := sha256
  domainSeparator := domainSeparator
  digest separator delta := Eip712.Contract.digest keccak256 separator (Eip712.Contract.hashStruct keccak256 delta)
  verify verifier digest signatures :=
    (verify ecrecover (deployed verifier) digest signatures).mapError fun reason => .verifier (reprStr reason)

theorem applied_delta_endorsed {keccak256 sha256 : Hash} {ecrecover : Ecrecover} {domainSeparator : Bytes32}
    {deployed : Address → EndorsementVerifier} {state next : TokenState} {call : Call}
    (built : construct endorsers threshold = .ok (deployed state.endorsementVerifier))
    (applied : applyStateDelta (deployedChain keccak256 sha256 ecrecover domainSeparator deployed) state call = .ok next) :
    threshold ≤ call.signatures.length ∧ ∃ signers, List.Forall₂ (SignedBy ecrecover
        (Eip712.Contract.digest keccak256 state.domainSeparator (Eip712.hashStruct keccak256 call.delta))) call.signatures signers ∧
      (∀ signer ∈ signers, signer ∈ endorsers) ∧ signers.Nodup := by
  simp only [applyStateDelta, ok_iff, exists_const, deployedChain, map_error_ok_iff, Eip712.hash_struct_eq] at applied
  obtain ⟨-, -, -, accepted, verified, rfl, -⟩ := applied
  exact (accepted_iff built).mp verified

namespace OneOutput

open FixedWidth TwoOfThree

def separator : Bytes32 := Eip712.Contract.domainSeparator checksum256 1 9

def delta : StateDelta := { Abi.TwoOutputs.delta with spentRefs := [] }

def digest : Bytes32 := Eip712.Contract.digest checksum256 separator (Eip712.hashStruct checksum256 delta)

def signatures : List Bytes := [sigOf 3 digest, sigOf 1 digest]

def attempted : Except Revert TokenState :=
  applyStateDelta (deployedChain checksum256 checksum256 ecrecover separator fun _ => ⟨fun a => a ∈ [1, 2, 3], [1, 2, 3], 2⟩)
    { TokenState.fresh with initialized := true, domainSeparator := separator, publicParamsVersion := 14, publicParamsHash := 13 }
    ⟨delta, signatures⟩

theorem attempted_endorsed : ∃ next signers, attempted = .ok next ∧ next.tokens 4 = [0x07] ∧
    List.Forall₂ (SignedBy ecrecover digest) signatures signers ∧ signers.Nodup := by
  have stored : attempted.toOption.map (fun state => state.tokens 4) = some [0x07] := by decide +kernel
  obtain ⟨next, made, stored⟩ := Option.map_eq_some_iff.mp stored
  have applied : attempted = .ok next := to_option_eq_some_iff.mp made
  have built : construct [1, 2, 3] 2 = .ok ⟨fun a => a ∈ [1, 2, 3], [1, 2, 3], 2⟩ :=
    construct_ok_iff.mpr ⟨by decide +kernel, by decide +kernel, by decide +kernel, rfl⟩
  obtain ⟨-, signers, signed, -, distinct⟩ := applied_delta_endorsed built applied
  exact ⟨next, signers, applied, stored, signed, distinct⟩

end OneOutput

end Applied

end Panurus.Evm
