import Panurus.Lib.Tally
import Panurus.Ttx.Signing

namespace Panurus.Ttx

open Lib Outcome Descent Tally Core Driver Identity Multisig List

def componentsOf (id : Identity) : Option (List Identity) :=
  match unwrap id with
  | .ok (some components) => some components
  | _ =>
    match Boolpolicy.unwrap id with
    | .ok (some pi) => some pi.2
    | _ => none

variable {id : Identity} {components ids signers : List Identity}

theorem components_of_multisig (unwrapped : unwrap id = .ok (some components)) : componentsOf id = some components := by
  rw [componentsOf, unwrapped]

theorem components_of_policy {pi : Bytes × List Identity} (single : unwrap id = .ok none)
    (unwrapped : Boolpolicy.unwrap id = .ok (some pi)) : componentsOf id = some pi.2 := by
  rw [componentsOf, single, unwrapped]

theorem components_of_plain (single : unwrap id = .ok none) (plain : Boolpolicy.unwrap id = .ok none) :
    componentsOf id = none := by
  rw [componentsOf, single, plain]

theorem components_shorter {component : Identity} (composite : componentsOf id = some components)
    (mem : component ∈ components) : component.length < id.length := by
  simp only [componentsOf] at composite
  split at composite
  · rename_i found unwrapped
    cases composite
    exact unwrapped_shorter unwrapped mem
  · split at composite
    · rename_i pi unwrapped
      cases composite
      exact Boolpolicy.unwrapped_shorter unwrapped mem
    · cases composite

theorem typed_not_empty (composite : componentsOf id = some components) : 0 < id.length := by
  simp only [componentsOf] at composite
  split at composite
  · rename_i found unwrapped
    exact Nat.zero_lt_of_lt (unwrap_as_shorter unwrapped)
  · split at composite
    · rename_i pi unwrapped
      exact Nat.zero_lt_of_lt (unwrap_as_shorter unwrapped)
    · cases composite

theorem le_longest (mem : id ∈ ids) : id.length ≤ longest ids := by
  induction ids with
  | nil => cases mem
  | cons head tail ih =>
    rcases mem_cons.mp mem with rfl | later
    · exact Nat.le_max_left _ _
    · exact Nat.le_trans (ih later) (Nat.le_max_right _ _)

theorem longest_lt {bound : Nat} (positive : 0 < bound) (each : ∀ id ∈ ids, id.length < bound) : longest ids < bound := by
  induction ids with
  | nil => exact positive
  | cons head tail ih =>
    exact max_lt (each head mem_cons_self) (ih fun id mem => each id (mem_cons_of_mem _ mem))

theorem longest_components {some_of : List Identity} (mem : id ∈ signers)
    (composite : componentsOf id = some components) (subset : some_of ⊆ components) : longest some_of < longest signers :=
  Nat.lt_of_lt_of_le
    (longest_lt (typed_not_empty composite) fun _ inside => components_shorter composite (subset inside)) (le_longest mem)

section Equation

variable {i : Initiator} {f g : List Identity → Outcome Collected} {first second : Outcome Handled} {requestRaw : Bytes}

theorem policy_collect_subset (components : List Identity) : policyCollectIDs i components ⊆ components := by
  rw [policyCollectIDs]
  split
  · exact Subset.refl _
  · exact filter_subset_self _

theorem try_multisig_congr (same : ∀ components, componentsOf id = some components → f components = g components) :
    tryMultiSigSignature i f id = tryMultiSigSignature i g id := by
  simp only [tryMultiSigSignature]
  cases unwrapped : unwrap id with
  | error err => rfl
  | ok answer =>
    cases answer with
    | none => rfl
    | some components =>
      change (wrap _ (f components) >>= _) = (wrap _ (g components) >>= _)
      rw [same components (components_of_multisig unwrapped)]

theorem try_policy_congr (single : unwrap id = .ok none) (same : ∀ components, componentsOf id = some components →
      f (policyCollectIDs i components) = g (policyCollectIDs i components)) :
    tryPolicySignature i f id = tryPolicySignature i g id := by
  simp only [tryPolicySignature]
  cases unwrapped : Boolpolicy.unwrap id with
  | error err => rfl
  | ok answer =>
    cases answer with
    | none => rfl
    | some pi =>
      change (wrap _ (f (policyCollectIDs i pi.2)) >>= _) = (wrap _ (g (policyCollectIDs i pi.2)) >>= _)
      rw [same pi.2 (components_of_policy single unwrapped)]

theorem or_else_ok_iff {handled : Handled} : orElse first second = .ok handled ↔
    (∃ done, first = .ok (some done) ∧ handled = some done) ∨ (first = .ok none ∧ second = .ok handled) := by
  cases first with
  | error err => simp [orElse, Bind.bind, Except.bind]
  | ok answer =>
    cases answer with
    | none => simp [orElse, Bind.bind, Except.bind]
    | some done => simp [orElse, Bind.bind, Except.bind, pure, Except.pure, eq_comm]

theorem or_else_congr {second' : Outcome Handled} (same : first = .ok none → second = second') :
    orElse first second = orElse first second' := by
  cases first with
  | error err => rfl
  | ok answer =>
    cases answer with
    | none => rw [same rfl]
    | some done => rfl

theorem try_multisig_none : tryMultiSigSignature i f id = .ok none ↔ unwrap id = .ok none := by
  simp only [tryMultiSigSignature, ok_iff]
  constructor
  · rintro ⟨answer, unwrapped, made⟩
    cases answer with
    | none => exact unwrapped
    | some components =>
      simp only [ok_iff] at made
      obtain ⟨_, -, _, -, made⟩ := made
      cases made
  · exact fun unwrapped => ⟨none, unwrapped, rfl⟩

theorem try_non_remote_congr
    (same : ∀ components some_of, componentsOf id = some components → some_of ⊆ components → f some_of = g some_of) :
    tryNonRemoteSignature i f requestRaw id = tryNonRemoteSignature i g requestRaw id := by
  rw [tryNonRemoteSignature, tryNonRemoteSignature,
    try_multisig_congr fun components composite => same components components composite (Subset.refl _)]
  refine or_else_congr fun single => ?_
  rw [try_policy_congr (try_multisig_none.mp single) fun components composite =>
    same components _ composite (policy_collect_subset components)]

theorem collect_congr (p : Progress)
    (same : ∀ id ∈ signers, tryNonRemoteSignature i f requestRaw id = tryNonRemoteSignature i g requestRaw id) :
    signers.foldlM (collectSigner i f requestRaw) p = signers.foldlM (collectSigner i g requestRaw) p := by
  induction signers generalizing p with
  | nil => rfl
  | cons id rest ih =>
    rw [foldlM_cons, collectSigner, same id mem_cons_self]
    exact congrArg _ (funext fun next => ih next fun other mem => same other (mem_cons_of_mem _ mem))

theorem request_descends (verifierGetter : VerifierGetter) : Descends (requestSignaturesStep i verifierGetter) longest := by
  intro f g signers same
  have each : ∀ requestRaw, signers.foldlM (collectSigner i f requestRaw) .start =
      signers.foldlM (collectSigner i g requestRaw) .start := fun requestRaw =>
    collect_congr _ fun id mem => try_non_remote_congr fun _ some_of composite subset =>
      same some_of (longest_components mem composite subset)
  simp [requestSignaturesStep, each]

theorem request_signatures_eq (verifierGetter : VerifierGetter) (signers : List Identity) :
    requestSignatures i verifierGetter signers =
      requestSignaturesStep i verifierGetter (requestSignatures i verifierGetter) signers :=
  descend_eq (request_descends verifierGetter) signers

end Equation

def held (i : Initiator) (id : Identity) : Bool := (i.externalWalletSigner id).isSome || (i.getSigner id).isSome

inductive Settled (i : Initiator) (request : List Identity → Outcome Collected) (id : Identity) : Handled → Prop where
  | composite {components : List Identity} {collected : Collected} (sigma : Bytes) (unwrapped : componentsOf id = some components)
      (done : request components = .ok collected) : Settled i request id (some (sigma, collected.sent))
  | signed (sigma : Bytes) (plain : componentsOf id = none) (at_hand : held i id = true) : Settled i request id (some (sigma, []))
  | remote (plain : componentsOf id = none) (absent : held i id = false) : Settled i request id none

section Inversion

variable {i : Initiator} {request : List Identity → Outcome Collected} {id : Identity} {handled : Handled} {requestRaw : Bytes}

theorem try_signer_ok {kind : String} {signer : Option (Bytes → Outcome Bytes)}
    (done : trySigner i kind signer id requestRaw = .ok handled) :
    (signer = none ∧ handled = none) ∨ (signer.isSome = true ∧ ∃ sigma, handled = some (sigma, [])) := by
  cases signer with
  | none =>
    cases done
    exact .inl ⟨rfl, rfl⟩
  | some sign =>
    simp only [trySigner, ok_iff] at done
    obtain ⟨sigma, -, rfl⟩ := done
    exact .inr ⟨rfl, sigma, rfl⟩

theorem try_at_hand_ok (plain : componentsOf id = none)
    (done : orElse (tryExternalWalletSignature i id requestRaw) (tryLocalSignature i id requestRaw) = .ok handled) :
    Settled i request id handled := by
  rcases or_else_ok_iff.mp done with ⟨signed, external, rfl⟩ | ⟨no_wallet, signing⟩
  · rcases try_signer_ok external with ⟨-, none⟩ | ⟨found, sigma, same⟩
    · cases none
    · rw [same]
      exact .signed sigma plain (by rw [held, found, Bool.true_or])
  · rcases try_signer_ok no_wallet with ⟨none_found, -⟩ | ⟨-, _, same⟩
    · rcases try_signer_ok signing with ⟨no_key, rfl⟩ | ⟨found, sigma, rfl⟩
      · exact .remote plain (by rw [held, none_found, no_key]; rfl)
      · exact .signed sigma plain (by rw [held, found, Bool.or_true])
    · cases same

theorem try_policy_ok (unrestricted : i.policySigners = []) (single : unwrap id = .ok none)
    (done : tryPolicySignature i request id = .ok handled) :
    (componentsOf id = none ∧ handled = none) ∨ (handled ≠ none ∧ Settled i request id handled) := by
  simp only [tryPolicySignature, ok_iff] at done
  obtain ⟨answer, unwrapped, made⟩ := done
  cases answer with
  | none =>
    cases made
    exact .inl ⟨components_of_plain single unwrapped, rfl⟩
  | some pi =>
    simp only [ok_iff, policyCollectIDs, if_pos unrestricted] at made
    obtain ⟨collected, requested, rfl⟩ := made
    exact .inr ⟨Option.some_ne_none _, .composite _ (components_of_policy single unwrapped) requested⟩

theorem try_multisig_ok (done : tryMultiSigSignature i request id = .ok handled) :
    (unwrap id = .ok none ∧ handled = none) ∨ (handled ≠ none ∧ Settled i request id handled) := by
  simp only [tryMultiSigSignature, ok_iff] at done
  obtain ⟨answer, unwrapped, made⟩ := done
  cases answer with
  | none =>
    cases made
    exact .inl ⟨unwrapped, rfl⟩
  | some components =>
    simp only [ok_iff] at made
    obtain ⟨collected, requested, sigma, -, rfl⟩ := made
    exact .inr ⟨Option.some_ne_none _, .composite sigma (components_of_multisig unwrapped) requested⟩

theorem try_non_remote_ok (unrestricted : i.policySigners = [])
    (done : tryNonRemoteSignature i request requestRaw id = .ok handled) : Settled i request id handled := by
  rcases or_else_ok_iff.mp done with ⟨signed, multisig, rfl⟩ | ⟨no_multisig, others⟩
  · rcases try_multisig_ok multisig with ⟨-, none⟩ | ⟨-, settled⟩
    · cases none
    · exact settled
  · have single := try_multisig_none.mp no_multisig
    rcases or_else_ok_iff.mp others with ⟨signed, policy, rfl⟩ | ⟨no_policy, at_hand⟩
    · rcases try_policy_ok unrestricted single policy with ⟨-, none⟩ | ⟨-, settled⟩
      · cases none
      · exact settled
    · rcases try_policy_ok unrestricted single no_policy with ⟨plain, -⟩ | ⟨some_handled, -⟩
      · exact try_at_hand_ok plain at_hand
      · exact absurd rfl some_handled

theorem collect_signer_ok (unrestricted : i.policySigners = []) {p next : Progress}
    (done : collectSigner i request requestRaw p id = .ok next) :
    (∃ components collected sigma, componentsOf id = some components ∧ request components = .ok collected ∧
        next = p.handled (i.uniqueID id) sigma collected.sent) ∨
      (componentsOf id = none ∧ held i id = true ∧ ∃ sigma, next = p.handled (i.uniqueID id) sigma []) ∨
      (componentsOf id = none ∧ held i id = false ∧ next = p.remote i.uniqueID id) := by
  simp only [collectSigner, ok_iff] at done
  obtain ⟨handled, tried, rfl⟩ := done
  cases try_non_remote_ok unrestricted tried with
  | composite sigma unwrapped requested => exact .inl ⟨_, _, sigma, unwrapped, requested, rfl⟩
  | signed sigma plain at_hand => exact .inr (.inl ⟨plain, at_hand, sigma, rfl⟩)
  | remote plain absent => exact .inr (.inr ⟨plain, absent, rfl⟩)

end Inversion

-- How often a party is asked for a list of signers: once for the list, and again for every composite signer in it.
def askedStep (party : Identity) (asked : List Identity → Nat) (signers : List Identity) : Nat :=
  (if party ∈ signers then 1 else 0) + tally (fun id => (componentsOf id).elim 0 asked) signers

def asked (party : Identity) : List Identity → Nat := descend 0 (askedStep party) longest

theorem asked_eq (party : Identity) (signers : List Identity) : asked party signers = askedStep party (asked party) signers := by
  refine descend_eq (fun f g signers same => ?_) signers
  rw [askedStep]
  congr 1
  refine tally_congr fun id mem => ?_
  cases unwrapped : componentsOf id with
  | none => rfl
  | some components => exact same components (longest_components mem unwrapped (Subset.refl _))

inductive Within : List Identity → Identity → Prop where
  | here {signers : List Identity} {id : Identity} (mem : id ∈ signers) : Within signers id
  | inside {signers components : List Identity} {outer id : Identity} (mem : outer ∈ signers)
      (unwrapped : componentsOf outer = some components) (inner : Within components id) : Within signers id

variable {signers more : List Identity}

theorem Within.mono (inside : Within signers id) (subset : signers ⊆ more) : Within more id := by
  cases inside with
  | here mem => exact .here (subset mem)
  | inside mem unwrapped inner => exact .inside (subset mem) unwrapped inner

section Counting

variable {i : Initiator} {done : List Identity} {p : Progress} {collected : Collected}

def Direct (i : Initiator) (party : Identity) : Prop := componentsOf party = none ∧ held i party = false

structure Sound (i : Initiator) (signers : List Identity) (message : Message) : Prop where
  named : message.request.signer = message.party
  within : Within signers message.party
  direct : Direct i message.party

def askedInside (party : Identity) (signers : List Identity) : Nat :=
  tally (fun id => (componentsOf id).elim 0 (asked party)) signers

structure Accounted (i : Initiator) (signers : List Identity) (sent : List Message) : Prop where
  sound : ∀ message ∈ sent, Sound i signers message
  count : ∀ party, Direct i party → sent.countP (fun message => message.party = party) = asked party signers

structure Tracked (i : Initiator) (done : List Identity) (p : Progress) : Prop where
  sound : ∀ message ∈ p.sent, Sound i done message
  count : ∀ party, Direct i party → p.sent.countP (fun message => message.party = party) = askedInside party done
  listed : ∀ party, party ∈ p.remoteSigners ↔ party ∈ done ∧ Direct i party
  once : p.remoteSigners.Nodup

theorem Sound.mono {message : Message} (sound : Sound i signers message) (subset : signers ⊆ more) : Sound i more message :=
  { sound with within := sound.within.mono subset }

theorem asked_inside_snoc (party : Identity) (done : List Identity) (id : Identity) :
    askedInside party (done ++ [id]) = askedInside party done + (componentsOf id).elim 0 (asked party) := by
  simp [askedInside]

theorem tracked_start : Tracked i [] Progress.start where
  sound _ mem := (not_mem_nil mem).elim
  count _ _ := rfl
  listed party := by simp [Progress.start]
  once := nodup_nil

section

variable (holds : Tracked i done p)

include holds

theorem listed_snoc {id : Identity} (other : ¬ Direct i id) (party : Identity) :
    party ∈ p.remoteSigners ↔ party ∈ done ++ [id] ∧ Direct i party := by
  rw [holds.listed, mem_append, mem_singleton]
  constructor
  · exact fun both => ⟨.inl both.1, both.2⟩
  · rintro ⟨before | rfl, direct⟩
    · exact ⟨before, direct⟩
    · exact absurd direct other

theorem tracked_composite (unwrapped : componentsOf id = some components) (inner : Accounted i components collected.sent)
    (sigma : Bytes) : Tracked i (done ++ [id]) (p.handled (i.uniqueID id) sigma collected.sent) where
  sound := by
    intro message mem
    rcases mem_append.mp mem with before | now
    · exact (holds.sound message before).mono (subset_append_left _ _)
    · have sound := inner.sound message now
      exact { sound with within := .inside (mem_append_right _ (mem_singleton_self _)) unwrapped sound.within }
  count party direct := by
    rw [Progress.handled, countP_append, holds.count party direct, inner.count party direct, asked_inside_snoc, unwrapped,
      Option.elim_some]
  listed := listed_snoc holds fun direct => nomatch unwrapped.symm.trans direct.1
  once := holds.once

theorem tracked_held (single : componentsOf id = none) (at_hand : held i id = true) (sigma : Bytes) :
    Tracked i (done ++ [id]) (p.handled (i.uniqueID id) sigma []) where
  sound := by
    intro message mem
    rw [Progress.handled, append_nil] at mem
    exact (holds.sound message mem).mono (subset_append_left _ _)
  count party direct := by
    rw [Progress.handled, append_nil, holds.count party direct, asked_inside_snoc, single]
    rfl
  listed := listed_snoc holds fun direct => nomatch at_hand.symm.trans direct.2
  once := holds.once

theorem tracked_remote (direct : Direct i id) (unique : Set.InjOn i.uniqueID {party | party ∈ done ++ [id]}) :
    Tracked i (done ++ [id]) (p.remote i.uniqueID id) := by
  have count : ∀ party, Direct i party →
      p.sent.countP (fun message => message.party = party) = askedInside party (done ++ [id]) := by
    intro party is_direct
    rw [holds.count party is_direct, asked_inside_snoc, direct.1]
    rfl
  have sound : ∀ message ∈ p.sent, Sound i (done ++ [id]) message := fun message mem =>
    (holds.sound message mem).mono (subset_append_left _ _)
  have seen_iff : i.uniqueID id ∈ p.remoteSigners.map i.uniqueID ↔ id ∈ p.remoteSigners := by
    refine ⟨fun seen => ?_, mem_map_of_mem⟩
    obtain ⟨other, mem, same⟩ := mem_map.mp seen
    have equal : other = id := unique (mem_append_left _ ((holds.listed other).mp mem).1)
      (mem_append_right _ (mem_singleton_self _)) same
    rwa [equal] at mem
  rw [Progress.remote]
  by_cases seen : id ∈ p.remoteSigners
  · rw [if_pos (seen_iff.mpr seen)]
    refine ⟨sound, count, fun party => ?_, holds.once⟩
    rw [holds.listed, mem_append, mem_singleton]
    constructor
    · exact fun both => ⟨.inl both.1, both.2⟩
    · rintro ⟨before | rfl, is_direct⟩
      · exact ⟨before, is_direct⟩
      · exact (holds.listed _).mp seen
  · rw [if_neg fun found => seen (seen_iff.mp found)]
    refine ⟨sound, count, fun party => ?_, ?_⟩
    · rw [mem_append, mem_singleton, holds.listed, mem_append, mem_singleton]
      constructor
      · rintro (both | rfl)
        · exact ⟨.inl both.1, both.2⟩
        · exact ⟨.inr rfl, direct⟩
      · rintro ⟨before | rfl, is_direct⟩
        · exact .inl ⟨before, is_direct⟩
        · exact .inr rfl
    · exact holds.once.append (nodup_singleton id) (by simpa [disjoint_singleton] using seen)

end

theorem fan_out_count {remoteSigners : List Identity} (once : remoteSigners.Nodup)
    (fair : (i.schedule remoteSigners).Perm remoteSigners)
    (txRaw : Bytes) (party : Identity) :
    ((i.schedule remoteSigners).map (signatureRequest txRaw)).countP (fun message => message.party = party) =
      if party ∈ remoteSigners then 1 else 0 := by
  rw [countP_map, fair.countP_eq, ← once.count]
  refine countP_congr fun id _ => ?_
  rw [beq_iff_eq]
  exact decide_eq_true_iff

theorem accounted_of_tracked (holds : Tracked i signers p) (fair : (i.schedule p.remoteSigners).Perm p.remoteSigners)
    (txRaw : Bytes) : Accounted i signers (p.sent ++ (i.schedule p.remoteSigners).map (signatureRequest txRaw)) where
  sound := by
    intro message mem
    rcases mem_append.mp mem with before | now
    · exact holds.sound message before
    · obtain ⟨party, listed, rfl⟩ := mem_map.mp now
      obtain ⟨inside, direct⟩ := (holds.listed party).mp (fair.mem_iff.mp listed)
      exact ⟨rfl, .here inside, direct⟩
  count party direct := by
    rw [countP_append, holds.count party direct, fan_out_count holds.once fair, asked_eq, Nat.add_comm]
    congr 1
    by_cases mem : party ∈ signers
    · rw [if_pos mem, if_pos ((holds.listed party).mpr ⟨mem, direct⟩)]
    · rw [if_neg mem, if_neg fun listed => mem ((holds.listed party).mp listed).1]

theorem request_accounted {verifierGetter : VerifierGetter} (unrestricted : i.policySigners = [])
    (fair : ∀ parties, (i.schedule parties).Perm parties) (unique : Set.InjOn i.uniqueID {party | Within signers party})
    (done : requestSignatures i verifierGetter signers = .ok collected) : Accounted i signers collected.sent := by
  induction size : longest signers using Nat.strong_induction_on generalizing signers collected with
  | _ bound ih =>
    rw [request_signatures_eq] at done
    simp only [requestSignaturesStep, ok_iff] at done
    obtain ⟨requestRaw, -, txRaw, -, p, folded, _, -, rfl⟩ := done
    refine accounted_of_tracked ?_ (fair _) txRaw
    refine foldlM_invariant (fun before p => before <+: signers → Tracked i before p) ?_ (fun _ => tracked_start) folded
      (prefix_refl signers)
    intro before p id next holds collecting reached
    have subset : before ++ [id] ⊆ signers := reached.subset
    have mem : id ∈ signers := subset (mem_append_right _ (mem_singleton_self _))
    have tracked := holds ((prefix_append before [id]).trans reached)
    rcases collect_signer_ok unrestricted collecting with
      ⟨components, inner, sigma, unwrapped, requested, rfl⟩ | ⟨plain, at_hand, sigma, rfl⟩ | ⟨plain, absent, rfl⟩
    · have smaller := longest_components mem unwrapped (Subset.refl _)
      have inner_unique : Set.InjOn i.uniqueID {party | Within components party} :=
        unique.mono fun _ within => .inside mem unwrapped within
      exact tracked_composite tracked unwrapped (ih _ (size ▸ smaller) inner_unique requested rfl) sigma
    · exact tracked_held tracked plain at_hand sigma
    · exact tracked_remote tracked ⟨plain, absent⟩ (unique.mono fun _ listed => .here (subset listed))

end Counting

end Panurus.Ttx
