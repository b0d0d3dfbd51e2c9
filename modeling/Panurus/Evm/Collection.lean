import Panurus.Evm.Initiator
import Panurus.Lib.Pointwise
import Panurus.Lib.Quorum

namespace Panurus.Evm

open List Lib Outcome Pointwise Text FixedWidth EndorsementVerifier Eip712

theorem address_hex_injective : Function.Injective Address.hex := by
  intro a b same
  have fits : ∀ address : Address, address.toNat < 256 ^ 20 := fun address => by
    have := address.isLt
    exact this
  exact BitVec.eq_of_toNat_eq (big_endian_injective (fits a) (fits b) (hex_injective (append_cancel_left same)))

theorem bytes32_of {octets : Bytes} (length : octets.length = 32) : bytes32 (ofBytes32 octets) = octets := by
  rw [bytes32, ofBytes32, BitVec.toNat_ofNat, show (2 : Nat) ^ 256 = 256 ^ 32 by norm_num, big_endian_mod, big_endian_of length]

section Recovery

variable {lib : Libraries} {digest : Bytes32} {sig : Bytes}
  {address : Address}

def SameRecovery (lib : Libraries) (ecrecover : Ecrecover) : Prop :=
  ∀ digest v r s, v = 27 ∨ v = 28 → ecrecover digest v r s =
    (lib.recoverCompact (v :: (bytes32 r ++ bytes32 s)) digest).toOption.map (pubKeyToAddress lib)

theorem recover_address_signed {ecrecover : Ecrecover} (same : SameRecovery lib ecrecover)
    (recovered : recoverAddress lib digest sig = .ok address) : SignedBy ecrecover digest sig address := by
  simp only [recoverAddress, checkSignatureFormat, ok_iff] at recovered
  obtain ⟨_, ⟨_, length, _, v, s⟩, pub, found, rfl⟩ := recovered
  refine ⟨length, v, s, ?_⟩
  have first : bytes32 (signatureR sig) = sig.take 32 := bytes32_of (by simp [length, signatureLength])
  have second : bytes32 (signatureS sig) = (sig.drop 32).take 32 := bytes32_of (by simp [length, signatureLength])
  have whole : sig.take 64 = bytes32 (signatureR sig) ++ bytes32 (signatureS sig) := by
    rw [first, second, ← take_add]
  rw [same digest _ _ _ v, ← whole, found]
  rfl

theorem recover_address_length (recovered : recoverAddress lib digest sig = .ok address) : sig ≠ [] := by
  simp only [recoverAddress, checkSignatureFormat, ok_iff] at recovered
  obtain ⟨_, ⟨_, length, _⟩, _⟩ := recovered
  rintro rfl
  simp [signatureLength] at length

end Recovery

namespace Registry

variable {texts : IdentityTexts} {endorsers : List Endorser} {registry : Registry}

structure Drafted (endorsers : List Endorser) (draft : Draft) : Prop where
  known : ∀ address, (draft.byAddress address).isSome ↔ address ∈ endorsers.map Endorser.address
  distinct : (endorsers.map Endorser.address).Nodup
  nonzero : 0 ∉ endorsers.map Endorser.address

theorem drafted_step {i : Nat} {draft next : Draft} {e : Endorser} (before : Drafted endorsers draft)
    (added : add texts i draft e = .ok next) : Drafted (endorsers ++ [e]) next := by
  simp only [add, ok_iff] at added
  obtain ⟨_, _, _, nonzero, _, fresh, _, _, rfl⟩ := added
  have apart : e.address ∉ endorsers.map Endorser.address := by
    rw [← before.known e.address, fresh]
    simp
  constructor
  · intro address
    by_cases same : address = e.address
    · simp [same]
    · simpa [Function.update_of_ne same, same] using before.known address
  · rw [map_append, map_singleton, ← concat_eq_append]
    exact List.Nodup.concat apart before.distinct
  · rw [map_append, mem_append, not_or]
    exact ⟨before.nonzero, by simpa using Ne.symm nonzero⟩

theorem new_ok (built : Registry.new texts endorsers = .ok registry) :
    (∀ address, registry.isEndorser address = true ↔ address ∈ registry.addresses) ∧ registry.addresses.Nodup ∧
      0 ∉ registry.addresses := by
  simp only [Registry.new, ok_iff] at built
  obtain ⟨_, _, draft, run, rfl⟩ := built
  have drafted : Drafted endorsers draft := by
    refine fold_each_invariant Drafted ?_ ?_ run
    · intro seen state e next before added
      exact drafted_step before added
    · exact ⟨by simp, by simp, by simp⟩
  exact ⟨drafted.known, drafted.distinct, drafted.nonzero⟩

end Registry

open Registry

namespace Initiator

structure Bound (i : Initiator) (delta : StateDelta) : Prop where
  anchor : anchorFromTxID i.request.anchor = .ok delta.anchor
  valid : delta.validate = .ok ()
  kind : delta.isSetup = true ↔ i.request.kind = .setup
  parameters : i.request.kind = .setup → delta.setupParameters = i.request.publicParamsRaw

variable {delta : StateDelta} {digest : Bytes32}

section Replies

variable {lib : Libraries} {i : Initiator} {anchor : Bytes32}

theorem bound_iff (read : anchorFromTxID i.request.anchor = .ok anchor) : i.bind anchor delta = .ok () ↔ i.Bound delta := by
  have anchors : anchorFromTxID i.request.anchor = .ok delta.anchor ↔ delta.anchor = anchor := by
    rw [read, Except.ok.injEq, eq_comm]
  simp only [Initiator.bind, ok_iff, map_error_ok_iff, exists_const]
  by_cases kind : i.request.kind = .setup
  · simp only [if_pos kind, ok_iff, exists_const]
    constructor
    · rintro ⟨same, _, valid, setup, parameters⟩
      exact ⟨anchors.mpr same, valid, by simp [setup, kind], fun _ => parameters⟩
    · intro bound
      exact ⟨anchors.mp bound.anchor, (), bound.valid, bound.kind.mpr kind, bound.parameters kind⟩
  · simp only [if_neg kind, ensure_ok_iff]
    constructor
    · rintro ⟨same, _, valid, setup⟩
      exact ⟨anchors.mpr same, valid, by simp [setup, kind], fun other => absurd other kind⟩
    · intro bound
      exact ⟨anchors.mp bound.anchor, (), bound.valid, by simpa [kind] using bound.kind⟩

theorem verify_ok_iff {sig signer : Bytes} :
    i.verify lib digest sig = .ok signer ↔
      ∃ address, recoverAddress lib digest sig = .ok address ∧ i.registry.isEndorser address = true ∧ signer = address.hex := by
  simp only [Initiator.verify, ok_iff, map_error_ok_iff, exists_const]
  exact exists_congr fun address => and_congr_right fun _ => and_congr_right fun _ => eq_comm

structure Usable (lib : Libraries) (i : Initiator) (vote : Vote) : Prop where
  bound : i.Bound vote.delta
  digest : vote.digest = Eip712.digest lib.keccak256 i.domain vote.delta
  signed : ∃ address, recoverAddress lib vote.digest vote.signature = .ok address ∧
    i.registry.isEndorser address = true ∧ vote.signer = address.hex

theorem examine_ok (read : anchorFromTxID i.request.anchor = .ok anchor) {reply : Outcome EndorseResponse} {vote : Vote}
    (passed : i.examine lib anchor reply = .ok vote) : i.Usable lib vote := by
  simp only [examine, ok_iff, map_error_ok_iff] at passed
  obtain ⟨resp, _, _, _, delta, _, _, bound, signer, verified, rfl⟩ := passed
  exact ⟨(bound_iff read).mp bound, rfl, verify_ok_iff.mp verified⟩

theorem examine_signed (bound : i.Bound delta) {resp : EndorseResponse} (fine : resp.err = "")
    (carried : resp.delta = some delta) {address : Address} (registered : i.registry.isEndorser address = true)
    (recovered : recoverAddress lib (Eip712.digest lib.keccak256 i.domain delta) resp.signature = .ok address) :
    i.examine lib delta.anchor (.ok resp) = .ok
      { digest := Eip712.digest lib.keccak256 i.domain delta, delta, signer := address.hex, signature := resp.signature } := by
  simp only [examine, ok_iff, map_error_ok_iff, EndorseResponse.error]
  refine ⟨resp, rfl, (), ⟨(), fine, (), recover_address_length recovered, by simp [carried]⟩, delta, carried, (),
    (bound_iff bound.anchor).mpr bound, address.hex, verify_ok_iff.mpr ⟨address, recovered, registered, rfl⟩, rfl⟩

end Replies

section Tally

open Quorum

variable {lib : Libraries} {texts : IdentityTexts}
  {i : Initiator} {anchor : Bytes32} {ballots : List (Ballot Bytes32 Bytes Vote)} {state next : Collection}
  {party : Bytes} {vote : Vote} {result : Result} {done : Nat → Option String}
  {endorse : Nat → Bytes → Outcome EndorseResponse} {voters : List Bytes}

def ballotOf (vote : Vote) : Ballot Bytes32 Bytes Vote := { choice := vote.digest, voter := vote.signer, paper := vote }

def IsBallot (lib : Libraries) (i : Initiator) (ballot : Ballot Bytes32 Bytes Vote) : Prop :=
  ∃ vote, i.Usable lib vote ∧ ballot = ballotOf vote

structure Holds (ballots : List (Ballot Bytes32 Bytes Vote)) (digest : Bytes32) (quorum : Agreement) : Prop where
  signers : quorum.signers = (counted ballots digest).map Ballot.voter
  signatures : quorum.signatures = (counted ballots digest).map fun ballot => ballot.paper.signature
  delta : ∃ ballot ∈ ballots, ballot.choice = digest ∧ ballot.paper.delta = quorum.delta

structure Tallied (lib : Libraries) (i : Initiator) (ballots : List (Ballot Bytes32 Bytes Vote)) (state : Collection) : Prop where
  usable : ∀ ballot ∈ ballots, IsBallot lib i ballot
  held : ∀ digest quorum, state.agreed.lookup digest = some quorum → Holds ballots digest quorum
  rest : ∀ digest, state.agreed.lookup digest = none → counted ballots digest = []
  below : ∀ digest, counted ballots digest = [] ∨ ((counted ballots digest).length : Int) < i.threshold

theorem joined_holds (tallied : i.Tallied lib ballots state) (vote : Vote) :
    let quorum := (state.agreed.lookup vote.digest).getD { delta := vote.delta, signatures := [], signers := [] }
    quorum.signers = (counted ballots vote.digest).map Ballot.voter ∧
      quorum.signatures = (counted ballots vote.digest).map (fun ballot => ballot.paper.signature) ∧
      ∃ ballot ∈ ballots ++ [ballotOf vote], ballot.choice = vote.digest ∧ ballot.paper.delta = quorum.delta := by
  cases found : state.agreed.lookup vote.digest with
  | none => simp [tallied.rest vote.digest found, ballotOf]
  | some quorum =>
    obtain ⟨signers, signatures, ballot, mem, same, delta⟩ := tallied.held vote.digest quorum found
    exact ⟨signers, signatures, ballot, mem_append_left _ mem, same, delta⟩

structure Won (lib : Libraries) (i : Initiator)
    (ballots : List (Ballot Bytes32 Bytes Vote)) (digest : Bytes32) (result : Result) : Prop where
  usable : ∀ ballot ∈ ballots, IsBallot lib i ballot
  anchor : result.anchor = i.request.anchor
  delta : ∃ ballot ∈ ballots, ballot.choice = digest ∧ ballot.paper.delta = result.delta
  signatures : result.endorsements = (counted ballots digest).map fun ballot => ballot.paper.signature
  enough : i.threshold ≤ result.endorsements.length

theorem is_ballot_snoc (usable : ∀ ballot ∈ ballots, IsBallot lib i ballot) (last : i.Usable lib vote) :
    ∀ ballot ∈ ballots ++ [ballotOf vote], IsBallot lib i ballot := by
  intro ballot mem
  rcases mem_append.mp mem with earlier | here
  · exact usable ballot earlier
  · exact ⟨vote, last, mem_singleton.mp here⟩

section

variable (tallied : i.Tallied lib ballots state) (usable : i.Usable lib vote)
include tallied usable

theorem tallied_repeated (again : vote.signer ∈ (counted ballots vote.digest).map Ballot.voter)
    (same : next.agreed = state.agreed) : i.Tallied lib (ballots ++ [ballotOf vote]) next := by
  have unchanged : ∀ digest, counted (ballots ++ [ballotOf vote]) digest = counted ballots digest :=
    fun digest => counted_snoc_repeated again
  constructor
  · exact is_ballot_snoc tallied.usable usable
  · intro digest quorum found
    rw [same] at found
    obtain ⟨signers, signatures, ballot, mem, choice, delta⟩ := tallied.held digest quorum found
    refine ⟨?_, ?_, ballot, mem_append_left _ mem, choice, delta⟩
    · rw [unchanged, signers]
    · rw [unchanged, signatures]
  · intro digest found
    rw [unchanged]
    exact tallied.rest digest (by rwa [same] at found)
  · intro digest
    rw [unchanged]
    exact tallied.below digest

theorem tallied_joined {quorum : Agreement} (holds : Holds (ballots ++ [ballotOf vote]) vote.digest quorum)
    (few : (quorum.signatures.length : Int) < i.threshold) (joined : next.agreed = state.agreed.insert vote.digest quorum) :
    i.Tallied lib (ballots ++ [ballotOf vote]) next := by
  have others : ∀ digest, digest ≠ vote.digest → counted (ballots ++ [ballotOf vote]) digest = counted ballots digest :=
    fun digest other => counted_snoc_other (Ne.symm other)
  constructor
  · exact is_ballot_snoc tallied.usable usable
  · intro digest known found
    rw [joined] at found
    by_cases other : digest = vote.digest
    · subst other
      rw [AList.lookup_insert, Option.some.injEq] at found
      exact found ▸ holds
    · rw [AList.lookup_insert_ne other] at found
      obtain ⟨signers, signatures, ballot, mem, choice, delta⟩ := tallied.held digest known found
      refine ⟨?_, ?_, ballot, mem_append_left _ mem, choice, delta⟩
      · rw [others digest other, signers]
      · rw [others digest other, signatures]
  · intro digest found
    rw [joined] at found
    by_cases other : digest = vote.digest
    · subst other
      simp at found
    · rw [AList.lookup_insert_ne other] at found
      rw [others digest other, tallied.rest digest found]
  · intro digest
    by_cases other : digest = vote.digest
    · subst other
      right
      simpa [holds.signatures] using few
    · rw [others digest other]
      exact tallied.below digest

end

theorem count_cases (texts : IdentityTexts) (party : Bytes) (tallied : i.Tallied lib ballots state) (usable : i.Usable lib vote) :
    (∃ result, i.count texts state party vote = .inl result ∧ i.Won lib (ballots ++ [ballotOf vote]) vote.digest result) ∨
    (∃ next, i.count texts state party vote = .inr next ∧ i.Tallied lib (ballots ++ [ballotOf vote]) next) := by
  obtain ⟨signers, signatures, delta⟩ := joined_holds tallied vote
  unfold count
  generalize (state.agreed.lookup vote.digest).getD { delta := vote.delta, signatures := [], signers := [] } = quorum at *
  by_cases again : vote.signer ∈ quorum.signers
  · simp only [if_pos again]
    exact .inr ⟨_, rfl, tallied_repeated tallied usable (signers ▸ again) rfl⟩
  · simp only [if_neg again]
    have grown : counted (ballots ++ [ballotOf vote]) vote.digest = counted ballots vote.digest ++ [ballotOf vote] :=
      counted_snoc_fresh (signers ▸ again)
    have holds : Holds (ballots ++ [ballotOf vote]) vote.digest
        { quorum with signatures := quorum.signatures ++ [vote.signature], signers := quorum.signers ++ [vote.signer] } := by
      refine ⟨?_, ?_, delta⟩
      · rw [grown, map_append, ← signers]
        rfl
      · rw [grown, map_append, ← signatures]
        rfl
    split
    · rename_i enough
      exact .inl ⟨_, rfl, is_ballot_snoc tallied.usable usable, rfl, holds.delta, holds.signatures, enough⟩
    · rename_i few
      exact .inr ⟨_, rfl, tallied_joined tallied usable holds (not_le.mp few) rfl⟩

theorem weigh_cases (texts : IdentityTexts) (read : anchorFromTxID i.request.anchor = .ok anchor)
    (tallied : i.Tallied lib ballots state) (party : Bytes) (reply : Outcome EndorseResponse) :
    (∃ result digest more, i.weigh lib texts anchor state party reply = .inl result ∧ i.Won lib more digest result) ∨
    (∃ next more, i.weigh lib texts anchor state party reply = .inr next ∧ i.Tallied lib more next ∧ ballots ⊆ more ∧
      ∀ vote, i.examine lib anchor reply = .ok vote → ballotOf vote ∈ more) := by
  unfold weigh
  cases passed : i.examine lib anchor reply with
  | error decline =>
    refine .inr ⟨_, ballots, rfl, ⟨tallied.usable, tallied.held, tallied.rest, tallied.below⟩, List.Subset.refl _, ?_⟩
    intro vote impossible
    cases impossible
  | ok vote =>
    rcases count_cases texts party tallied (examine_ok read passed) with
      ⟨result, found, won⟩ | ⟨next, counted, after⟩
    · exact .inl ⟨result, _, _, found, won⟩
    · refine .inr ⟨next, _, counted, after, subset_append_left _ _, ?_⟩
      simp

def Pending (lib : Libraries) (i : Initiator) (anchor : Bytes32) (done : Nat → Option String)
    (endorse : Nat → Bytes → Outcome EndorseResponse) (turn : Nat) (parties : List Bytes) (vote : Vote) : Prop :=
  ∃ j party, parties[j]? = some party ∧ (∀ k ≤ j, done (turn + k) = none) ∧
    i.examine lib anchor (endorse (turn + j) party) = .ok vote

theorem pending_cons {turn : Nat} {parties : List Bytes}
    (pending : i.Pending lib anchor done endorse turn (party :: parties) vote) :
    done turn = none ∧ (i.examine lib anchor (endorse turn party) = .ok vote ∨
      i.Pending lib anchor done endorse (turn + 1) parties vote) := by
  obtain ⟨j, asked, found, going, passed⟩ := pending
  refine ⟨going 0 (Nat.zero_le j), ?_⟩
  cases j with
  | zero =>
    obtain rfl : party = asked := by simpa using found
    exact .inl passed
  | succ j =>
    have next : turn + (j + 1) = turn + 1 + j := by omega
    refine .inr ⟨j, asked, by simpa using found, fun k bound => ?_, next ▸ passed⟩
    have later := going (k + 1) (by omega)
    rwa [show turn + (k + 1) = turn + 1 + k by omega] at later

theorem collect_from_sound (read : anchorFromTxID i.request.anchor = .ok anchor) (parties : List Bytes) :
    ∀ (turn : Nat) (ballots : List (Ballot Bytes32 Bytes Vote)) (state : Collection), i.Tallied lib ballots state →
      i.collectFrom lib texts done endorse anchor turn state parties = .ok result →
      ∃ more digest, i.Won lib more digest result := by
  induction parties with
  | nil =>
    intro turn ballots state tallied found
    cases found
  | cons party parties ih =>
    intro turn ballots state tallied found
    rw [collectFrom] at found
    cases ended : done turn with
    | some cause =>
      rw [ended] at found
      cases found
    | none =>
      rw [ended] at found
      rcases weigh_cases texts read tallied party (endorse turn party) with
        ⟨answer, digest, more, weighed, won⟩ | ⟨next, more, weighed, after, _, _⟩
      · simp only [weighed, Except.ok.injEq] at found
        exact ⟨more, digest, found ▸ won⟩
      · simp only [weighed] at found
        exact ih (turn + 1) more next after found

theorem tallied_short (digest : Bytes32) (positive : 1 ≤ i.threshold) (tallied : i.Tallied lib ballots state)
    (distinct : voters.Nodup) (enough : i.threshold ≤ voters.length) :
    ∃ voter ∈ voters, ∀ ballot ∈ ballots, ballot.choice = digest → ballot.voter ≠ voter := by
  by_contra all
  push Not at all
  have voted : ∀ voter ∈ voters, ∃ ballot ∈ ballots, ballot.choice = digest ∧ ballot.voter = voter := all
  have counts := voters_le_counted distinct voted
  rcases tallied.below digest with none | few
  · rw [none, length_nil] at counts
    omega
  · omega

theorem collect_from_robust (digest : Bytes32) (positive : 1 ≤ i.threshold) (read : anchorFromTxID i.request.anchor = .ok anchor)
    (distinct : voters.Nodup) (enough : i.threshold ≤ voters.length) (parties : List Bytes) :
    ∀ (turn : Nat) (ballots : List (Ballot Bytes32 Bytes Vote)) (state : Collection), i.Tallied lib ballots state →
      (∀ voter ∈ voters, (∃ ballot ∈ ballots, ballot.choice = digest ∧ ballot.voter = voter) ∨
        ∃ vote, i.Pending lib anchor done endorse turn parties vote ∧ vote.digest = digest ∧ vote.signer = voter) →
      ∃ result, i.collectFrom lib texts done endorse anchor turn state parties = .ok result := by
  induction parties with
  | nil =>
    intro turn ballots state tallied expected
    obtain ⟨voter, mem, missing⟩ := tallied_short digest positive tallied distinct enough
    rcases expected voter mem with ⟨ballot, cast, choice, same⟩ | ⟨vote, ⟨j, party, found, _⟩, _⟩
    · exact absurd same (missing ballot cast choice)
    · simp at found
  | cons party parties ih =>
    intro turn ballots state tallied expected
    obtain ⟨voter, mem, missing⟩ := tallied_short digest positive tallied distinct enough
    have going : done turn = none := by
      rcases expected voter mem with ⟨ballot, cast, choice, same⟩ | ⟨vote, pending, _⟩
      · exact absurd same (missing ballot cast choice)
      · exact (pending_cons pending).1
    rw [collectFrom, going]
    rcases weigh_cases texts read tallied party (endorse turn party) with
      ⟨answer, _, _, weighed, _⟩ | ⟨next, more, weighed, after, kept, added⟩
    · exact ⟨answer, by simp only [weighed]⟩
    · simp only [weighed]
      refine ih (turn + 1) more next after fun voter mem => ?_
      rcases expected voter mem with ⟨ballot, cast, rest⟩ | ⟨vote, pending, choice, same⟩
      · exact .inl ⟨ballot, kept cast, rest⟩
      · rcases (pending_cons pending).2 with now | later
        · exact .inl ⟨ballotOf vote, added vote now, choice, same⟩
        · exact .inr ⟨vote, later, choice, same⟩

end Tally

section Collect

open Quorum

variable {lib : Libraries} {texts : IdentityTexts} {i : Initiator}
  {done : Nat → Option String} {endorse : Nat → Bytes → Outcome EndorseResponse} {result : Result}

structure Endorsed (lib : Libraries) (i : Initiator) (result : Result) : Prop where
  anchor : result.anchor = i.request.anchor
  bound : i.Bound result.delta
  enough : i.threshold ≤ result.endorsements.length
  signers : ∃ signers : List Address, List.Forall₂ (fun sig signer => recoverAddress lib
      (Eip712.digest lib.keccak256 i.domain result.delta) sig = .ok signer) result.endorsements signers ∧
    signers.Nodup ∧ ∀ signer ∈ signers, i.registry.isEndorser signer = true

theorem won_endorsed {ballots : List (Ballot Bytes32 Bytes Vote)}
    (won : i.Won lib ballots digest result) : i.Endorsed lib result := by
  obtain ⟨first, mem, choice, carried⟩ := won.delta
  obtain ⟨vote, usable, rfl⟩ := won.usable first mem
  have digested : digest = Eip712.digest lib.keccak256 i.domain result.delta := by
    rw [← choice, ← carried]
    exact usable.digest
  obtain ⟨cast, distinct⟩ := counted_spec ballots digest
  have signed : ∀ ballot ∈ counted ballots digest, ∃ address : Address,
      recoverAddress lib digest ballot.paper.signature = .ok address ∧
        i.registry.isEndorser address = true ∧ ballot.voter = address.hex := by
    intro ballot counts
    obtain ⟨inside, same⟩ := cast ballot counts
    obtain ⟨other, fine, rfl⟩ := won.usable ballot inside
    exact same ▸ fine.signed
  obtain ⟨signers, all⟩ := forall₂_exists signed
  refine ⟨won.anchor, carried ▸ usable.bound, won.enough, signers, ?_, ?_, ?_⟩
  · rw [won.signatures, forall₂_map_left_iff, ← digested]
    exact all.imp fun _ _ one => one.1
  · have texts : (counted ballots digest).map Ballot.voter = signers.map Address.hex := by
      rw [← forall₂_eq_eq_eq, forall₂_map_left_iff, forall₂_map_right_iff]
      exact all.imp fun _ _ one => one.2.2
    exact (texts ▸ distinct).of_map _
  · exact (forall_mem_through all fun _ _ one => ⟨fun _ => trivial, fun _ => one.2.1⟩).mpr fun _ _ => trivial

theorem tallied_nothing : i.Tallied lib [] { agreed := ∅, declined := [], causes := [] } :=
  ⟨by simp, by simp, by simp [counted], by simp [counted]⟩

theorem collect_endorsed (collected : i.collect lib texts done endorse = .ok result) : i.Endorsed lib result := by
  simp only [collect, ok_iff, map_error_ok_iff] at collected
  obtain ⟨anchor, read, found⟩ := collected
  obtain ⟨ballots, digest, won⟩ := collect_from_sound read _ _ _ _ tallied_nothing found
  exact won_endorsed won

def Endorses (lib : Libraries) (i : Initiator)
    (done : Nat → Option String) (endorse : Nat → Bytes → Outcome EndorseResponse) (delta : StateDelta) (place : Nat) : Prop :=
  ∃ endorser resp, i.registry.endorsers[place]? = some endorser ∧ (∀ turn ≤ place, done turn = none) ∧
    endorse place endorser.identity = .ok resp ∧ resp.err = "" ∧ resp.delta = some delta ∧
    recoverAddress lib (Eip712.digest lib.keccak256 i.domain delta) resp.signature = .ok endorser.address

theorem endorses_pending {place : Nat} (bound : i.Bound delta)
    (known : ∀ address, i.registry.isEndorser address = true ↔ address ∈ i.registry.addresses)
    (endorses : i.Endorses lib done endorse delta place) :
    ∃ address vote, i.registry.addresses[place]? = some address ∧
      i.Pending lib delta.anchor done endorse 0 i.registry.identities vote ∧
      vote.digest = Eip712.digest lib.keccak256 i.domain delta ∧ vote.signer = address.hex := by
  obtain ⟨endorser, resp, found, going, answered, fine, carried, recovered⟩ := endorses
  have registered : i.registry.isEndorser endorser.address = true :=
    (known _).mpr (mem_map_of_mem (mem_of_getElem? found))
  have passed := examine_signed bound fine carried registered recovered
  have asked : i.registry.identities[place]? = some endorser.identity := by simp [identities, found]
  exact ⟨endorser.address, _, by simp [addresses, found],
    ⟨place, endorser.identity, asked, by simpa using going, by rw [Nat.zero_add, answered, passed]⟩, rfl, rfl⟩

theorem collect_robust {places : List Nat} (positive : 1 ≤ i.threshold) (bound : i.Bound delta)
    (known : ∀ address, i.registry.isEndorser address = true ↔ address ∈ i.registry.addresses)
    (distinct : i.registry.addresses.Nodup) (apart : places.Nodup) (enough : i.threshold ≤ places.length)
    (each : ∀ place ∈ places, i.Endorses lib done endorse delta place) :
    ∃ result, i.collect lib texts done endorse = .ok result := by
  have pending := fun place mem => endorses_pending bound known (each place mem)
  let voterAt := fun place : Nat => ((i.registry.addresses[place]?).map Address.hex).getD []
  have separate : (places.map voterAt).Nodup := by
    refine List.Nodup.map_on (fun place mem other mem' same => ?_) apart
    obtain ⟨address, _, found, _⟩ := pending place mem
    obtain ⟨address', _, found', _⟩ := pending other mem'
    simp only [voterAt, found, found', Option.map_some, Option.getD_some] at same
    obtain rfl := address_hex_injective same
    exact (List.getElem?_inj (List.getElem?_eq_some_iff.mp found).1 distinct).mp (found.trans found'.symm)
  have found : ∃ result, i.collectFrom lib texts done endorse delta.anchor 0
      { agreed := ∅, declined := [], causes := [] } i.registry.identities = .ok result := by
    refine collect_from_robust (digest lib.keccak256 i.domain delta) positive bound.anchor separate
      (by simpa using enough) _ 0 [] _ tallied_nothing fun voter mem => .inr ?_
    obtain ⟨place, chosen, rfl⟩ := mem_map.mp mem
    obtain ⟨address, vote, found, votes, digested, signer⟩ := pending place chosen
    exact ⟨vote, votes, digested, by simp [voterAt, found, signer]⟩
  obtain ⟨result, found⟩ := found
  refine ⟨result, ?_⟩
  simp only [collect, ok_iff, map_error_ok_iff]
  exact ⟨delta.anchor, bound.anchor, found⟩

end Collect

end Initiator

section Service

variable {V : Type} {registry : Registry} {threshold : Int} {domain : Domain} {viewManager : Option V} {service : Service V}

theorem service_new_ok (made : Service.new (some registry) threshold domain viewManager = .ok service) :
    service.registry = registry ∧ service.threshold = threshold ∧ service.domain = domain ∧ 1 ≤ threshold ∧
      threshold ≤ registry.endorsers.length := by
  simp only [Service.new, ok_iff, Option.some.injEq, exists_eq_left', not_or, not_lt] at made
  obtain ⟨_, ⟨positive, bounded⟩, _, _, rfl⟩ := made
  exact ⟨rfl, rfl, rfl, positive, by omega⟩

end Service

def contractDigest (keccak256 : Hash) (domain : Domain) (delta : StateDelta) : Bytes32 :=
  Contract.digest keccak256
    (Contract.domainSeparator keccak256 (Contract.uint256 (domain.chainID.getD 0)) domain.verifyingContract)
    (Contract.hashStruct keccak256 delta)

theorem collection_sound_and_robust {V : Type} (lib : Libraries) (ecrecover : Ecrecover) (same : SameRecovery lib ecrecover)
    (texts : IdentityTexts) (endorsers : List Endorser) (registry : Registry) (built : new texts endorsers = .ok registry)
    (threshold : Int) (domain : Domain) (viewManager : Option V) (service : Service V)
    (made : Service.new (some registry) threshold domain viewManager = .ok service) (request : EndorseRequest)
    (done : Nat → Option String) (endorse : Nat → Bytes → Outcome EndorseResponse) :
    (∀ result, (service.initiator request).collect lib texts done endorse = .ok result →
      (service.initiator request).Endorsed lib result ∧ ∃ verifier, construct registry.addresses threshold.toNat = .ok verifier ∧
        EndorsementVerifier.verify ecrecover verifier (contractDigest lib.keccak256 domain result.delta) result.endorsements =
          .ok true) ∧
    (∀ (delta : StateDelta) (places : List Nat), (service.initiator request).Bound delta → places.Nodup → threshold ≤ places.length →
      (∀ place ∈ places, (service.initiator request).Endorses lib done endorse delta place) →
      ∃ result, (service.initiator request).collect lib texts done endorse = .ok result) := by
  obtain ⟨known, distinct, nonzero⟩ := new_ok built
  obtain ⟨rfl, rfl, rfl, positive, bounded⟩ := service_new_ok made
  refine ⟨fun result collected => ?_, fun delta places bound apart enough each => ?_⟩
  · have endorsed := Initiator.collect_endorsed collected
    have deployable : construct service.registry.addresses service.threshold.toNat = .ok
        { isEndorser := fun a => decide (a ∈ service.registry.addresses), endorsers := service.registry.addresses
          threshold := service.threshold.toNat } :=
      construct_ok_iff.mpr ⟨⟨by omega, by simp only [addresses, length_map]; omega⟩, nonzero, distinct, rfl⟩
    obtain ⟨signers, signed, apart, registered⟩ := endorsed.signers
    have enough : service.threshold.toNat ≤ result.endorsements.length := Int.toNat_le.mpr endorsed.enough
    refine ⟨endorsed, _, deployable, (accepted_iff deployable).mpr ⟨enough, signers, ?_, ?_, apart⟩⟩
    · rw [contractDigest, digest_eq]
      exact signed.imp fun _ _ one => recover_address_signed same one
    · exact fun signer mem => (known signer).mp (registered signer mem)
  · exact Initiator.collect_robust positive bound known distinct apart enough each

namespace OneDown

open TwoOfThree (bound sigOf)

def key (signer : Bytes32) : Bytes := 4 :: (bytes32 signer ++ List.replicate 32 0)

-- The key of a signature is found for the digest that it is bound to.
def recoverCompact (compact : Bytes) (digest : Bytes32) : Outcome Bytes := do
  ensure (compact.length = 65) "invalid compact signature size"
  ensure (compact.drop 33 = bytes32 (bound digest)) "invalid signature: failed to recover the public key"
  return key (ofBytes32 ((compact.drop 1).take 32))

def lib : Libraries := { keccak256 := checksum256, recoverCompact }

def ecrecover : Ecrecover := fun digest v r s =>
  (recoverCompact (v :: (bytes32 r ++ bytes32 s)) digest).toOption.map (pubKeyToAddress lib)

def texts : IdentityTexts := { text := render, uniqueID := render }

def address (signer : Bytes32) : Address := pubKeyToAddress lib (key signer)

def endorsersAt (a b c : Address) : List Endorser := [⟨[1], a⟩, ⟨[2], b⟩, ⟨[3], c⟩]

def registryAt (a b c : Address) : Registry :=
  { byAddress := Function.update (Function.update (Function.update (fun _ => none) a (some [1])) b (some [2])) c (some [3])
    endorsers := endorsersAt a b c }

theorem registered {a b c : Address} (nonzero : a ≠ 0 ∧ b ≠ 0 ∧ c ≠ 0) (distinct : b ≠ a ∧ c ≠ a ∧ c ≠ b) :
    new texts (endorsersAt a b c) = .ok (registryAt a b c) := by
  simp only [new, add, endorsersAt, foldEach, ok_iff]
  refine ⟨(), by simp, _, ⟨_, ⟨(), by decide, (), nonzero.1, (), trivial, (), by decide, rfl⟩,
    _, ⟨(), by decide, (), nonzero.2.1, (), ?_, (), (by decide : texts.uniqueID [2] ∉ [texts.uniqueID [1]]), rfl⟩,
    _, ⟨(), by decide, (), nonzero.2.2, (), ?_, (),
      (by decide : texts.uniqueID [3] ∉ [texts.uniqueID [1], texts.uniqueID [2]]), rfl⟩, rfl⟩, rfl⟩
  · simp [distinct.1]
  · simp [distinct.2.1, distinct.2.2]

def endorsers : List Endorser := endorsersAt (address 1) (address 2) (address 3)

def registry : Registry := registryAt (address 1) (address 2) (address 3)

def domain : Domain := { chainID := some 1, verifyingContract := 9 }

def service : Service Unit := { registry, threshold := 2, domain, viewManager := () }

def request : EndorseRequest :=
  { kind := .approval, publicParamsRaw := [], anchor := List.replicate 63 0x30 ++ [0x31] }

def delta : StateDelta := OneOutput.delta

def answer (signer : Bytes32) : EndorseResponse :=
  { delta := some delta, signature := sigOf signer (digest checksum256 domain delta), err := "" }

def endorse (turn : Nat) (_ : Bytes) : Outcome EndorseResponse :=
  if turn = 0 then .error "connection refused" else .ok (answer (BitVec.ofNat 256 (turn + 1)))

theorem two_of_three_collected :
    ∃ result, (service.initiator request).collect lib texts (fun _ => none) endorse = .ok result ∧
      (service.initiator request).Endorsed lib result ∧ ∃ verifier, construct registry.addresses 2 = .ok verifier ∧
        EndorsementVerifier.verify ecrecover verifier (contractDigest checksum256 domain result.delta) result.endorsements =
          .ok true := by
  obtain ⟨sound, robust⟩ := collection_sound_and_robust lib ecrecover (fun _ _ _ _ _ => rfl) texts endorsers
    registry (registered (by decide +kernel) (by decide +kernel)) 2 domain (some ()) service rfl request (fun _ => none) endorse
  obtain ⟨result, collected⟩ := robust delta [1, 2] ⟨by decide +kernel, by decide, by decide, by decide⟩ (by decide)
    (by decide) (by
      intro place mem
      have cases : place = 1 ∨ place = 2 := by simpa using mem
      rcases cases with rfl | rfl
      · exact ⟨⟨[2], address 2⟩, answer (BitVec.ofNat 256 2), rfl, fun _ _ => rfl, rfl, rfl, rfl, by decide +kernel⟩
      · exact ⟨⟨[3], address 3⟩, answer (BitVec.ofNat 256 3), rfl, fun _ _ => rfl, rfl, rfl, rfl, by decide +kernel⟩)
  obtain ⟨endorsed, accepted⟩ := sound result collected
  exact ⟨result, collected, endorsed, accepted⟩

end OneDown

end Panurus.Evm
