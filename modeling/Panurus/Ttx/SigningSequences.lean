import Panurus.Ttx.SigningSteps

namespace Panurus.Ttx

open List Lib Outcome Descent Tally Core Driver Client Identity SignatureRequest

def occurrences (party id : Identity) : Nat := (componentsOf id).elim (if id = party then 1 else 0) (List.count party)

variable {id : Identity} {res required : List Identity} {r : Request}

section Flattening

variable {e : Endorser} {signer : Identity} {mine : Identity → Bool}

theorem unwrap_other_type {α : Type} {type : Int32} {content : Asn1Type α} {text : String} {ti : TypedIdentity}
    (typed : unmarshalTypedIdentity id = .ok ti) (other : ti.type ≠ type) : unwrapAs type content text id = .ok none :=
  unwrap_as_ok_iff.mpr ⟨ti, typed, .inl ⟨other, rfl⟩⟩

theorem components_of_untyped (untyped : typeOf id = none) : componentsOf id = none := by
  have unreadable : ∀ ti, unmarshalTypedIdentity id ≠ .ok ti := by
    intro ti typed
    rw [typeOf, typed] at untyped
    cases untyped
  have no_multisig : ∀ answer, Multisig.unwrap id ≠ .ok answer := fun answer unwrapped => by
    obtain ⟨ti, typed, -⟩ := unwrap_as_ok_iff.mp unwrapped
    exact unreadable ti typed
  have no_policy : ∀ answer, Boolpolicy.unwrap id ≠ .ok answer := fun answer unwrapped => by
    obtain ⟨ti, typed, -⟩ := unwrap_as_ok_iff.mp unwrapped
    exact unreadable ti typed
  rw [componentsOf]
  split
  · rename_i unwrapped
    exact absurd unwrapped (no_multisig _)
  · split
    · rename_i unwrapped
      exact absurd unwrapped (no_policy _)
    · rfl

structure Added (signer : Identity) (added : List Identity) : Prop where
  within : ∀ id ∈ added, Within [signer] id
  count : ∀ party, componentsOf party = none → added.count party = occurrences party signer

theorem added_self (plain : componentsOf signer = none) : Added signer [signer] where
  within id mem := .here mem
  count party _ := by
    rw [occurrences, plain, Option.elim_none, count_singleton]
    simp

theorem added_components {components : List Identity} (unwrapped : componentsOf signer = some components) :
    Added signer components where
  within id mem := .inside (mem_singleton_self _) unwrapped (.here mem)
  count party _ := by rw [occurrences, unwrapped, Option.elim_some]

theorem added_empty (unwrapped : componentsOf signer = some []) : Added signer [signer] where
  within id mem := .here mem
  count party plain := by
    have other : signer ≠ party := by
      rintro rfl
      cases unwrapped.symm.trans plain
    rw [occurrences, unwrapped, Option.elim_some, count_nil, count_singleton, if_neg (by simpa using other)]

theorem append_signer_ok {next : List Identity} (done : appendSigner e res signer = .ok next) :
    ∃ added, next = res ++ added ∧ Added signer added := by
  simp only [appendSigner, ok_iff, Prod.exists] at done
  obtain ⟨unwrapped, res', appended, rfl⟩ := done
  simp only [appendUnwrapped] at appended
  cases type : typeOf signer with
  | none =>
    rw [type] at appended
    cases appended
    exact ⟨[signer], rfl, added_self (components_of_untyped type)⟩
  | some idType =>
    obtain ⟨ti, typed, rfl⟩ := type_of_eq_some.mp type
    rw [type] at appended
    by_cases multisig : ti.type = multiSigIdentityType
    · simp only [if_pos multisig, ok_iff] at appended
      obtain ⟨answer, unwrapping, same⟩ := appended
      obtain ⟨_, typed', ⟨other, -⟩ | ⟨-, components, -, rfl⟩⟩ := unwrap_as_ok_iff.mp unwrapping
      · obtain rfl := Except.ok.inj (typed.symm.trans typed')
        exact absurd multisig other
      · have composite := components_of_multisig unwrapping
        by_cases empty : components = []
        · rw [Option.getD_some, if_pos empty] at same
          cases same
          exact ⟨[signer], rfl, added_empty (empty ▸ composite)⟩
        · rw [Option.getD_some, if_neg empty] at same
          cases same
          exact ⟨components, rfl, added_components composite⟩
    · have single : Multisig.unwrap signer = .ok none := unwrap_other_type typed multisig
      by_cases policy : ti.type = policyIdentityType
      · simp only [if_neg multisig, if_pos policy, ok_iff] at appended
        obtain ⟨_, unwrapping, pi, rfl, same⟩ := appended
        cases same
        exact ⟨pi.2, rfl, added_components (components_of_policy single unwrapping)⟩
      · simp only [if_neg multisig, if_neg policy] at appended
        cases appended
        exact ⟨[signer], rfl, added_self (components_of_plain single (unwrap_other_type typed policy))⟩

structure Flattened (signers res : List Identity) : Prop where
  within : ∀ id ∈ res, Within signers id
  count : ∀ party, componentsOf party = none → res.count party = tally (occurrences party) signers

theorem flattened_of_fold {signers : List Identity} (done : signers.foldlM (appendSigner e) [] = .ok res) :
    Flattened signers res := by
  refine foldlM_invariant (fun signers res => Flattened signers res) ?_ ⟨fun _ mem => (not_mem_nil mem).elim, fun _ _ => rfl⟩ done
  intro before res signer next holds appending
  obtain ⟨added, rfl, adds⟩ := append_signer_ok appending
  constructor
  · intro id mem
    rcases mem_append.mp mem with earlier | now
    · exact (holds.within id earlier).mono (subset_append_left _ _)
    · exact (adds.within id now).mono (subset_append_right _ _)
  · intro party plain
    rw [count_append, holds.count party plain, adds.count party plain, tally_append, tally_cons, tally_nil, Nat.add_zero]

theorem filtered_of_fold (known : ∀ id ∈ res, e.isMe id = .ok (mine id))
    (done : res.foldlM (appendIfMe e) [] = .ok required) : required = res.filter mine := by
  refine foldlM_invariant (fun before subset => before <+: res → subset = before.filter mine) ?_ (fun _ => rfl) done
    (prefix_refl res)
  intro before subset id next holds appending reached
  have mem : id ∈ res := reached.subset (mem_append_right _ (mem_singleton_self _))
  simp only [appendIfMe, known id mem, ok_iff, Except.ok.injEq, exists_eq_left'] at appending
  rw [filter_append, ← holds ((prefix_append before [id]).trans reached), ← appending]
  cases here : mine id with
  | true => rw [if_pos rfl, filter_cons_of_pos here, filter_nil]
  | false => rw [if_neg Bool.false_ne_true, filter_cons_of_neg (Bool.eq_false_iff.mp here), filter_nil, append_nil]

theorem extract_ok (known : ∀ id, Within (r.issueSigners ++ r.transferSigners) id → e.isMe id = .ok (mine id))
    (done : extractRequiredSigners e r = .ok required) :
    ∃ res, Flattened (r.issueSigners ++ r.transferSigners) res ∧ required = res.filter mine := by
  simp only [extractRequiredSigners, bind_ok_iff] at done
  obtain ⟨issued, issues, res, transfers, filtering⟩ := done
  have folded : (r.issueSigners ++ r.transferSigners).foldlM (appendSigner e) [] = .ok res := by
    rw [foldlM_append, bind_ok_iff]
    exact ⟨issued, issues, transfers⟩
  have flattened := flattened_of_fold folded
  exact ⟨res, flattened, filtered_of_fold (fun id mem => known id (flattened.within id mem)) filtering⟩

end Flattening

section Handling

variable {e : Endorser} {fromSignatureRequest : Option SignatureRequest} {numRequiredSigners index : Nat}
  {tokenRequestToSign : Bytes} {session : List SignatureRequest}

def Signs (e : Endorser) (tokenRequestToSign : Bytes) (id : Identity) : Prop :=
  ∃ sign sigma, e.getSigner id = .ok sign ∧ sign tokenRequestToSign = .ok sigma

-- A loop of the endorser that returns after as many signatures as there are requests.
def AnswersAll (handle : Nat → Identity → List SignatureRequest → Outcome (Bytes × List SignatureRequest)) (index : Nat)
    (required : List Identity) (session : List SignatureRequest) (requests : Nat) : Prop :=
  ∃ sigmas, handleEach handle index required session = .ok sigmas ∧ sigmas.length = requests

theorem handle_cons_iff {requests : Nat} {rest : List Identity} {session' : List SignatureRequest} {request : SignatureRequest}
    (signs : Signs e tokenRequestToSign id)
    (received : receiveSignatureRequest index fromSignatureRequest session = .ok (request, session')) :
    AnswersAll (handleSignatureRequestFor e fromSignatureRequest numRequiredSigners tokenRequestToSign) index (id :: rest) session
        (requests + 1) ↔ request.signer = id ∧
        AnswersAll (handleSignatureRequestFor e fromSignatureRequest numRequiredSigners tokenRequestToSign) (index + 1) rest
          session' requests := by
  obtain ⟨sign, sigma, found, signed⟩ := signs
  simp only [AnswersAll, handleEach, handleSignatureRequestFor, received, found, ok_iff, Prod.exists, Prod.mk.injEq,
    Except.ok.injEq]
  constructor
  · rintro ⟨_, ⟨_, _, ⟨_, _, ⟨rfl, rfl⟩, _, named, _, _, _, _, rfl, rfl⟩, sigmas, handled, rfl⟩, count⟩
    exact ⟨named, sigmas, handled, Nat.succ.inj count⟩
  · rintro ⟨named, sigmas, handled, rfl⟩
    exact ⟨sigma :: sigmas, ⟨sigma, session', ⟨request, session', ⟨rfl, rfl⟩, (), named, sign, rfl, sigma, signed, rfl, rfl⟩,
      sigmas, handled, rfl⟩, rfl⟩

theorem handle_later_iff (signs : ∀ id ∈ required, Signs e tokenRequestToSign id) :
    AnswersAll (handleSignatureRequestFor e fromSignatureRequest numRequiredSigners tokenRequestToSign) (index + 1) required session
        session.length ↔ session.map signer = required := by
  induction required generalizing index session with
  | nil => cases session <;> simp [AnswersAll, handleEach]
  | cons id rest ih =>
    obtain ⟨first, later⟩ := forall_mem_cons.mp signs
    cases session with
    | nil => simp [AnswersAll, handleEach, handleSignatureRequestFor, receiveSignatureRequest, bind_ok_iff]
    | cons request session =>
      rw [length_cons, handle_cons_iff first rfl, ih later, map_cons, cons.injEq]

theorem handle_all_iff {requests : List SignatureRequest} (signs : ∀ id ∈ required, Signs e tokenRequestToSign id) :
    AnswersAll (handleSignatureRequestFor e requests.head? numRequiredSigners tokenRequestToSign) 0 required requests.tail
        requests.length ↔ requests.map signer = required := by
  cases required with
  | nil => cases requests <;> simp [AnswersAll, handleEach]
  | cons id rest =>
    obtain ⟨first, later⟩ := forall_mem_cons.mp signs
    cases requests with
    | nil => simp [AnswersAll, handleEach, handleSignatureRequestFor, receiveSignatureRequest, bind_ok_iff]
    | cons request session =>
      rw [length_cons, head?_cons, tail_cons, handle_cons_iff first rfl, handle_later_iff later, map_cons, cons.injEq]

end Handling

section Balance

def repeats (party : Identity) (ids : List Identity) : Nat := ids.count party - 1

def repeated (party : Identity) (signers : List Identity) : Nat :=
  repeats party signers + tally (fun id => (componentsOf id).elim 0 (repeats party)) signers

def nested (party : Identity) (signers : List Identity) : Nat :=
  tally (fun id => (componentsOf id).elim 0 (askedInside party)) signers

theorem count_repeats (party : Identity) (ids : List Identity) :
    ids.count party = (if party ∈ ids then 1 else 0) + repeats party ids := by
  rw [repeats]
  by_cases mem : party ∈ ids
  · have positive := count_pos_iff.mpr mem
    rw [if_pos mem]
    omega
  · rw [if_neg mem, count_eq_zero_of_not_mem mem]

theorem asked_once (party : Identity) (ids : List Identity) :
    asked party ids + repeats party ids = ids.count party + askedInside party ids := by
  rw [asked_eq, askedStep, count_repeats, askedInside]
  omega

variable {party : Identity}

theorem occurrences_balance (plain : componentsOf party = none) (id : Identity) :
    occurrences party id + (componentsOf id).elim 0 (askedInside party) =
      (if id = party then 1 else 0) + (componentsOf id).elim 0 (asked party) + (componentsOf id).elim 0 (repeats party) := by
  cases unwrapped : componentsOf id with
  | none => simp [occurrences, unwrapped]
  | some components =>
    have other : id ≠ party := by
      rintro rfl
      cases unwrapped.symm.trans plain
    have once := asked_once party components
    simp only [occurrences, unwrapped, Option.elim_some, if_neg other]
    omega

theorem flattened_balance (plain : componentsOf party = none) (signers : List Identity) :
    tally (occurrences party) signers + nested party signers = asked party signers + repeated party signers := by
  have inside : tally (occurrences party) signers + nested party signers =
      tally (fun id => if id = party then 1 else 0) signers + askedInside party signers +
        tally (fun id => (componentsOf id).elim 0 (repeats party)) signers := by
    induction signers with
    | nil => rfl
    | cons id rest ih =>
      have here := occurrences_balance plain id
      simp only [nested, askedInside, tally_cons] at here ih ⊢
      omega
  have places : tally (fun id => if id = party then 1 else 0) signers = signers.count party := by
    simpa using tally_eq_count some signers party
  have once := asked_once party signers
  rw [inside, places, repeated]
  omega

def NamedOnce (party : Identity) (signers : List Identity) : Prop :=
  signers.count party ≤ 1 ∧ ∀ id ∈ signers, ∀ components, componentsOf id = some components → components.count party ≤ 1

theorem repeated_eq_zero_iff (party : Identity) (signers : List Identity) :
    repeated party signers = 0 ↔ NamedOnce party signers := by
  rw [repeated, Nat.add_eq_zero_iff, tally_eq_zero_iff, NamedOnce]
  refine and_congr Nat.sub_eq_zero_iff_le (forall₂_congr fun id _ => ?_)
  cases unwrapped : componentsOf id with
  | none => simp
  | some components => simp [repeats, Nat.sub_eq_zero_iff_le]

-- Without composite identities inside composite ones the two sides agree exactly if no list names the party twice.
theorem unnested_balance_iff {issues transfers : List Identity}
    (unnested : ∀ id ∈ issues ++ transfers, ∀ components, componentsOf id = some components →
      ∀ inner ∈ components, componentsOf inner = none) :
    repeated party issues + repeated party transfers = nested party issues + nested party transfers ↔
      NamedOnce party issues ∧ NamedOnce party transfers := by
  have none_inside : nested party (issues ++ transfers) = 0 := by
    refine tally_eq_zero_iff.mpr fun id mem => ?_
    cases unwrapped : componentsOf id with
    | none => rfl
    | some components =>
      refine tally_eq_zero_iff.mpr fun inner inside => ?_
      rw [unnested id mem components unwrapped inner inside, Option.elim_none]
  rw [nested, tally_append, ← nested, ← nested] at none_inside
  rw [none_inside, Nat.add_eq_zero_iff, repeated_eq_zero_iff, repeated_eq_zero_iff]

end Balance

-- Each identity that is not composite has a node. The initiator signs for those of its own node, and an endorser knows
-- those of its node for its own; there is one of them on each node but that of the initiator.
structure Placed {ν : Type} [DecidableEq ν] (i : Initiator) (e : ν → Endorser) (node : Identity → ν) (me : ν)
    (signers : List Identity) : Prop where
  initiator : ∀ id, Within signers id → componentsOf id = none → (held i id = true ↔ node id = me)
  endorser : ∀ n, n ≠ me → ∀ id, Within signers id → (e n).isMe id = .ok (decide (componentsOf id = none ∧ node id = n))
  one : ∀ id other, Within signers id → Within signers other → componentsOf id = none → componentsOf other = none →
    node id ≠ me → node id = node other → id = other

def requestsTo {ν : Type} [DecidableEq ν] (node : Identity → ν) (n : ν) (sent : List Message) : List SignatureRequest :=
  (sent.filter fun message => node message.party = n).map Message.request

section Sequences

variable {ν : Type} [DecidableEq ν] {i : Initiator} {e : ν → Endorser} {node : Identity → ν} {me : ν}
  {signers : List Identity} {party : Identity} {sent : List Message}

section

variable (placed : Placed i e node me signers) (within : Within signers party) (plain : componentsOf party = none)
  (remote : node party ≠ me)
include placed within plain remote

theorem on_node_of_party {other : Identity} (other_within : Within signers other) (other_plain : componentsOf other = none) :
    node other = node party ↔ other = party := by
  refine ⟨fun same => ?_, fun same => by rw [same]⟩
  exact (placed.one party other within other_within plain other_plain remote same.symm).symm

theorem requested_sequence (sound : ∀ message ∈ sent, Sound i signers message) :
    (requestsTo node (node party) sent).map signer = replicate (sent.countP fun message => message.party = party) party := by
  have here : ∀ message ∈ sent, node message.party = node party ↔ message.party = party := fun message mem =>
    on_node_of_party placed within plain remote (sound message mem).within (sound message mem).direct.1
  rw [eq_replicate_iff]
  constructor
  · rw [requestsTo, length_map, length_map, ← countP_eq_length_filter]
    exact countP_congr fun message mem => by rw [decide_eq_true_iff, decide_eq_true_iff, here message mem]
  · intro signer mem
    simp only [requestsTo, map_map, mem_map, mem_filter, decide_eq_true_iff] at mem
    obtain ⟨message, ⟨listed, on_node⟩, rfl⟩ := mem
    exact (sound message listed).named.trans ((here message listed).mp on_node)

theorem required_sequence (flattened : Flattened signers res) :
    res.filter (fun id => decide (componentsOf id = none ∧ node id = node party)) =
      replicate (tally (occurrences party) signers) party := by
  have here : ∀ id ∈ res, (componentsOf id = none ∧ node id = node party) ↔ id = party := by
    intro id mem
    constructor
    · rintro ⟨single, same⟩
      exact (on_node_of_party placed within plain remote (flattened.within id mem) single).mp same
    · rintro rfl
      exact ⟨plain, rfl⟩
  rw [← flattened.count party plain, ← filter_beq]
  refine filter_congr fun id mem => ?_
  rw [Bool.eq_iff_iff, decide_eq_true_iff, beq_iff_eq, here id mem]

end

theorem sent_count (unrestricted : i.policySigners = []) (fair : ∀ parties, (i.schedule parties).Perm parties)
    (unique : Set.InjOn i.uniqueID {id | Within (r.issueSigners ++ r.transferSigners) id})
    (collected : collectSignatures i r = .ok sent) :
    (∀ message ∈ sent, Sound i (r.issueSigners ++ r.transferSigners) message) ∧
      ∀ party, Direct i party → sent.countP (fun message => message.party = party) =
        asked party r.issueSigners + asked party r.transferSigners := by
  simp only [collectSignatures, requestSignaturesOnIssues, requestSignaturesOnTransfers, ok_iff] at collected
  obtain ⟨issued, issues, transferred, transfers, rfl⟩ := collected
  have first := subset_append_left r.issueSigners r.transferSigners
  have second := subset_append_right r.issueSigners r.transferSigners
  have issues_accounted := request_accounted unrestricted fair (unique.mono fun _ within => within.mono first) issues
  have transfers_accounted := request_accounted unrestricted fair (unique.mono fun _ within => within.mono second) transfers
  constructor
  · intro message mem
    rcases mem_append.mp mem with early | late
    · exact (issues_accounted.sound message early).mono first
    · exact (transfers_accounted.sound message late).mono second
  · intro party direct
    rw [countP_append, issues_accounted.count party direct, transfers_accounted.count party direct]

end Sequences

-- The two sides agree on a party exactly if its repetitions, which the initiator drops and the endorser counts, weigh up
-- the composite identities inside composite ones, which the initiator unwraps and the endorser does not.
theorem signing_sequences_fit_iff {ν : Type} [DecidableEq ν] (i : Initiator) (e : ν → Endorser) (node : Identity → ν) (me : ν)
    (r : Request) (party : Identity) (sent : List Message) (required : List Identity) (unrestricted : i.policySigners = [])
    (fair : ∀ parties, (i.schedule parties).Perm parties)
    (unique : Set.InjOn i.uniqueID {id | Within (r.issueSigners ++ r.transferSigners) id})
    (placed : Placed i e node me (r.issueSigners ++ r.transferSigners))
    (within : Within (r.issueSigners ++ r.transferSigners) party) (plain : componentsOf party = none) (remote : node party ≠ me)
    (collected : collectSignatures i r = .ok sent) (extracted : extractRequiredSigners (e (node party)) r = .ok required) :
    ((requestsTo node (node party) sent).map signer = required ↔
      repeated party r.issueSigners + repeated party r.transferSigners =
        nested party r.issueSigners + nested party r.transferSigners) ∧
    ∀ raw, (e (node party)).tokenRequestToSign = .ok raw → (∀ id ∈ required, Signs (e (node party)) raw id) →
      ((requestsTo node (node party) sent).map signer = required ↔
        ∃ sigmas, handleSignatureRequests (e (node party)) (requestsTo node (node party) sent).head? r
          (requestsTo node (node party) sent).tail = .ok sigmas ∧
          sigmas.length = (requestsTo node (node party) sent).length) := by
  have direct : Direct i party :=
    ⟨plain, Bool.eq_false_iff.mpr fun at_hand => remote ((placed.initiator party within plain).mp at_hand)⟩
  obtain ⟨sound, count⟩ := sent_count unrestricted fair unique collected
  obtain ⟨res, flattened, filtered⟩ := extract_ok (placed.endorser (node party) remote) extracted
  constructor
  · rw [requested_sequence placed within plain remote sound, filtered,
      required_sequence placed within plain remote flattened, replicate_left_injective party |>.eq_iff, count party direct,
      tally_append]
    have issues := flattened_balance plain r.issueSigners
    have transfers := flattened_balance plain r.transferSigners
    omega
  · intro raw marshalled signs
    rw [← handle_all_iff signs]
    simp only [handleSignatureRequests, extracted, marshalled, ok_iff, Except.ok.injEq, exists_eq_left']
    exact Iff.rfl

-- The owner on node 1 shares the owner `joint` with that on node 2; the initiator is on node 0.
namespace JointOwner

def sender (octet : UInt8) : Identity := encodeIdentity x509IdentityType [octet]

def joint : Identity := encodeIdentity multiSigIdentityType (stringsType.marshal [sender 1, sender 2])

def initiator : Initiator where
  uniqueID := Text.render
  requestRaw := .ok [1]
  txRaw := .ok [2]
  policySigners := []
  externalWalletSigner _ := none
  getSigner _ := none
  answer message := .ok (message.party ++ [1])
  issuerVerifier id := .ok fun message sigma => ensure (sigma = id ++ message) "invalid signature"
  ownerVerifier id := .ok fun message sigma => ensure (sigma = id ++ message) "invalid signature"
  schedule parties := parties

def node (id : Identity) : UInt8 := id.getLastD 0

def endorser (n : UInt8) : Endorser where
  uniqueID := Text.render
  isMe id := .ok (decide (componentsOf id = none ∧ node id = n))
  getSigner id := .ok fun message => .ok (id ++ message)
  tokenRequestToSign := .ok [1]

def input (owner : Identity) : Option TransferInputMetadata :=
  some { tokenID := none, senders := [some { identity := owner, auditInfo := [] }] }

def request (owners : List Identity) : Request :=
  { anchor := [0x61]
    actions := { version := 1, actions := [{ type := .transfer, raw := [1] }], signatures := [] }
    metadata :=
      { actions :=
          [{ actionID := 0
             issueMetadata := none
             transferMetadata := some
               { inputs := owners.map input
                 outputs := []
                 extraSigners := []
                 issuer := { identity := none, auditInfo := [] } } }]
        application := [] } }

def known : List Identity := [sender 1, sender 2, joint]

variable {signers : List Identity}

theorem within_known (within : Within signers id) (all : signers ⊆ known) : id ∈ known := by
  induction within with
  | here mem => exact all mem
  | inside mem unwrapped _ inner =>
    refine inner ?_
    have components : ∀ outer ∈ known, ∀ found, componentsOf outer = some found → found ⊆ known := by decide +kernel
    exact components _ (all mem) _ unwrapped

theorem placed_known (all : signers ⊆ known) : Placed initiator endorser node 0 signers := by
  have remote : ∀ id ∈ known, node id ≠ 0 := by decide +kernel
  have one : ∀ id ∈ known, ∀ other ∈ known, componentsOf id = none → componentsOf other = none → node id = node other → id = other := by
    decide +kernel
  constructor
  · intro id within _
    exact ⟨fun at_hand => (by cases at_hand), fun here => absurd here (remote id (within_known within all))⟩
  · intro _ _ _ _
    rfl
  · intro id other within other_within plain other_plain _ same
    exact one id (within_known within all) other (within_known other_within all) plain other_plain same

theorem unique_known (all : signers ⊆ known) : Set.InjOn initiator.uniqueID {id | Within signers id} := by
  have apart : ∀ id ∈ known, ∀ other ∈ known, initiator.uniqueID id = initiator.uniqueID other → id = other := by decide +kernel
  intro id within other other_within same
  exact apart id (within_known within all) other (within_known other_within all) same

theorem joint_owner_fits :
    (requestsTo node 1 [signatureRequest [2] (sender 1), signatureRequest [2] (sender 2), signatureRequest [2] (sender 1)]).map
      signer = [sender 1, sender 1] := by
  have all : (request [sender 1, joint]).issueSigners ++ (request [sender 1, joint]).transferSigners ⊆ known := by decide +kernel
  exact (signing_sequences_fit_iff initiator endorser node 0 (request [sender 1, joint]) (sender 1) _ _ rfl
    (fun _ => List.Perm.refl _) (unique_known all) (placed_known all) (.here (by decide +kernel)) (by decide +kernel)
    (by decide +kernel) (by decide +kernel) (by decide +kernel)).1.mpr (by decide +kernel)

-- With two inputs of one owner the initiator asks once. The endorser signs, waits for a second request, and fails.
theorem two_inputs_do_not_fit :
    Placed initiator endorser node 0 ((request [sender 1, sender 1]).issueSigners ++ (request [sender 1, sender 1]).transferSigners) ∧
      collectSignatures initiator (request [sender 1, sender 1]) = .ok [signatureRequest [2] (sender 1)] ∧
      extractRequiredSigners (endorser 1) (request [sender 1, sender 1]) = .ok [sender 1, sender 1] ∧
      (requestsTo node 1 [signatureRequest [2] (sender 1)]).map signer ≠ [sender 1, sender 1] ∧
      handleSignatureRequests (endorser 1) (some { tx := [2], signer := sender 1 }) (request [sender 1, sender 1]) [] =
        .error "failed reading signature request" :=
  ⟨placed_known (by decide +kernel), by decide +kernel, by decide +kernel, by decide +kernel, by decide +kernel⟩

end JointOwner

end Panurus.Ttx
