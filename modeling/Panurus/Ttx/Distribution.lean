import Panurus.Client.Filter
import Panurus.Identity.Unwrap

namespace Panurus.Ttx

open Lib Outcome Core Driver Client

-- A nil receiver is kept as a nil identity.
def receiversOf (outputs : List (Option OutputMetadata)) : Outcome (List Identity) := do
  let outputs ← outputs.mapM fun output => required output "panic: nil output metadata"
  return outputs.flatMap fun output => output.receivers.map identityOf

def sendersOf (inputs : List (Option TransferInputMetadata)) : Outcome (List Identity) := do
  let inputs ← inputs.mapM fun input => required input "panic: nil input metadata"
  return inputs.flatMap fun input => input.senders.map identityOf

def issueDistributionList (r : Request) : Outcome (List Identity) := do
  let lists ← (r.metadata.actions.filterMap ActionMetadataEntry.issueMetadata).mapM fun issue => do
    let receivers ← receiversOf issue.outputs
    return issue.issuer.identity :: receivers
  return lists.flatten

def transferDistributionList (r : Request) : Outcome (List Identity) := do
  let lists ← (r.metadata.actions.filterMap ActionMetadataEntry.transferMetadata).mapM fun transfer => do
    let senders ← sendersOf transfer.inputs
    let receivers ← receiversOf transfer.outputs
    return senders ++ receivers
  return lists.flatten

-- What the initiator asks of its node: the keys of the node, those of the token service, its
-- wallets, the default identity, the endpoints, and the enrollment identifiers.
structure Node where
  uniqueID : Identity → String
  areMe : List Identity → List String
  tokenAreMe : List Identity → Outcome (List String)
  ownerWallet : Identity → Bool
  defaultIdentity : Identity
  resolve : Identity → Outcome Identity
  getEnrollmentID : Identity → Outcome Bytes

structure DistributionListEntry where
  isMe : Bool
  longTerm : Identity
  id : Identity
  eID : Bytes
  auditor : Bool
deriving DecidableEq, Repr

section Preparation

variable (n : Node)

def unwrapDistributionID (id : Identity) : Outcome (List Identity) :=
  if id = [] then .ok [] else do
    let multiSigners ← wrap s!"failed unwrapping multi-sig identity [{n.uniqueID id}]" (Multisig.unwrap id)
    match multiSigners with
    | some multiSigners => return multiSigners
    | none => do
      let pi ← wrap s!"failed unwrapping policy identity [{n.uniqueID id}]" (Boolpolicy.unwrap id)
      return pi.elim [id] Prod.snd

def unwrapDistributionIDs (distributionList : List Identity) : Outcome (List Identity) := do
  let lists ← distributionList.mapM (unwrapDistributionID n)
  return lists.flatten

def areMine (allIds : List Identity) : Outcome (List String) := do
  let mine := n.areMe allIds
  let remainingIds := allIds.filter fun id => n.uniqueID id ∉ mine
  let remainingMine ← wrap s!"failed checking which of the remaining [{remainingIds.length}] identities are me"
    (n.tokenAreMe remainingIds)
  return mine ++ remainingMine

variable (mine : List String)

def isMe (party : Identity) : Bool := n.uniqueID party ∈ mine || n.ownerWallet party

def resolveLongTermIdentity (party : Identity) (isMe : Bool) : Outcome Identity :=
  if isMe then .ok n.defaultIdentity
  else wrap s!"cannot resolve long term identity for [{n.uniqueID party}]" (n.resolve party)

def enrollmentOf (party : Identity) : Outcome Bytes :=
  if isMe n mine party then .ok []
  else wrap s!"failed getting enrollment ID for [{n.uniqueID party}]" (n.getEnrollmentID party)

def addPartyToDistributionList (compressed : List DistributionListEntry) (party : Identity) :
    Outcome (List DistributionListEntry) := do
  let longTerm ← resolveLongTermIdentity n party (isMe n mine party)
  if compressed.any fun entry => longTerm = entry.longTerm then return compressed
  else do
    let eID ← enrollmentOf n mine party
    return compressed ++ [{ isMe := isMe n mine party, longTerm, id := party, eID, auditor := false }]

def auditorEntry (party : Identity) : Outcome DistributionListEntry := do
  let isMe : Bool := n.uniqueID party ∈ mine
  let longTerm ← wrap s!"cannot resolve long term auditor identity for [{n.uniqueID party}]"
    (resolveLongTermIdentity n party isMe)
  return { isMe, longTerm, id := party, eID := [], auditor := true }

def addAuditorToDistributionList (compressed : List DistributionListEntry) (party : Identity) :
    Outcome (List DistributionListEntry) := do
  let entry ← auditorEntry n mine party
  return compressed ++ [entry]

def prepareDistributionList (auditors distributionList : List Identity) : Outcome (List DistributionListEntry) := do
  let distributionList ← unwrapDistributionIDs n distributionList
  let mine ← areMine n (distributionList ++ auditors)
  let compressed ← distributionList.foldlM (addPartyToDistributionList n mine) []
  auditors.foldlM (addAuditorToDistributionList n mine) compressed

end Preparation

-- The options of the view and what the transaction asks of its services: how the filter finds enrollment
-- identifiers, how a request is written down, and what a party answers to it.
structure Distribution where
  skipDistributeEnv : Bool
  debug : Bool
  txID : String
  isValid : Outcome Unit
  storeTransactionRecords : Outcome Unit
  getEnrollmentID : EnrollmentReader
  marshal : Request → Outcome Bytes
  distributeTxToParty : DistributionListEntry → Bytes → Outcome Bytes
  appendTransactionEndorseAck : Identity → Bytes → Outcome Unit
  showText : Bytes → String

structure Delivery where
  entry : DistributionListEntry
  request : Request
  raw : Bytes

section Delivering

variable (n : Node) (d : Distribution) (r : Request)

def requestFor (eIDs : List Bytes) : Outcome Request :=
  if eIDs = [] then .ok r else wrap "failed to filter metadata" (r.filterMetadataBy d.getEnrollmentID eIDs)

def marshalTokenRequest (eIDs : List Bytes) : Outcome (Request × Bytes) := do
  let req ← requestFor d r eIDs
  let raw ← wrap "failed to marshal token request" (d.marshal req)
  return (req, raw)

def deliveryTo (entry : DistributionListEntry) : Outcome Delivery := do
  let (request, raw) ← wrap "failed marshalling transaction content"
    (marshalTokenRequest d r (if entry.auditor then [] else [entry.eID]))
  return { entry, request, raw }

def checkContent : Outcome Unit :=
  if d.debug then wrap "failed verifying transaction content before distributing it" d.isValid else .ok ()

-- The parties are sent their deliveries at once. The distribution fails if one of them does not answer.
def fanOutDeliveries (deliveries : List Delivery) : Outcome (List Bytes) :=
  deliveries.mapM fun delivery =>
    wrap s!"failed distribute evn of tx [{d.txID}] to party [{d.showText delivery.entry.eID}:{d.showText delivery.entry.id}]"
      (d.distributeTxToParty delivery.entry delivery.raw)

def recordAcks (deliveries : List Delivery) (sigmas : List Bytes) : Outcome Unit :=
  checkEach (fun _ ack => wrap s!"failed appending transaction endorsement ack to transaction {d.txID}"
    (d.appendTransactionEndorseAck ack.1.entry.longTerm ack.2)) 0 (deliveries.zip sigmas)

def distributeTxToParties (distributionList auditors : List Identity) : Outcome (List Delivery) :=
  if d.skipDistributeEnv then .ok [] else do
    checkContent d
    let final ← wrap "failed preparing distribution list" (prepareDistributionList n auditors distributionList)
    wrap s!"failed adding transaction {d.txID} to the token transaction database" d.storeTransactionRecords
    let deliveries ← (final.filter fun entry => !entry.isMe || entry.auditor).mapM (deliveryTo d r)
    let sigmas ← fanOutDeliveries d deliveries
    recordAcks d deliveries sigmas
    return deliveries

def distribute (auditors : List Identity) : Outcome (List Delivery) := do
  let issues ← issueDistributionList r
  let transfers ← transferDistributionList r
  distributeTxToParties n d r (issues ++ transfers) auditors

end Delivering

open List Pointwise

variable {longTerm party : Identity} {eID : Bytes} {auditors distributionList : List Identity}
  {action : ActionMetadataEntry} {index : Nat}

section Compression

variable {n : Node} {mine : List String} {compressed entries final : List DistributionListEntry} {parties : List Identity}

def onNode (n : Node) (mine : List String) (longTerm party : Identity) : Bool :=
  (resolveLongTermIdentity n party (isMe n mine party)).toOption = some longTerm

structure StandsFor (n : Node) (mine : List String) (parties : List Identity) (entry : DistributionListEntry) : Prop where
  first : parties.find? (onNode n mine entry.longTerm) = some entry.id
  isMe : entry.isMe = isMe n mine entry.id
  eID : enrollmentOf n mine entry.id = .ok entry.eID
  party : entry.auditor = false

theorem on_node_iff :
    onNode n mine longTerm party = true ↔ resolveLongTermIdentity n party (isMe n mine party) = .ok longTerm := by
  rw [onNode, decide_eq_true_iff, to_option_eq_some_iff]

theorem add_party_ok {next : List DistributionListEntry} (done : addPartyToDistributionList n mine compressed party = .ok next) :
    ∃ longTerm, onNode n mine longTerm party = true ∧ (((∃ entry ∈ compressed, entry.longTerm = longTerm) ∧ next = compressed) ∨
        ((∀ entry ∈ compressed, entry.longTerm ≠ longTerm) ∧ ∃ eID, enrollmentOf n mine party = .ok eID ∧
          next = compressed ++ [⟨isMe n mine party, longTerm, party, eID, false⟩])) := by
  simp only [addPartyToDistributionList, bind_ok_iff] at done
  obtain ⟨longTerm, resolved, added⟩ := done
  refine ⟨longTerm, on_node_iff.mpr resolved, ?_⟩
  have listed_iff : compressed.any (fun entry => longTerm = entry.longTerm) = true ↔
      ∃ entry ∈ compressed, entry.longTerm = longTerm := by
    simp [eq_comm (a := longTerm)]
  split at added
  · rename_i listed
    exact .inl ⟨listed_iff.mp listed, (pure_ok_iff.mp added).symm⟩
  · rename_i absent
    simp only [ok_iff] at added
    obtain ⟨eID, enrolled, rfl⟩ := added
    exact .inr ⟨fun entry mem same => absent (listed_iff.mpr ⟨entry, mem, same⟩), eID, enrolled, rfl⟩

theorem find_on_node_append (found : (parties.find? (onNode n mine longTerm)).isSome) :
    (parties ++ [party]).find? (onNode n mine longTerm) = parties.find? (onNode n mine longTerm) := by
  obtain ⟨first, is_first⟩ := Option.isSome_iff_exists.mp found
  rw [find?_append, is_first, Option.some_or]

theorem on_node_unique {other : Identity} (here : onNode n mine longTerm party = true)
    (there : onNode n mine other party = true) : longTerm = other :=
  Except.ok.inj ((on_node_iff.mp here).symm.trans (on_node_iff.mp there))

structure Compressed (n : Node) (mine : List String) (parties : List Identity) (entries : List DistributionListEntry) : Prop where
  mem_iff : ∀ entry, entry ∈ entries ↔ StandsFor n mine parties entry
  covers : ∀ longTerm, (parties.find? (onNode n mine longTerm)).isSome → ∃ entry ∈ entries, entry.longTerm = longTerm

theorem compressed_nil : Compressed n mine [] [] :=
  ⟨fun _ => ⟨fun mem => (not_mem_nil mem).elim, fun stands => nomatch stands.first⟩, fun _ found => nomatch found⟩

section

variable (holds : Compressed n mine parties entries) (here : onNode n mine longTerm party = true)

include holds here

theorem compressed_again (listed : ∃ entry ∈ entries, entry.longTerm = longTerm) :
    Compressed n mine (parties ++ [party]) entries := by
  have same_first : ∀ other, (parties ++ [party]).find? (onNode n mine other) = parties.find? (onNode n mine other) := by
    intro other
    by_cases there : onNode n mine other party = true
    · obtain rfl := on_node_unique here there
      obtain ⟨entry, mem, rfl⟩ := listed
      exact find_on_node_append (by rw [((holds.mem_iff entry).mp mem).first]; rfl)
    · rw [find?_append, find?_cons_of_neg there, find?_nil, Option.or_none]
  constructor
  · intro entry
    rw [holds.mem_iff]
    exact ⟨fun stands => { stands with first := (same_first _).trans stands.first },
      fun stands => { stands with first := (same_first _).symm.trans stands.first }⟩
  · intro other found
    rw [same_first] at found
    exact holds.covers other found

theorem compressed_new (absent : ∀ entry ∈ entries, entry.longTerm ≠ longTerm) (enrolled : enrollmentOf n mine party = .ok eID) :
    Compressed n mine (parties ++ [party]) (entries ++ [⟨isMe n mine party, longTerm, party, eID, false⟩]) := by
  have none_before : parties.find? (onNode n mine longTerm) = none := by
    by_contra found
    obtain ⟨entry, mem, same⟩ := holds.covers longTerm (Option.isSome_iff_ne_none.mpr found)
    exact absent entry mem same
  have first_here : (parties ++ [party]).find? (onNode n mine longTerm) = some party := by
    rw [find?_append, none_before, Option.none_or, find?_cons_of_pos here]
  have first_elsewhere : ∀ other, other ≠ longTerm →
      (parties ++ [party]).find? (onNode n mine other) = parties.find? (onNode n mine other) := by
    intro other different
    have not_there : ¬ onNode n mine other party = true := fun there => different (on_node_unique there here)
    rw [find?_append, find?_cons_of_neg not_there, find?_nil, Option.or_none]
  constructor
  · intro entry
    rw [mem_append, mem_singleton, holds.mem_iff]
    by_cases same : entry.longTerm = longTerm
    · constructor
      · rintro (stands | rfl)
        · have first := stands.first
          rw [same, none_before] at first
          cases first
        · exact ⟨first_here, rfl, enrolled, rfl⟩
      · intro stands
        have is_first : entry.id = party := by
          have first := stands.first
          rw [same, first_here] at first
          exact (Option.some.inj first).symm
        have is_enrolled : entry.eID = eID := by
          have found := stands.eID
          rw [is_first, enrolled] at found
          exact (Except.ok.inj found).symm
        right
        rw [← same, ← is_first, ← is_enrolled, ← stands.isMe, ← stands.party]
    · constructor
      · rintro (stands | rfl)
        · exact { stands with first := (first_elsewhere _ same).trans stands.first }
        · exact absurd rfl same
      · exact fun stands => .inl { stands with first := (first_elsewhere _ same).symm.trans stands.first }
  · intro other found
    by_cases same : other = longTerm
    · exact ⟨_, mem_append_right _ (mem_singleton_self _), same.symm⟩
    · rw [first_elsewhere other same] at found
      obtain ⟨entry, mem, on⟩ := holds.covers other found
      exact ⟨entry, mem_append_left _ mem, on⟩

end

theorem compressed_of_fold
    (done : parties.foldlM (addPartyToDistributionList n mine) [] = .ok entries) : Compressed n mine parties entries := by
  refine foldlM_invariant (fun parties entries => Compressed n mine parties entries) ?_ compressed_nil done
  intro before compressed party next holds added
  obtain ⟨longTerm, here, ⟨listed, rfl⟩ | ⟨absent, eID, enrolled, rfl⟩⟩ := add_party_ok added
  · exact compressed_again holds here listed
  · exact compressed_new holds here absent enrolled

theorem auditors_of_fold
    (done : auditors.foldlM (addAuditorToDistributionList n mine) compressed = .ok final) (entry : DistributionListEntry) :
    entry ∈ final ↔ entry ∈ compressed ∨ ∃ auditor ∈ auditors, auditorEntry n mine auditor = .ok entry := by
  refine foldlM_invariant (fun auditors entries => entry ∈ entries ↔
    entry ∈ compressed ∨ ∃ auditor ∈ auditors, auditorEntry n mine auditor = .ok entry) ?_ (by simp) done
  intro before entries auditor next holds added
  simp only [addAuditorToDistributionList, ok_iff] at added
  obtain ⟨found, made, rfl⟩ := added
  have last : auditorEntry n mine auditor = .ok entry ↔ entry = found := by
    rw [made, Except.ok.injEq, eq_comm]
  simp only [mem_append, mem_singleton, holds, or_and_right, exists_or, exists_eq_left, last, or_assoc]

theorem prepared_mem_iff
    (unwrapped : unwrapDistributionIDs n distributionList = .ok parties) (known : areMine n (parties ++ auditors) = .ok mine)
    (done : prepareDistributionList n auditors distributionList = .ok final) (entry : DistributionListEntry) :
    entry ∈ final ↔ StandsFor n mine parties entry ∨ ∃ auditor ∈ auditors, auditorEntry n mine auditor = .ok entry := by
  simp only [prepareDistributionList, unwrapped, bind_ok_iff, Except.ok.injEq, exists_eq_left', known] at done
  obtain ⟨compressed, folded, audited⟩ := done
  rw [auditors_of_fold audited, (compressed_of_fold folded).mem_iff]

theorem auditor_entry_ok {auditor : Identity} {entry : DistributionListEntry} (made : auditorEntry n mine auditor = .ok entry) :
    entry.auditor = true := by
  simp only [auditorEntry, ok_iff] at made
  obtain ⟨longTerm, -, rfl⟩ := made
  rfl

end Compression

section Deliveries

variable {n : Node} {d : Distribution} {r : Request}

theorem delivery_to_ok {entry : DistributionListEntry} {delivery : Delivery} (made : deliveryTo d r entry = .ok delivery) :
    delivery.entry = entry ∧ (entry.auditor = true → delivery.request = r) ∧
      (entry.auditor = false → r.filterMetadataBy d.getEnrollmentID [entry.eID] = .ok delivery.request) := by
  simp only [deliveryTo, marshalTokenRequest, ok_iff, Prod.exists] at made
  obtain ⟨request, raw, ⟨_, chosen, _, -, same⟩, rfl⟩ := made
  cases same
  refine ⟨rfl, fun auditor => ?_, fun party => ?_⟩
  · rw [requestFor, if_pos auditor, if_pos rfl] at chosen
    exact (Except.ok.inj chosen).symm
  · rw [requestFor, if_neg (Bool.eq_false_iff.mp party), if_neg (cons_ne_nil _ _), wrap_ok_iff] at chosen
    exact chosen

theorem distributed_mem_iff {sent : List Delivery} (not_skipped : d.skipDistributeEnv = false)
    (done : distributeTxToParties n d r distributionList auditors = .ok sent) :
    ∃ final, prepareDistributionList n auditors distributionList = .ok final ∧
      (∀ delivery ∈ sent, delivery.entry ∈ final ∧ (delivery.entry.isMe = false ∨ delivery.entry.auditor = true) ∧
        deliveryTo d r delivery.entry = .ok delivery) ∧
      ∀ entry ∈ final, entry.isMe = false ∨ entry.auditor = true → ∃ delivery ∈ sent, deliveryTo d r entry = .ok delivery := by
  rw [distributeTxToParties, if_neg (by rw [not_skipped]; exact Bool.false_ne_true)] at done
  simp only [ok_iff] at done
  obtain ⟨_, -, final, prepared, _, -, deliveries, made, _, -, _, -, rfl⟩ := done
  have each := mapM_ok_iff.mp made
  refine ⟨final, prepared, fun delivery mem => ?_, fun entry mem remote => ?_⟩
  · obtain ⟨entry, listed, written⟩ := forall₂_mem each.flip mem
    obtain ⟨inside, remote⟩ := mem_filter.mp listed
    obtain rfl := (delivery_to_ok written).1
    exact ⟨inside, by simpa using remote, written⟩
  · exact forall₂_mem each (mem_filter.mpr ⟨mem, by simpa using remote⟩)

end Deliveries

def Contains (request : Request) (actionID : UInt32) (index : Nat) (output : OutputMetadata) : Prop :=
  ∃ action ∈ request.metadata.actions, action.actionID = actionID ∧ (entryOutputs action)[index]? = some (some output)

theorem filtered_contains_iff {getEnrollmentID : EnrollmentReader} {r filtered : Request} {output : OutputMetadata}
    (done : r.filterMetadataBy getEnrollmentID [eID] = .ok filtered) (listed : action ∈ r.metadata.actions)
    (there : (entryOutputs action)[index]? = some (some output)) :
    Contains filtered action.actionID index output ↔ Due getEnrollmentID [eID] output := by
  have entries := filter_by_ok (cons_ne_nil _ _) (filter_metadata_ok done).1
  constructor
  · rintro ⟨kept, mem, -, found⟩
    obtain ⟨entry, -, made⟩ := forall₂_mem entries.flip mem
    obtain ⟨before, -, filtering⟩ := forall₂_at made.outputs.flip found
    obtain ⟨metadata, rfl, present, absent⟩ := filter_output_ok filtering
    by_cases due : Due getEnrollmentID [eID] metadata
    · obtain rfl := Option.some.inj (present due)
      exact due
    · cases absent due
  · intro due
    have full : described action := by
      obtain ⟨actionID, issueMetadata, transferMetadata⟩ := action
      cases issueMetadata with
      | some issue => rfl
      | none =>
        cases transferMetadata with
        | some transfer => rfl
        | none => cases there
    obtain ⟨kept, mem, made⟩ := forall₂_mem entries (mem_filter.mpr ⟨listed, full⟩)
    obtain ⟨after, found, filtering⟩ := forall₂_at made.outputs there
    obtain ⟨metadata, same, present, -⟩ := filter_output_ok filtering
    obtain rfl := Option.some.inj same
    exact ⟨kept, mem, made.actionID, by rw [found, present due]⟩

def involved (n : Node) (r : Request) : Outcome (List Identity) := do
  let issues ← issueDistributionList r
  let transfers ← transferDistributionList r
  unwrapDistributionIDs n (issues ++ transfers)

-- A receiver of an output that is not held by the initiator, and its node. A redeem has no receiver.
structure Expects (n : Node) (mine : List String) (r : Request) (action : ActionMetadataEntry) (index : Nat)
    (output : OutputMetadata) (receiver : AuditableIdentity) (longTerm : Identity) : Prop where
  listed : action ∈ r.metadata.actions
  placed : (entryOutputs action)[index]? = some (some output)
  receives : some receiver ∈ output.receivers
  named : receiver.identity ≠ []
  remote : isMe n mine receiver.identity = false
  resolved : n.resolve receiver.identity = .ok longTerm

def ReachesReceivers (n : Node) (mine : List String) (r : Request) (sent : List Delivery) : Prop :=
  ∀ action index output receiver longTerm, Expects n mine r action index output receiver longTerm →
    ∃ delivery ∈ sent, delivery.entry.longTerm = longTerm ∧ Contains delivery.request action.actionID index output

def HasAuditor (n : Node) (mine : List String) (auditors : List Identity) (longTerm : Identity) : Prop :=
  ∃ auditor ∈ auditors, ∃ entry, auditorEntry n mine auditor = .ok entry ∧ entry.longTerm = longTerm

def FirstPartyDue (n : Node) (mine : List String) (getEnrollmentID : EnrollmentReader) (parties : List Identity)
    (output : OutputMetadata) (longTerm : Identity) : Prop :=
  ∃ party eID, parties.find? (onNode n mine longTerm) = some party ∧ isMe n mine party = false ∧
    n.getEnrollmentID party = .ok eID ∧ Due getEnrollmentID [eID] output

section Reach

variable {n : Node} {mine : List String} {d : Distribution} {r : Request} {auditors parties : List Identity} {sent : List Delivery}

structure Distributed (n : Node) (mine : List String) (d : Distribution) (r : Request) (auditors parties : List Identity)
    (sent : List Delivery) : Prop where
  made : ∀ delivery ∈ sent, deliveryTo d r delivery.entry = .ok delivery ∧
    ((StandsFor n mine parties delivery.entry ∧ delivery.entry.isMe = false) ∨
      ∃ auditor ∈ auditors, auditorEntry n mine auditor = .ok delivery.entry)
  first : ∀ entry, StandsFor n mine parties entry → entry.isMe = false → ∃ delivery ∈ sent, deliveryTo d r entry = .ok delivery
  auditor : ∀ auditor ∈ auditors, ∀ entry, auditorEntry n mine auditor = .ok entry →
    ∃ delivery ∈ sent, deliveryTo d r entry = .ok delivery

theorem distributed_of_ok (not_skipped : d.skipDistributeEnv = false) (listed : involved n r = .ok parties)
    (known : areMine n (parties ++ auditors) = .ok mine) (done : distribute n d r auditors = .ok sent) :
    Distributed n mine d r auditors parties sent := by
  simp only [involved, bind_ok_iff] at listed
  obtain ⟨issues, issued, transfers, transferred, unwrapped⟩ := listed
  simp only [distribute, issued, transferred, bind_ok_iff, Except.ok.injEq, exists_eq_left'] at done
  obtain ⟨final, prepared, made, delivered⟩ := distributed_mem_iff not_skipped done
  have mem_iff := prepared_mem_iff unwrapped known prepared
  refine ⟨fun delivery mem => ?_, fun entry stands remote => ?_, fun auditor mem entry made => ?_⟩
  · obtain ⟨inside, remote, written⟩ := made delivery mem
    refine ⟨written, ?_⟩
    rcases (mem_iff delivery.entry).mp inside with stands | audits
    · rcases remote with remote | auditor
      · exact .inl ⟨stands, remote⟩
      · rw [stands.party] at auditor
        cases auditor
    · exact .inr audits
  · exact delivered entry ((mem_iff entry).mpr (.inl stands)) (.inl remote)
  · exact delivered entry ((mem_iff entry).mpr (.inr ⟨auditor, mem, made⟩)) (.inr (auditor_entry_ok made))

theorem enrollment_of_remote (remote : isMe n mine party = false) :
    enrollmentOf n mine party = .ok eID ↔ n.getEnrollmentID party = .ok eID := by
  rw [enrollmentOf, if_neg (Bool.eq_false_iff.mp remote), wrap_ok_iff]

theorem reached_iff (distributed : Distributed n mine d r auditors parties sent)
    {output : OutputMetadata} {receiver : AuditableIdentity} (expects : Expects n mine r action index output receiver longTerm) :
    (∃ delivery ∈ sent, delivery.entry.longTerm = longTerm ∧ Contains delivery.request action.actionID index output) ↔
      HasAuditor n mine auditors longTerm ∨ FirstPartyDue n mine d.getEnrollmentID parties output longTerm := by
  constructor
  · rintro ⟨delivery, mem, rfl, contains⟩
    obtain ⟨written, ⟨stands, remote⟩ | ⟨auditor, among, made⟩⟩ := distributed.made delivery mem
    · have remote_party : isMe n mine delivery.entry.id = false := stands.isMe.symm.trans remote
      have filtered := (delivery_to_ok written).2.2 stands.party
      exact .inr ⟨delivery.entry.id, delivery.entry.eID, stands.first, remote_party,
        (enrollment_of_remote remote_party).mp stands.eID,
        (filtered_contains_iff filtered expects.listed expects.placed).mp contains⟩
    · exact .inl ⟨auditor, among, delivery.entry, made, rfl⟩
  · rintro (⟨auditor, among, entry, made, rfl⟩ | ⟨party, eID, first, remote, enrolled, due⟩)
    · obtain ⟨delivery, mem, written⟩ := distributed.auditor auditor among entry made
      obtain ⟨rfl, whole, -⟩ := delivery_to_ok written
      refine ⟨delivery, mem, rfl, ?_⟩
      rw [whole (auditor_entry_ok made)]
      exact ⟨action, expects.listed, rfl, expects.placed⟩
    · obtain ⟨delivery, mem, written⟩ := distributed.first ⟨false, longTerm, party, eID, false⟩
        ⟨first, remote.symm, (enrollment_of_remote remote).mpr enrolled, rfl⟩ rfl
      obtain ⟨same, -, filtered⟩ := delivery_to_ok written
      exact ⟨delivery, mem, by rw [same], (filtered_contains_iff (filtered rfl) expects.listed expects.placed).mpr due⟩

end Reach

-- Removing duplicates goes by node and filtering by enrollment identifier: a receiver gets its output exactly if the first
-- party on its node is remote and is due the output, or if an auditor is on that node.
theorem distribution_reaches_iff (n : Node) (d : Distribution) (r : Request) (auditors parties : List Identity)
    (mine : List String) (sent : List Delivery) (not_skipped : d.skipDistributeEnv = false) (listed : involved n r = .ok parties)
    (known : areMine n (parties ++ auditors) = .ok mine) (done : distribute n d r auditors = .ok sent) :
    ReachesReceivers n mine r sent ↔
      ∀ action index output receiver longTerm, Expects n mine r action index output receiver longTerm →
        HasAuditor n mine auditors longTerm ∨ FirstPartyDue n mine d.getEnrollmentID parties output longTerm := by
  have distributed := distributed_of_ok not_skipped listed known done
  exact forall₅_congr fun _ _ _ _ _ => forall_congr' fun expects => reached_iff distributed expects

-- Every identity but that of the initiator is on one node; the last octet is the enrollment identifier.
namespace SharedNode

def identity (eID : UInt8) : Identity := [0x30, 0x06, 0x02, 0x01, 0x02, 0x04, 0x01, eID]

def uniqueID (id : Identity) : String := String.ofList (id.map fun octet => Char.ofNat octet.toNat)

def node : Node where
  uniqueID := uniqueID
  areMe ids := (ids.filter fun id => id = identity 7).map uniqueID
  tokenAreMe _ := .ok []
  ownerWallet _ := false
  defaultIdentity := [7]
  resolve _ := .ok [9]
  getEnrollmentID id := .ok (id.drop 7)

def distribution : Distribution where
  skipDistributeEnv := false
  debug := false
  txID := "tx"
  isValid := .ok ()
  storeTransactionRecords := .ok ()
  getEnrollmentID id _ := .ok (id.drop 7)
  marshal _ := .ok [1]
  distributeTxToParty _ _ := .ok [2]
  appendTransactionEndorseAck _ _ := .ok ()
  showText _ := ""

def output (eID : UInt8) : OutputMetadata :=
  { outputMetadata := [1], outputAuditInfo := [], receivers := [some { identity := identity eID, auditInfo := [] }] }

def transfer (outputs : List (Option OutputMetadata)) : TransferMetadata :=
  TwoReceivers.transfer { identity := identity 7, auditInfo := [] } none outputs

def transferTo (outputs : List (Option OutputMetadata)) : ActionMetadataEntry := TwoReceivers.entry (transfer outputs)

def request (outputs : List (Option OutputMetadata)) : Request := TwoReceivers.oneTransfer (transfer outputs)

def mine : List String := [uniqueID (identity 7)]

def entry (eID : UInt8) : DistributionListEntry :=
  { isMe := false, longTerm := [9], id := identity eID, eID := [eID], auditor := false }

-- The second receiver of this output is that of the first one.
def shared : OutputMetadata :=
  { outputMetadata := [2]
    outputAuditInfo := []
    receivers := [some { identity := identity 2, auditInfo := [] }, some { identity := identity 1, auditInfo := [] }] }

def toOne : List (Option OutputMetadata) := [some (output 1), some shared]

theorem due_first (metadata : OutputMetadata) (mem : some metadata ∈ toOne) : Due distribution.getEnrollmentID [[1]] metadata := by
  refine ⟨{ identity := identity 1, auditInfo := [] }, [1], ?_, rfl, mem_singleton_self _⟩
  have named : ∀ entry ∈ toOne, ∀ output ∈ entry, some { identity := identity 1, auditInfo := [] } ∈ output.receivers := by decide
  exact named _ mem _ rfl

theorem two_receivers_reached :
    distribute node distribution (request toOne) [] = .ok [⟨entry 1, request toOne, [1]⟩] ∧
      ReachesReceivers node mine (request toOne) [⟨entry 1, request toOne, [1]⟩] := by
  refine ⟨rfl, ?_⟩
  refine (distribution_reaches_iff node distribution _ [] [identity 7, identity 1, identity 2, identity 1] mine _ rfl rfl rfl rfl).mpr ?_
  intro action index metadata receiver longTerm expects
  obtain rfl := mem_singleton.mp expects.listed
  have resolved : [9] = longTerm := Except.ok.inj expects.resolved
  subst resolved
  exact .inr ⟨identity 1, [1], rfl, rfl, rfl, due_first metadata (mem_of_getElem? expects.placed)⟩

-- The node is sent the output of the first receiver only.
theorem second_receiver_not_reached :
    distribute node distribution (request [some (output 1), some (output 2)]) [] =
        .ok [⟨entry 1, request [some (output 1), none], [1]⟩] ∧
      Expects node mine (request [some (output 1), some (output 2)]) (transferTo [some (output 1), some (output 2)]) 1 (output 2)
        { identity := identity 2, auditInfo := [] } [9] ∧
      ¬ ReachesReceivers node mine (request [some (output 1), some (output 2)]) [⟨entry 1, request [some (output 1), none], [1]⟩] := by
  have expects : Expects node mine (request [some (output 1), some (output 2)]) (transferTo [some (output 1), some (output 2)]) 1
      (output 2) { identity := identity 2, auditInfo := [] } [9] :=
    ⟨mem_singleton_self _, rfl, mem_singleton_self _, cons_ne_nil _ _, by decide, rfl⟩
  refine ⟨rfl, expects, fun reaches => ?_⟩
  obtain ⟨delivery, mem, -, action, listed, -, found⟩ := reaches _ _ _ _ _ expects
  obtain rfl := mem_singleton.mp mem
  obtain rfl := mem_singleton.mp listed
  cases found

end SharedNode

end Panurus.Ttx
