import Mathlib.Algebra.Order.BigOperators.Group.List
import Mathlib.Data.List.ReduceOption
import Panurus.Fabtoken.Authorisation
import Panurus.Fabtoken.Balance
import Panurus.Lib.Pointwise

namespace Panurus.Fabtoken

open List Lib Outcome Attempts Utxo Core Driver Token Rws TransferAction

def Proto.Token.Texts (token : Proto.Token) : Prop := Utf8.validString token.type ∧ Utf8.validString token.quantity

def OutputTexts (outputs : List (Option Proto.ActionOutput)) : Prop :=
  ∀ output ∈ outputs, ∀ token ∈ output.bind Proto.ActionOutput.token, token.Texts

def actionSize : Option Proto.Action → Nat
  | some (.typedAction _ raw) => raw.length
  | _ => 0

-- What the wire format gives: an element of a message takes its bytes of the text, and a string is valid UTF-8.
structure Protobuf.Lawful (protobuf : Protobuf) : Prop where
  requestFits : ∀ raw message, protobuf.tokenRequest raw = .ok message → (message.actions.map actionSize).sum ≤ raw.length
  issueFits : ∀ raw message, protobuf.issueAction raw = .ok message → message.outputs.length ≤ raw.length
  transferFits : ∀ raw message, protobuf.transferAction raw = .ok message → message.outputs.length ≤ raw.length
  issueTexts : ∀ raw message, protobuf.issueAction raw = .ok message → OutputTexts message.outputs
  transferTexts : ∀ raw message, protobuf.transferAction raw = .ok message →
    (∀ input ∈ message.inputs, ∀ token ∈ input.input, token.Texts) ∧ OutputTexts message.outputs

structure Deployment where
  sha256 : Bytes → Bytes
  protobuf : Protobuf
  libraries : Htlc.Libraries
  pp : PublicParams
  deserializer : Deserializer
  limits : ResourceLimits
  minProtocolVersion : UInt32

structure Submission where
  txID : Bytes
  raw : Bytes
  clock : Clock

namespace Deployment

variable (d : Deployment)

def validator : Validator PublicParams Output IssueAction TransferAction :=
  (newValidator d.protobuf d.libraries d.pp d.deserializer d.limits).setMinProtocolVersion d.minProtocolVersion

def verify (s : Submission) : Outcome (List AnyAction × ValidationAttributes) :=
  d.validator.verifyTokenRequestFromRaw d.protobuf.tokenRequest s.clock s.txID s.raw

-- The record of the request and the read of the public parameters come after; no output depends on them.
def processRequest (state : State) (s : Submission) : Outcome State := do
  let (actions, _) ← wrap "failed to verify token request" (d.verify s)
  wrap "failed to write token action" (commitRequest d.sha256 state { txID := s.txID, actions := actions.map toTranslator })

def actions (s : Submission) : List AnyAction :=
  match d.verify s with
  | .ok (actions, _) => actions
  | .error _ => []

def request (s : Submission) : Request := { txID := s.txID, actions := (d.actions s).map toTranslator }

def inputs (s : Submission) : List TokenID := (d.actions s).flatMap inputIDs

def issued (type : Bytes) (submissions : List Submission) : Nat :=
  total d.pp type ((submissions.flatMap d.actions).flatMap issuedTokens)

def redeemed (type : Bytes) (submissions : List Submission) : Nat :=
  total d.pp type ((submissions.flatMap d.actions).flatMap redeemedTokens)

def hashed (submissions : List Submission) : Set Bytes := { text | ∃ s ∈ submissions, text ∈ (d.request s).hashed }

end Deployment

variable {tok : Output} {raw : Bytes} {request : TokenRequest} {d : Deployment} {s : Submission}
  {values : List AnyAction} {attributes : ValidationAttributes}

section Deserialized

variable {protobuf : Protobuf} {limits : ResourceLimits} {entry : TypedAction} {value : AnyAction}

theorem output_from_proto_some {output : Option Proto.ActionOutput} (read : outputFromProto output = some tok) :
    ∃ token ∈ output.bind Proto.ActionOutput.token, tok = Output.fromProto token := by
  obtain ⟨token, found, rfl⟩ := Option.map_eq_some_iff.mp read
  exact ⟨token, found, rfl⟩

theorem named_texts (lawful : protobuf.Lawful) (read : DeserializedBy protobuf limits entry value) :
    ∀ tok ∈ namedTokens value, Utf8.validString tok.type ∧ Utf8.validString tok.quantity := by
  cases value with
  | issue action =>
    have done := read.2
    simp only [IssueAction.deserialize, ok_iff] at done
    obtain ⟨message, decoded, _, _, _, _, _, _, rfl⟩ := done
    intro tok mem
    obtain ⟨output, found, named⟩ := mem_map.mp (reduceOption_mem_iff.mp mem)
    obtain ⟨token, inside, rfl⟩ := output_from_proto_some named
    exact lawful.issueTexts _ message decoded output found token inside
  | transfer action =>
    have done := read.2
    simp only [deserialize, ok_iff] at done
    obtain ⟨message, decoded, _, _, _, _, _, _, _, _, rfl⟩ := done
    obtain ⟨inputTexts, outputTexts⟩ := lawful.transferTexts _ message decoded
    intro tok mem
    rcases mem_append.mp mem with consumed | made
    · obtain ⟨_, listed, bound⟩ := mem_filterMap.mp consumed
      obtain ⟨input, found, rfl⟩ := mem_map.mp listed
      obtain ⟨token, inside, rfl⟩ := Option.map_eq_some_iff.mp bound
      exact inputTexts input found token inside
    · obtain ⟨output, found, named⟩ := mem_map.mp (reduceOption_mem_iff.mp made)
      obtain ⟨token, inside, rfl⟩ := output_from_proto_some named
      exact outputTexts output found token inside

theorem translated_outputs_fit (lawful : protobuf.Lawful) (read : DeserializedBy protobuf limits entry value) :
    (toTranslator value).outputs.length ≤ entry.raw.length := by
  cases value with
  | issue action =>
    have done := read.2
    simp only [IssueAction.deserialize, ok_iff] at done
    obtain ⟨message, decoded, _, _, _, _, _, _, rfl⟩ := done
    have fits := lawful.issueFits _ message decoded
    simp only [toTranslator, Action.outputs, IssueAction.toTranslator]
    split
    · rename_i raws serialized
      have same := (mapM_ok_iff.mp serialized).length_eq
      simp only [length_zipIdx, length_map] at same ⊢
      omega
    · exact Nat.zero_le _
  | transfer action =>
    have done := read.2
    simp only [deserialize, ok_iff] at done
    obtain ⟨message, decoded, _, _, _, _, _, _, _, _, rfl⟩ := done
    have fits := lawful.transferFits _ message decoded
    simpa [toTranslator, Action.outputs, TransferAction.toTranslator] using fits

end Deserialized

theorem parsed_raws_fit {protobuf : Protobuf} (lawful : protobuf.Lawful)
    (parsed : TokenRequest.fromBytes protobuf.tokenRequest raw = .ok request) :
    (request.actions.map fun entry => entry.raw.length).sum ≤ raw.length := by
  simp only [TokenRequest.fromBytes, TokenRequest.fromProtos, ok_iff] at parsed
  obtain ⟨message, decoded, _, _, actions, converted, _, _, _, _, rfl⟩ := parsed
  have sizes : message.actions.map actionSize = actions.map fun entry => entry.raw.length := by
    rw [← forall₂_eq_eq_eq, forall₂_map_left_iff, forall₂_map_right_iff]
    refine (mapM_ok_iff.mp converted).imp fun source entry same => ?_
    cases source with
    | none => simp [TypedAction.fromProtos] at same
    | some source =>
      cases source with
      | hashedAction | unset => simp [TypedAction.fromProtos] at same
      | typedAction type raw =>
        cases type <;> simp only [TypedAction.fromProtos, Except.ok.injEq, reduceCtorEq] at same <;> rw [← same, actionSize]
  exact sizes ▸ lawful.requestFits raw message decoded

structure Verified (d : Deployment) (values : List AnyAction) : Prop where
  moves : ∀ value ∈ values, ∃ consumed stored, Moves d.pp value consumed stored ∧
    ∀ tok ∈ consumed.map Prod.snd ++ stored, tok.WellFormed
  count : outputCount (values.map toTranslator) < 2 ^ 64

abbrev Read (d : Deployment) (s : Submission) (values : List AnyAction) (request : TokenRequest) (message : Bytes) : Prop :=
  Accepted d.protobuf.tokenRequest d.validator s.clock
    (fun raw action => IssueAction.deserialize d.protobuf.issueAction d.limits raw = .ok action)
    (fun raw action => deserialize d.protobuf.transferAction d.limits raw = .ok action)
    (fun value _ => ∃ consumed stored, Moves d.pp value consumed stored) s.txID s.raw values request message

theorem verify_read (accepted : d.verify s = .ok (values, attributes)) : ∃ request message, Read d s values request message :=
  verify_token_request_accepted (reads_actions d.protobuf d.libraries d.pp d.deserializer d.limits d.minProtocolVersion)
    (fun _ _ _ _ done => by
      obtain ⟨⟨verifiers, nonempty, _, signed⟩, moves⟩ := verified_action_ok done
      exact ⟨verifiers, nonempty, moves, signed⟩) accepted

theorem read_entries {message : Bytes} (all : Read d s values request message) :
    List.Forall₂ (DeserializedBy d.protobuf d.limits) request.actions values := by
  have entries : List.Forall₂ (fun entry value => DeserializedBy d.protobuf d.limits (Prod.fst entry) value)
      request.actions.zipIdx values := all.authorised.imp fun _ _ authorised => authorised.1
  have named := forall₂_map_left_iff.mpr entries
  rwa [zipIdx_map_fst] at named

theorem verify_verified (lawful : d.protobuf.Lawful) (accepted : d.verify s = .ok (values, attributes)) : Verified d values := by
  obtain ⟨request, message, all⟩ := verify_read accepted
  constructor
  · intro value mem
    obtain ⟨place, bound, rfl⟩ := getElem_of_mem mem
    obtain ⟨read, _, ⟨consumed, stored, moves⟩, _⟩ := all.authorised.get (all.authorised.length_eq ▸ bound) bound
    refine ⟨consumed, stored, moves, fun tok listed => ?_⟩
    obtain ⟨typed, counted⟩ := moves.filled tok listed
    obtain ⟨typeText, quantityText⟩ := named_texts lawful read tok (moves.named tok listed)
    exact ⟨typed, counted, typeText, quantityText⟩
  · have each : List.Forall₂ (· ≤ ·) ((values.map toTranslator).map fun action => action.outputs.length)
        (request.actions.map fun entry => entry.raw.length) := by
      rw [map_map, forall₂_map_left_iff, forall₂_map_right_iff]
      exact (read_entries all).flip.imp fun _ _ read => translated_outputs_fit lawful read
    have outputs : outputCount (values.map toTranslator) ≤ _ := each.sum_le_sum
    have fits := parsed_raws_fit lawful all.parsed
    have size : (s.raw.length : Int) ≤ d.limits.maxRequestBytes.toInt := all.size
    have width := d.limits.maxRequestBytes.toInt_lt
    omega

open Deployment

section Runs

variable {d : Deployment} {n : Nat} {state : State} {submissions done : List Submission} {hashed : Set Bytes}
  {h : History TokenID Bytes}

theorem actions_verified (lawful : d.protobuf.Lawful) (s : Submission) : Verified d (d.actions s) := by
  cases outcome : d.verify s with
  | ok result =>
    have same : d.actions s = result.1 := by simp [actions, outcome]
    exact same ▸ verify_verified lawful outcome
  | error reason =>
    have none : d.actions s = [] := by simp [actions, outcome]
    rw [none]
    exact ⟨by simp, by simp [outputCount]⟩

theorem process_request_ok {next : State} (done : d.processRequest state s = .ok next) :
    commitRequest d.sha256 state (d.request s) = .ok next := by
  simp only [processRequest, ok_iff] at done
  obtain ⟨⟨values, attributes⟩, accepted, committed⟩ := done
  have same : d.actions s = values := by simp [actions, accepted]
  rw [request, same]
  exact committed

theorem request_inputs (lawful : d.protobuf.Lawful) (s : Submission) : (d.request s).spent.map Prod.fst = d.inputs s := by
  rw [Request.spent, request, flatMap_map, map_flatMap]
  refine flatMap_congr fun value mem => ?_
  obtain ⟨consumed, stored, moves, _⟩ := (actions_verified lawful s).moves value mem
  rw [moves.spent, moves.inputs, map_map]
  rfl

theorem request_tracked (lawful : d.protobuf.Lawful) (length : s.txID.length = n)
    (named : ∀ id ∈ d.inputs s, id.txId.length = n) : (d.request s).Tracked n := by
  refine ⟨?_, length, ?_, Nat.le_of_lt (actions_verified lawful s).count⟩
  · intro action mem
    obtain ⟨value, _, rfl⟩ := mem_map.mp mem
    cases value with
    | issue action | transfer action => rfl
  · intro entry mem
    exact named entry.1 (request_inputs lawful s ▸ mem_map_of_mem mem)

structure Tracks (d : Deployment) (n : Nat) (hashed : Set Bytes) (done : List Submission) (state : State)
    (h : History TokenID Bytes) : Prop where
  represents : Represents d.sha256 n hashed h state
  created : h.created = done.flatMap fun s => (d.request s).stored
  consumed : h.consumed = done.flatMap fun s => (d.request s).spent

namespace Deployment

def ledger (d : Deployment) (submissions : List Submission) : State := run d.processRequest (fun _ => []) submissions

def committed (d : Deployment) (submissions : List Submission) : List Submission :=
  applied d.processRequest (fun _ => []) submissions

end Deployment

theorem run_tracks (lawful : d.protobuf.Lawful) (long : 32 ≤ n) (distinct : (submissions.map Submission.txID).Nodup)
    (sized : ∀ s ∈ submissions, s.txID.length = n) (named : ∀ s ∈ submissions, ∀ id ∈ d.inputs s, id.txId.length = n)
    (collisionFree : Set.InjOn d.sha256 (d.hashed submissions)) :
    ∃ h, Tracks d n (d.hashed submissions) (d.committed submissions) (d.ledger submissions) h := by
  refine run_invariant_at (fun done state => ∃ h, Tracks d n (d.hashed submissions) done state h) _ submissions ?_ ?_
  · rintro before s after next split ⟨h, tracks⟩ moved
    have mem : s ∈ submissions := split ▸ mem_append_right _ mem_cons_self
    have new : ∀ entry ∈ h.created, entry.1.txId ≠ s.txID := by
      intro entry created same
      rw [tracks.created] at created
      obtain ⟨other, found, stored⟩ := mem_flatMap.mp created
      have earlier := (applied_sublist _ before).subset found
      have given : entry.1.txId = other.txID := stored_from_txid stored
      rw [split, map_append] at distinct
      have apart := (nodup_append'.mp distinct).2.2
      exact apart (mem_map_of_mem earlier) (given ▸ same ▸ mem_cons_self)
    obtain ⟨grown, created, consumed, represents⟩ := represents_request long collisionFree
      (request_tracked lawful (sized s mem) (named s mem)) (fun text known => ⟨s, mem, known⟩) tracks.represents new
      (process_request_ok moved)
    refine ⟨grown, represents, ?_, ?_⟩
    · rw [created, tracks.created, flatMap_append, flatMap_singleton]
    · rw [consumed, tracks.consumed, flatMap_append, flatMap_singleton]
  · exact ⟨History.empty, represents_empty _ _, rfl, rfl⟩

instance : Nonempty Output := ⟨⟨[], [], []⟩⟩

noncomputable def tokenOf (raw : Bytes) : Output := Function.invFunOn Output.serialize { t | t.WellFormed } raw

theorem token_of_serialize (formed : tok.WellFormed) : tokenOf tok.serialize = tok :=
  serialize_injective.leftInvOn_invFunOn formed

theorem tokens_of_serialized {toks : List Output} (formed : ∀ tok ∈ toks, tok.WellFormed) :
    (toks.map Output.serialize).map tokenOf = toks := by
  rw [map_map]
  calc toks.map (tokenOf ∘ Output.serialize) = toks.map id := map_congr_left fun tok mem => token_of_serialize (formed tok mem)
    _ = toks := map_id toks

theorem values_balanced (values : List AnyAction) (type : Bytes)
    (moves : ∀ value ∈ values, ∃ consumed stored, Moves d.pp value consumed stored ∧
      ∀ tok ∈ consumed.map Prod.snd ++ stored, tok.WellFormed) :
    total d.pp type (values.flatMap fun value => (toTranslator value).kept.map tokenOf) +
        total d.pp type (values.flatMap redeemedTokens) = total d.pp type (values.flatMap issuedTokens) +
        total d.pp type (values.flatMap fun value => ((toTranslator value).spent.map Prod.snd).map tokenOf) := by
  induction values with
  | nil => rfl
  | cons value tail ih =>
    obtain ⟨⟨consumed, stored, here, formed⟩, others⟩ := forall_mem_cons.mp moves
    obtain ⟨formedConsumed, formedStored⟩ := forall_mem_append.mp formed
    have inputs : ((toTranslator value).spent.map Prod.snd).map tokenOf = consumed.map Prod.snd := by
      have raws : (toTranslator value).spent.map Prod.snd = (consumed.map Prod.snd).map Output.serialize := by
        rw [here.spent, map_map, map_map]
        rfl
      rw [raws, tokens_of_serialized formedConsumed]
    have outputs : (toTranslator value).kept.map tokenOf = stored := by rw [here.kept, tokens_of_serialized formedStored]
    have balance := here.balance type
    have rest := ih others
    simp only [flatMap_cons, total_append, inputs, outputs]
    omega

structure Conserved (d : Deployment) (n : Nat) (submissions : List Submission) (present : List (TokenID × Output)) : Prop where
  once : (present.map Prod.fst).Nodup
  stored : ∀ entry ∈ present, d.ledger submissions (outputKey entry.1) = entry.2.serialize
  nothingElse : ∀ (id : TokenID) (key : Key), id.txId.length = n → createOutputKey id.txId id.index = .ok key →
    d.ledger submissions key ≠ [] → ∃ tok, (id, tok) ∈ present
  countable : ∀ entry ∈ present, Countable d.pp entry.2
  conserved : ∀ type, total d.pp type (present.map Prod.snd) + d.redeemed type (d.committed submissions) =
    d.issued type (d.committed submissions)
  consumedOnce : ((d.committed submissions).flatMap d.inputs).Nodup

theorem created_token (lawful : d.protobuf.Lawful) {entry : TokenID × Bytes}
    (created : entry ∈ done.flatMap fun s => (d.request s).stored) :
    ∃ tok : Output, tok.WellFormed ∧ Countable d.pp tok ∧ entry.2 = tok.serialize := by
  obtain ⟨s, _, stored⟩ := mem_flatMap.mp created
  have kept : entry.2 ∈ ((d.actions s).map toTranslator).flatMap Action.kept := by
    have raws : (d.request s).stored.map Prod.snd = _ := stored_from_kept s.txID 0 ((d.actions s).map toTranslator)
    exact raws ▸ mem_map_of_mem stored
  obtain ⟨_, translated, inside⟩ := mem_flatMap.mp kept
  obtain ⟨value, mem, rfl⟩ := mem_map.mp translated
  obtain ⟨consumed, toks, moves, formed⟩ := (actions_verified lawful s).moves value mem
  rw [moves.kept] at inside
  obtain ⟨tok, found, same⟩ := mem_map.mp inside
  exact ⟨tok, formed tok (mem_append_right _ found), moves.countable tok found, same.symm⟩

theorem tracked_created (tracks : Tracks d n hashed done state h) : h.created.map (fun entry => tokenOf entry.2) =
      (done.flatMap d.actions).flatMap fun value => (toTranslator value).kept.map tokenOf := by
  rw [tracks.created, flatMap_assoc, map_flatMap]
  refine flatMap_congr fun s _ => ?_
  have raws : (d.request s).stored.map Prod.snd = _ := stored_from_kept s.txID 0 ((d.actions s).map toTranslator)
  calc (d.request s).stored.map (fun entry => tokenOf entry.2) = ((d.request s).stored.map Prod.snd).map tokenOf := by
        rw [map_map]
        rfl
    _ = (d.actions s).flatMap fun value => (toTranslator value).kept.map tokenOf := by
        rw [raws, flatMap_map, map_flatMap]

theorem tracked_consumed (tracks : Tracks d n hashed done state h) : h.consumed.map (fun entry => tokenOf entry.2) =
      (done.flatMap d.actions).flatMap fun value => ((toTranslator value).spent.map Prod.snd).map tokenOf := by
  rw [tracks.consumed, flatMap_assoc, map_flatMap]
  refine flatMap_congr fun s _ => ?_
  rw [Request.spent, request, flatMap_map, map_flatMap]
  simp only [map_map]
  rfl

theorem tracked_conserved (lawful : d.protobuf.Lawful)
    (tracks : Tracks d n hashed (d.committed submissions) (d.ledger submissions) h) :
    Conserved d n submissions (h.present.map fun entry => (entry.1, tokenOf entry.2)) := by
  have token : ∀ entry ∈ h.present, ∃ tok : Output, tok.WellFormed ∧ Countable d.pp tok ∧ entry.2 = tok.serialize :=
    fun entry mem => created_token lawful (tracks.created ▸ (History.mem_present.mp mem).1)
  refine ⟨?_, ?_, ?_, ?_, ?_, ?_⟩
  · rw [map_map]
    exact h.present_once
  · intro _ mem
    obtain ⟨entry, found, rfl⟩ := mem_map.mp mem
    obtain ⟨tok, formed, _, same⟩ := token entry found
    rw [tracks.represents.outputs entry found, same, token_of_serialize formed]
  · intro id key length made nonempty
    obtain ⟨rfl, closed⟩ := create_output_key_ok id made
    by_contra missing
    refine nonempty (tracks.represents.absent id length closed fun raw mem => missing ⟨tokenOf raw, ?_⟩)
    exact mem_map.mpr ⟨(id, raw), mem, rfl⟩
  · intro _ mem
    obtain ⟨entry, found, rfl⟩ := mem_map.mp mem
    obtain ⟨tok, formed, countable, same⟩ := token entry found
    rwa [same, token_of_serialize formed]
  · intro type
    have sum := h.present_sum fun entry => if (tokenOf entry.2).type = type then amount d.pp (tokenOf entry.2) else 0
    have totals : ∀ entries : List (TokenID × Bytes), (entries.map fun entry =>
        if (tokenOf entry.2).type = type then amount d.pp (tokenOf entry.2) else 0).sum =
          total d.pp type (entries.map fun entry => tokenOf entry.2) := by
      intro entries
      rw [total, map_map]
      rfl
    rw [totals, totals, totals, tracked_created tracks, tracked_consumed tracks] at sum
    have balanced := values_balanced (d := d) ((d.committed submissions).flatMap d.actions) type ?_
    · rw [map_map]
      change total d.pp type (h.present.map fun entry => tokenOf entry.2) + total d.pp type _ = total d.pp type _
      omega
    · intro value mem
      obtain ⟨s, _, found⟩ := mem_flatMap.mp mem
      exact (actions_verified lawful s).moves value found
  · have once := h.consumedOnce
    rw [tracks.consumed, map_flatMap] at once
    simpa only [request_inputs lawful] using once

end Runs

theorem supply_conserved (d : Deployment) (lawful : d.protobuf.Lawful) (n : Nat) (long : 32 ≤ n) (submissions : List Submission)
    (distinct : (submissions.map Submission.txID).Nodup) (sized : ∀ s ∈ submissions, s.txID.length = n)
    (named : ∀ s ∈ submissions, ∀ id ∈ d.inputs s, id.txId.length = n)
    (collisionFree : Set.InjOn d.sha256 (d.hashed submissions)) : ∃ present, Conserved d n submissions present := by
  obtain ⟨h, tracks⟩ := run_tracks lawful long distinct sized named collisionFree
  exact ⟨_, tracked_conserved lawful tracks⟩

section Octets

open Driver.Proto (field scalar decode_among_ok)

theorem elements_fit {elements : List α} {size : α → Nat} {octets : α → Bytes}
    (fits : ∀ element ∈ elements, size element ≤ (octets element).length) :
    (elements.map size).sum ≤ (elements.flatMap octets).length := by
  rw [length_flatMap]
  exact sum_le_sum fits

theorem action_fits (action : Option Proto.Action) :
    actionSize action ≤ (field 2 (action.elim [] Proto.Action.octets)).length := by
  match action with
  | none | some .hashedAction | some .unset => exact Nat.zero_le _
  | some (.typedAction type raw) =>
    by_cases empty : raw = []
    · simp [actionSize, empty]
    · simp only [actionSize, Option.elim, Proto.Action.octets, scalar, empty, if_false, field, length_append]
      omega

theorem outputs_fit (outputs : List (Option Proto.ActionOutput)) (number : UInt8) :
    outputs.length ≤ (outputs.flatMap fun output => field number (output.elim [] Proto.ActionOutput.octets)).length := by
  have fits : (outputs.map fun _ => 1).sum ≤
      (outputs.flatMap fun output => field number (output.elim [] Proto.ActionOutput.octets)).length :=
    elements_fit (by simp [field])
  simpa using fits

theorem among_lawful {requests : List Proto.TokenRequest} {issues : List Proto.IssueAction}
    {transfers : List Proto.TransferAction}
    (issueTexts : ∀ message ∈ issues, OutputTexts message.outputs) (transferTexts : ∀ message ∈ transfers,
      (∀ input ∈ message.inputs, ∀ token ∈ input.input, token.Texts) ∧ OutputTexts message.outputs) :
    (Protobuf.among requests issues transfers).Lawful := by
  refine ⟨fun raw message decoded => ?_, fun raw message decoded => ?_, fun raw message decoded => ?_,
    fun raw message decoded => issueTexts message (decode_among_ok decoded).1,
    fun raw message decoded => transferTexts message (decode_among_ok decoded).1⟩
  · rw [← (decode_among_ok decoded).2, Proto.TokenRequest.octets, length_append, length_append]
    have fits := elements_fit fun action (_ : action ∈ message.actions) => action_fits action
    omega
  · rw [← (decode_among_ok decoded).2]
    simp only [Proto.IssueAction.octets, length_append]
    have fits := outputs_fit message.outputs 4
    omega
  · rw [← (decode_among_ok decoded).2]
    simp only [Proto.TransferAction.octets, length_append]
    have fits := outputs_fit message.outputs 3
    omega

end Octets

namespace IssueAndRedeem

open RedeemAndIssue (deserializer libraries clock)

def owner : Bytes := [0x30, 0x06, 0x02, 0x01, 0x02, 0x04, 0x01, 0xAA]

def issueTx : Bytes := List.replicate 32 0x61
def spendTx : Bytes := List.replicate 32 0x62

def token (owner : Bytes) (quantity : UInt8) : Proto.Token := { owner, type := [0x54], quantity := [quantity] }

def issue : Proto.IssueAction :=
  { version := 1, issuer := some ⟨some [7]⟩, outputs := [some ⟨some (token owner 0x35)⟩], metadata := [] }

def spend : Proto.TransferAction :=
  { version := 1
    inputs := [{ tokenId := some ⟨issueTx, 0⟩, input := some (token owner 0x35) }]
    outputs := [some ⟨some (token owner 0x33)⟩, some ⟨some (token [] 0x32)⟩]
    metadata := []
    issuer := none }

def issueEntry : Option Proto.Action := some (.typedAction .issue issue.octets)
def spendEntry : Option Proto.Action := some (.typedAction .transfer spend.octets)

-- One signature for each action: the key of the signer is its octet.
def signed (entries : List (Option Proto.Action)) (keys : List UInt8) : Proto.TokenRequest :=
  { version := 1
    actions := entries
    signatures := keys.mapIdx fun k key => some (.actionSignature (UInt32.ofNat k) (some [key])) }

def issueRequest : Proto.TokenRequest := signed [issueEntry] [2]
def spendRequest : Proto.TokenRequest := signed [spendEntry] [1]

def deploymentOf (requests : List Proto.TokenRequest) : Deployment :=
  { sha256 := FixedWidth.checksum32
    protobuf := .among requests [issue] [spend]
    libraries
    pp := { issuerIDs := [], auditor := [], quantityPrecision := 64 }
    deserializer
    limits := defaultResourceLimits
    minProtocolVersion := 0 }

theorem deployment_lawful (requests : List Proto.TokenRequest) : (deploymentOf requests).protobuf.Lawful := by
  have texts : ∀ owner, (token owner 0x35).Texts ∧ (token owner 0x33).Texts ∧ (token owner 0x32).Texts :=
    fun _ => ⟨⟨rfl, rfl⟩, ⟨rfl, rfl⟩, ⟨rfl, rfl⟩⟩
  exact among_lawful (by simp [OutputTexts, issue, texts]) (by simp [OutputTexts, spend, texts])

def deployment : Deployment := deploymentOf [issueRequest, spendRequest]

def submissions : List Submission :=
  [{ txID := issueTx, raw := issueRequest.octets, clock }, { txID := spendTx, raw := spendRequest.octets, clock }]

theorem checksum_collision_free : Set.InjOn deployment.sha256 (deployment.hashed submissions) := by
  have apart : ∀ text ∈ submissions.flatMap fun s => (deployment.request s).hashed,
      ∀ other ∈ submissions.flatMap fun s => (deployment.request s).hashed,
      deployment.sha256 text = deployment.sha256 other → text = other := by decide +kernel
  intro text mem other mem' same
  exact apart text (mem_flatMap.mpr mem) other (mem_flatMap.mpr mem') same

theorem issue_and_redeem_conserved : (deployment.committed submissions).length = 2 ∧
    ∃ present, Conserved deployment 32 submissions present :=
  ⟨by decide +kernel, supply_conserved deployment (deployment_lawful _) 32 (by decide) submissions (by decide) (by decide)
    (by decide +kernel) checksum_collision_free⟩

end IssueAndRedeem

-- What the validator asks of an action: at the place of each token it spends, a verifier of the token's owner.
def OwnersRequired (d : Deployment) (value : AnyAction) (verifiers : List Verifier) : Prop :=
  ∀ (k : Nat) (entry : TokenID × Bytes), (toTranslator value).spent[k]? = some entry → ∃ (tok : Output) (verifier : Verifier),
    entry.2 = tok.serialize ∧ d.deserializer.getOwnerVerifier tok.owner = .ok (some verifier) ∧ verifiers[k]? = some verifier

theorem verified_action_owned {clock : Clock} {provider consumed : Backend} {action : DeserializedAction IssueAction TransferAction}
    (done : d.validator.verifyDeserializedAction clock request provider action = .ok consumed) :
    ∃ verifiers, verifiers ≠ [] ∧ OwnersRequired d action.value verifiers ∧ Signed provider verifiers consumed := by
  obtain ⟨⟨verifiers, nonempty, needed, signed⟩, inputs, _, moves⟩ := verified_action_ok done
  refine ⟨verifiers, nonempty, fun k entry spent => ?_, signed⟩
  rw [moves.spent, getElem?_map, Option.map_eq_some_iff] at spent
  obtain ⟨⟨id, tok⟩, found, rfl⟩ := spent
  have owner : (ownersOf (inputs.map Prod.snd))[k]? = some (.owner tok.owner) := by simp [found]
  have asked : (requiredSigners d.pp action.value)[k]? = some (.owner tok.owner) := by
    obtain ⟨later, same⟩ := moves.owners
    rw [← same, getElem?_append_left (List.getElem?_eq_some_iff.mp owner).1, owner]
  obtain ⟨verifier, given, deserialized⟩ := Pointwise.forall₂_at needed asked
  exact ⟨tok, verifier, rfl, deserialized, given⟩

theorem spent_by_owner (d : Deployment) (lawful : d.protobuf.Lawful) (n : Nat) (long : 32 ≤ n) (submissions : List Submission)
    (distinct : (submissions.map Submission.txID).Nodup) (sized : ∀ s ∈ submissions, s.txID.length = n)
    (named : ∀ s ∈ submissions, ∀ id ∈ d.inputs s, id.txId.length = n) (collisionFree : Set.InjOn d.sha256 (d.hashed submissions))
    (s : Submission) (committed : s ∈ d.committed submissions) (i k : Nat) (value : AnyAction)
    (performed : (d.actions s)[i]? = some value) (entry : TokenID × Bytes) (spent : (toTranslator value).spent[k]? = some entry) :
    ∃ creator ∈ d.committed submissions, entry ∈ (d.request creator).stored ∧
      ∃ (tok : Output) (verifier : Verifier) (request : TokenRequest) (message sigma : Bytes), entry.2 = tok.serialize ∧
        d.deserializer.getOwnerVerifier tok.owner = .ok (some verifier) ∧
        TokenRequest.fromBytes d.protobuf.tokenRequest s.raw = .ok request ∧ request.marshalToMessageToSign s.txID = .ok message ∧
        (actionSignaturesByID request (UInt32.ofNat i))[k]? = some sigma ∧
        verifier (s.clock.signing (UInt32.ofNat i) k) message sigma = .ok () := by
  obtain ⟨h, tracks⟩ := run_tracks lawful long distinct sized named collisionFree
  have consumed : entry ∈ h.consumed := by
    rw [tracks.consumed]
    refine mem_flatMap.mpr ⟨s, committed, mem_flatMap.mpr ⟨toTranslator value, ?_, mem_of_getElem? spent⟩⟩
    exact mem_map_of_mem (mem_of_getElem? performed)
  obtain ⟨creator, earlier, stored⟩ := mem_flatMap.mp (tracks.created ▸ h.consumedCreated consumed)
  cases outcome : d.verify s with
  | error reason => simp [actions, outcome] at performed
  | ok result =>
    obtain ⟨request, message, all⟩ := verify_token_request_accepted (reads_actions _ _ _ _ _ _)
      (fun _ _ _ _ => verified_action_owned) outcome
    simp only [actions, outcome] at performed
    obtain ⟨place, listed, -, verifiers, owners, exactly⟩ := Pointwise.forall₂_at all.authorised.flip performed
    obtain ⟨action, -, rfl⟩ : ∃ action, request.actions[i]? = some action ∧ (action, i) = place := by simpa using listed
    obtain ⟨tok, verifier, serialized, deserialized, given⟩ := owners k entry spent
    obtain ⟨sigma, taken, checked⟩ := exactly.verified k verifier given
    exact ⟨creator, earlier, stored, tok, verifier, request, message, sigma, serialized, deserialized, all.parsed,
      all.marshalled, taken, checked⟩

open IssueAndRedeem

theorem redeemed_by_owner : ∃ creator ∈ deployment.committed submissions,
    (⟨issueTx, 0⟩, (Output.fromProto (token owner 0x35)).serialize) ∈ (deployment.request creator).stored := by
  have last : { txID := spendTx, raw := spendRequest.octets, clock := RedeemAndIssue.clock } ∈ deployment.committed submissions := by
    rw [Deployment.committed, (applied_sublist _ submissions).eq_of_length (by decide +kernel)]
    exact .tail _ (.head _)
  obtain ⟨creator, earlier, stored, -⟩ := spent_by_owner deployment (deployment_lawful _) 32 (by decide) submissions
    (by decide) (by decide) (by decide +kernel) checksum_collision_free _ last 0 0 _ rfl _ rfl
  exact ⟨creator, earlier, stored⟩

end Panurus.Fabtoken
