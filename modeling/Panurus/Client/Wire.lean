import Panurus.Client.Request
import Panurus.Driver.MetadataProtos

namespace Panurus.Client

open List Lib Outcome Text Driver

structure Wire where
  marshal : Proto.TokenRequestWithMetadata → Outcome Bytes
  unmarshal : Bytes → Outcome Proto.TokenRequestWithMetadata

def Wire.RoundTrips (wire : Wire) : Prop :=
  ∀ message raw, wire.marshal message = .ok raw →
    ∃ order : Entries → Entries, (∀ entries, (order entries).Perm entries) ∧
      wire.unmarshal raw = .ok (message.overWire order)

namespace Request

variable (wire : Wire) (r : Request)

def bytes : Outcome Bytes := do
  let requestProto ← wrap s!"failed to marshal request in tx [{render r.anchor}]" r.actions.toProtos
  let metadataProto ← wrap s!"failed to marshal metadata in tx [{render r.anchor}]" r.metadata.toProtos
  wire.marshal { version := protocolV1, anchor := r.anchor, request := some requestProto, metadata := some metadataProto }

def actionsFrom : Option Proto.TokenRequest → Outcome TokenRequest
  | some request => wrap "failed unmarshalling actions" (r.actions.fromProtosInto request)
  | none => .ok r.actions

def metadataFrom : Option Proto.TokenRequestMetadata → Outcome TokenRequestMetadata
  | some metadata => wrap "failed unmarshalling metadata" (TokenRequestMetadata.fromProtos metadata)
  | none => .ok r.metadata

def fromBytes (raw : Bytes) : Outcome Request := do
  let requestWithMetadata ← wrap "failed unmarshaling request" (wire.unmarshal raw)
  ensure (requestWithMetadata.version = protocolV1)
    s!"invalid token request with metadata version, expected [{protocolV1}], got [{requestWithMetadata.version}]"
  let actions ← r.actionsFrom requestWithMetadata.request
  let metadata ← r.metadataFrom requestWithMetadata.metadata
  return { anchor := requestWithMetadata.anchor, actions, metadata }

end Request

def Request.received (destination r : Request) (application : Entries) : Request :=
  { anchor := r.anchor
    actions :=
      { version := protocolV1
        actions := r.actions.actions
        signatures := destination.actions.signatures ++ r.actions.signatures }
    metadata := { actions := r.metadata.actions.map ActionMetadataEntry.received, application } }

theorem from_bytes_iff {wire : Wire} (sound : wire.RoundTrips) {r : Request} (sendable : r.actions.Sendable) {raw : Bytes}
    (written : r.bytes wire = .ok raw) :
    ∃ application : Entries, application.Perm r.metadata.application ∧ ∀ destination read : Request,
      destination.fromBytes wire raw = .ok read ↔
        checkEach validateSignature 0 (destination.actions.signatures ++ r.actions.signatures) = .ok () ∧
          read = destination.received r application := by
  simp only [Request.bytes, ok_iff] at written
  obtain ⟨request, requested, metadata, described, marshalled⟩ := written
  obtain ⟨order, permutes, unmarshalled⟩ := sound _ _ marshalled
  refine ⟨order r.metadata.application, permutes _, fun destination read => ?_⟩
  simp only [Request.fromBytes, unmarshalled, Proto.TokenRequestWithMetadata.overWire, Option.map_some, Request.actionsFrom,
    Request.metadataFrom, metadata_arrives order described, ok_iff, Except.ok.injEq, exists_eq_left',
    request_arrives_into sendable requested, exists_const, true_and]
  constructor
  · rintro ⟨_, ⟨valid, rfl⟩, rfl⟩
    exact ⟨valid, rfl⟩
  · rintro ⟨valid, rfl⟩
    exact ⟨_, ⟨valid, rfl⟩, rfl⟩

def OutputsComplete (outputs : List (Option OutputMetadata)) : Prop :=
  ∀ output ∈ outputs, ∃ metadata, output = some metadata ∧ none ∉ metadata.receivers

def InputsComplete (inputs : List (Option TransferInputMetadata)) : Prop :=
  ∀ input ∈ inputs, ∃ metadata, input = some metadata ∧ none ∉ metadata.senders

def EntryComplete (entry : ActionMetadataEntry) : Prop :=
  match entry.issueMetadata, entry.transferMetadata with
  | some issue, none => OutputsComplete issue.outputs
  | none, some transfer => InputsComplete transfer.inputs ∧ OutputsComplete transfer.outputs
  | _, _ => False

theorem identities_complete {identities : List (Option AuditableIdentity)} (complete : none ∉ identities) :
    identitiesReceived identities = identities := by
  rw [identitiesReceived, map_congr_left (g := id), map_id]
  intro identity mem
  cases identity with
  | none => exact absurd mem complete
  | some found => rfl

theorem outputs_complete {outputs : List (Option OutputMetadata)} (complete : OutputsComplete outputs) :
    outputsReceived outputs = outputs := by
  rw [outputsReceived, map_congr_left (g := id), map_id]
  intro output mem
  obtain ⟨metadata, rfl, receivers⟩ := complete output mem
  simp [outputReceived, OutputMetadata.received, identities_complete receivers]

theorem inputs_complete {inputs : List (Option TransferInputMetadata)} (complete : InputsComplete inputs) :
    (inputs.map fun input => some ((input.map TransferInputMetadata.received).getD noInput)) = inputs := by
  rw [map_congr_left (g := id), map_id]
  intro input mem
  obtain ⟨metadata, rfl, senders⟩ := complete input mem
  simp [TransferInputMetadata.received, identities_complete senders]

-- Identities are compared by their bytes: nil and empty are the same.
def TransferIssuer.bytes (issuer : TransferIssuer) : AuditableIdentity :=
  { identity := issuer.identity.getD [], auditInfo := issuer.auditInfo }

open TransferIssuer

structure SameTransfer (transfer other : TransferMetadata) : Prop where
  inputs : transfer.inputs = other.inputs
  outputs : transfer.outputs = other.outputs
  extraSigners : transfer.extraSigners = other.extraSigners
  issuer : bytes transfer.issuer = bytes other.issuer

structure SameEntry (entry other : ActionMetadataEntry) : Prop where
  actionID : entry.actionID = other.actionID
  issue : entry.issueMetadata = other.issueMetadata
  transfer : Option.Rel SameTransfer entry.transferMetadata other.transferMetadata

structure SameContent (r other : Request) : Prop where
  anchor : r.anchor = other.anchor
  actions : r.actions.actions = other.actions.actions
  signatures : r.actions.signatures = other.actions.signatures
  entries : List.Forall₂ SameEntry r.metadata.actions other.metadata.actions
  application : r.metadata.application.Perm other.metadata.application

def NoOrphanAuditInfo (entry : ActionMetadataEntry) : Prop :=
  ∀ transfer, entry.transferMetadata = some transfer → transfer.issuer.identity = none → transfer.issuer.auditInfo = []

theorem issuer_kept_iff (issuer : TransferIssuer) :
    bytes issuer.received = bytes issuer ↔ (issuer.identity = none → issuer.auditInfo = []) := by
  obtain ⟨identity, auditInfo⟩ := issuer
  cases identity with
  | none => simp [bytes, received]
  | some raw => cases raw <;> simp [bytes, received, Option.filter]

theorem entry_kept_iff {entry : ActionMetadataEntry} (complete : EntryComplete entry) :
    SameEntry entry.received entry ↔ NoOrphanAuditInfo entry := by
  obtain ⟨actionID, issueMetadata, transferMetadata⟩ := entry
  cases issueMetadata with
  | some issue =>
    cases transferMetadata with
    | some transfer => exact complete.elim
    | none =>
      have outputs := outputs_complete complete
      refine ⟨fun _ transfer found => (by cases found), fun _ => ⟨rfl, ?_, .none⟩⟩
      exact congrArg some (show { issue with outputs := outputsReceived issue.outputs } = issue by rw [outputs])
  | none =>
    cases transferMetadata with
    | none => exact complete.elim
    | some transfer =>
      have same : SameTransfer transfer.received transfer ↔
          (transfer.issuer.identity = none → transfer.issuer.auditInfo = []) := by
        rw [← issuer_kept_iff]
        exact ⟨fun kept => kept.issuer, fun issuer => ⟨inputs_complete complete.1, outputs_complete complete.2, rfl, issuer⟩⟩
      constructor
      · intro kept other found
        obtain rfl := Option.some.inj found
        cases kept.transfer with
        | some here => exact same.mp here
      · intro clean
        exact ⟨rfl, rfl, .some (same.mpr (clean transfer rfl))⟩

structure Request.Valid (r : Request) : Prop where
  sendable : r.actions.Sendable
  complete : ∀ entry ∈ r.metadata.actions, EntryComplete entry

theorem entries_kept_iff {entries : List ActionMetadataEntry} (complete : ∀ entry ∈ entries, EntryComplete entry) :
    List.Forall₂ SameEntry (entries.map ActionMetadataEntry.received) entries ↔ ∀ entry ∈ entries, NoOrphanAuditInfo entry := by
  rw [forall₂_map_left_iff, forall₂_same]
  exact forall₂_congr fun entry mem => entry_kept_iff (complete entry mem)

theorem from_bytes_round_trip (wire : Wire) (sound : wire.RoundTrips) (r : Request) (valid : r.Valid) (raw : Bytes)
    (written : r.bytes wire = .ok raw) (d : Request) :
    (∃ read, d.fromBytes wire raw = .ok read ∧ SameContent read r) ↔
      d.actions.signatures = [] ∧ ∀ entry ∈ r.metadata.actions, NoOrphanAuditInfo entry := by
  obtain ⟨application, permuted, reads⟩ := from_bytes_iff sound valid.sendable written
  constructor
  · rintro ⟨read, done, same⟩
    obtain ⟨_, rfl⟩ := (reads d read).mp done
    exact ⟨append_left_eq_self.mp same.signatures, (entries_kept_iff valid.complete).mp same.entries⟩
  · rintro ⟨unsigned, clean⟩
    refine ⟨d.received r application, (reads d _).mpr ⟨?_, rfl⟩, rfl, rfl, ?_, (entries_kept_iff valid.complete).mpr clean, permuted⟩
    · rw [unsigned]
      exact (validate_ok_iff.mp valid.sendable.valid).2
    · exact append_left_eq_self.mpr unsigned

-- Knows one message and its octets.
def Wire.carrying (message : Proto.TokenRequestWithMetadata) (octets : Bytes) : Wire :=
  { marshal := fun sent => if sent = message then .ok octets else .error "not carried"
    unmarshal := fun raw => if raw = octets then .ok (message.overWire id) else .error "cannot parse invalid wire-format data" }

theorem carrying_round_trips (message : Proto.TokenRequestWithMetadata) (octets : Bytes) :
    (Wire.carrying message octets).RoundTrips := by
  intro sent raw marshalled
  by_cases same : sent = message
  · subst same
    obtain rfl : octets = raw := by simpa [Wire.carrying] using marshalled
    exact ⟨id, fun entries => .refl entries, if_pos rfl⟩
  · simp [Wire.carrying, same] at marshalled

open Proto (field)

def identityOctets (i : AuditableIdentity) : Bytes := field 1 (field 1 i.identity) ++ field 2 i.auditInfo

def outputOctets (o : OutputMetadata) : Bytes :=
  field 1 o.outputMetadata ++ field 2 o.outputAuditInfo ++ o.receivers.flatMap fun r => field 3 (r.elim [] identityOctets)

def withMetadataOctets (message : Proto.TokenRequestWithMetadata) (entry : Bytes) : Bytes :=
  [8, 1] ++ field 2 message.anchor ++ message.request.elim [] (fun request => field 3 request.octets) ++
    field 4 ([8, 1] ++ field 2 entry)

namespace Reused

def signature (octet : UInt8) : RequestSignature := { action := some { actionID := 0, signature := [octet] }, auditor := none }

def issue : IssueMetadata :=
  { issuer := { identity := [9], auditInfo := [9] }
    inputs := []
    outputs := [some { outputMetadata := [1], outputAuditInfo := [2], receivers := [some { identity := [3], auditInfo := [4] }] }]
    extraSigners := [] }

def request : Request :=
  { anchor := [0x61]
    actions := { version := 1, actions := [{ type := .issue, raw := [1] }], signatures := [signature 5] }
    metadata := { actions := [{ actionID := 0, issueMetadata := some issue, transferMetadata := none }], application := [] } }

def message : Proto.TokenRequestWithMetadata :=
  { version := 1
    anchor := [0x61]
    request := some
      { version := 1
        actions := [some (.typedAction .issue [1])]
        signatures := [some (.actionSignature 0 (some [5]))] }
    metadata := some
      { version := 1
        metadata := [some { actionId := 0, metadata := .issueMetadata issue.toProtos }]
        applicationMetadata := [] } }

def octets : Bytes :=
  let metadata := field 1 (identityOctets issue.issuer) ++ issue.outputs.flatMap fun o => field 3 (o.elim [] outputOctets)
  withMetadataOctets message (field 2 metadata)

def wire : Wire := .carrying message octets

theorem request_valid : request.Valid := by
  constructor
  · exact ⟨.inr rfl, by simp [request], rfl⟩
  · simp [request, issue, EntryComplete, OutputsComplete]

theorem written : request.bytes wire = .ok octets := by decide +kernel

-- The destination has another action, with its metadata.
def used : Request :=
  { anchor := [0x62]
    actions := { version := 1, actions := [{ type := .issue, raw := [2] }], signatures := [] }
    metadata := { actions := [{ actionID := 0, issueMetadata := some issue, transferMetadata := none }], application := [([3], [4])] } }

theorem unsigned_destination : ∃ read, used.fromBytes wire octets = .ok read ∧ SameContent read request := by
  have clean : ∀ entry ∈ request.metadata.actions, NoOrphanAuditInfo entry := by
    simp [request, NoOrphanAuditInfo]
  exact (from_bytes_round_trip wire (carrying_round_trips message octets) request request_valid octets written used).mpr ⟨rfl, clean⟩

def signed : Request :=
  { Request.new [] with actions := { version := 1, actions := [{ type := .issue, raw := [2] }], signatures := [signature 7] } }

-- The action of the destination is replaced, its signature is not.
theorem old_signature_stays : request.Valid ∧ request.bytes wire = .ok octets ∧ ∃ read, signed.fromBytes wire octets = .ok read ∧
    read.actions.actions = request.actions.actions ∧ read.actions.signatures = [signature 7, signature 5] ∧
    request.actions.signatures = [signature 5] :=
  ⟨request_valid, written, _, rfl, rfl, rfl, rfl⟩

end Reused

end Panurus.Client
