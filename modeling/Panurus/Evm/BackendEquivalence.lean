import Panurus.Evm.Translator

namespace Panurus.Evm

open List Lib Outcome Mapping FixedWidth Rws Action

variable {entry : TokenID × Bytes} {raw : Bytes}

section Writes

variable {sha256 : Bytes → Bytes} {txID : Bytes} {actions : List Action} {hashed : Set Bytes}
  {writes : List (Key × Value)} {stored spent : List (TokenID × Bytes)} {metadata : List MetadataEntry}

theorem or_columns {a b c a' b' c' : Prop} : ((a ∨ b) ∨ c) ∨ a' ∨ b' ∨ c' ↔ (a ∨ a') ∨ (b ∨ b') ∨ c ∨ c' := by
  tauto

theorem mem_writes_from_iff {counter : UInt64} {write : Key × Value} (revealing : ∀ action ∈ actions, Revealing action) :
    write ∈ writesFrom sha256 txID counter actions ↔
      (∃ entry ∈ storedFrom txID counter actions, write ∈ storedWrites sha256 false entry) ∨
      (∃ entry ∈ actions.flatMap Action.spent, write ∈ spentWrites sha256 entry) ∨
      ∃ entry ∈ actions.flatMap Action.metadata, entry.write = write := by
  induction actions generalizing counter with
  | nil => simp [writesFrom, storedFrom]
  | cons action rest ih =>
    obtain ⟨⟨shown, serials⟩, others⟩ := forall_mem_cons.mp revealing
    have plain : action.isGraphHiding = false ∧ action.setupWrites sha256 = [] := by
      cases action with
      | issue action | transfer action => exact ⟨shown, rfl⟩
      | setup parameters | unknown type => exact absurd shown id
    rw [writesFrom, mem_append, ih others, Action.writes, plain.1, plain.2, serials, storedFrom]
    simp only [mem_append, mem_flatMap, mem_map, map_nil, not_mem_nil, or_false, flatMap_cons, or_and_right, exists_or]
    exact or_columns

structure Stands (sha256 : Bytes → Bytes) (hashed : Set Bytes) (writes : List (Key × Value))
    (stored spent : List (TokenID × Bytes)) (metadata : List MetadataEntry) : Prop where
  mem_iff : ∀ write, write ∈ writes ↔ (∃ entry ∈ stored, write ∈ storedWrites sha256 false entry) ∨
    (∃ entry ∈ spent, write ∈ spentWrites sha256 entry) ∨ ∃ entry ∈ metadata, entry.write = write
  sized : Sized 64 hashed (stored ++ spent)
  closed : ∀ entry ∈ stored ++ spent, 0x00 ∉ entry.1.txId

theorem metadata_type_listed (kind : MetadataKind) : kind.objectType ∈ shortTypes ∧ kind.objectType ≠ outputSNKeyPrefix := by
  cases kind <;> decide

theorem sn_key_ne_metadata (entry : TokenID × Bytes) (other : MetadataEntry) :
    other.write.1 ≠ outputSNKey sha256 entry.1 entry.2 := by
  intro same
  obtain ⟨listed, different⟩ := metadata_type_listed other.kind
  exact different (composite_key_type (short_types_short _ listed).2 sn_prefix_closed same)

theorem metadata_write_injective {entry other : MetadataEntry} (same : entry.write = other.write) : entry = other := by
  obtain ⟨keys, values⟩ := Prod.mk.inj same
  have types := composite_key_type (short_types_short _ (metadata_type_listed entry.kind).1).2
    (short_types_short _ (metadata_type_listed other.kind).1).2 keys
  have kinds : ∀ kind other : MetadataKind, kind.objectType = other.objectType → kind = other := by
    intro kind other equal
    cases kind <;> cases other <;> first | rfl | exact absurd equal (by decide)
  obtain ⟨kind, key, value⟩ := entry
  obtain rfl := kinds _ _ types
  have same := metadata_key_injective keys
  simp only at same values
  rw [same, values]

theorem sn_write_iff (stands : Stands sha256 hashed writes stored spent metadata) (collisionFree : Set.InjOn sha256 hashed)
    {value : Value} (length : entry.1.txId.length = 64) (known : snInput entry ∈ hashed) :
    (outputSNKey sha256 entry.1 entry.2, value) ∈ writes ↔ entry ∈ stored ∧ value = notEmpty ∨ entry ∈ spent ∧ value = [] := by
  have apart : ∀ other ∈ stored ++ spent, outputSNKey sha256 entry.1 entry.2 ≠ outputKey other.1 := by
    intro other mem
    exact sn_key_ne_output (by rw [(stands.sized other mem).1]; decide) (stands.closed other mem)
  have same : ∀ other ∈ stored ++ spent, outputSNKey sha256 entry.1 entry.2 = outputSNKey sha256 other.1 other.2 →
      entry = other := by
    intro other mem equal
    obtain ⟨size, hashing⟩ := stands.sized other mem
    exact sn_key_injective collisionFree known hashing (length.trans size.symm) equal
  rw [stands.mem_iff]
  constructor
  · rintro (⟨other, mem, inside⟩ | ⟨other, mem, inside⟩ | ⟨other, mem, equal⟩)
    · simp only [storedWrites, Bool.false_eq_true, if_false, mem_cons, not_mem_nil, or_false, Prod.mk.injEq] at inside
      rcases inside with ⟨equal, -⟩ | ⟨equal, rfl⟩
      · exact absurd equal (apart other (mem_append_left _ mem))
      · exact .inl ⟨same other (mem_append_left _ mem) equal ▸ mem, rfl⟩
    · simp only [spentWrites, mem_cons, not_mem_nil, or_false, Prod.mk.injEq] at inside
      rcases inside with ⟨equal, rfl⟩ | ⟨equal, -⟩
      · exact .inr ⟨same other (mem_append_right _ mem) equal ▸ mem, rfl⟩
      · exact absurd equal (apart other (mem_append_right _ mem))
    · exact absurd (congrArg Prod.fst equal) (sn_key_ne_metadata entry other)
  · rintro (⟨mem, rfl⟩ | ⟨mem, rfl⟩)
    · exact .inl ⟨entry, mem, by simp [storedWrites]⟩
    · exact .inr (.inl ⟨entry, mem, by simp [spentWrites]⟩)

theorem metadata_write_iff (stands : Stands sha256 hashed writes stored spent metadata) {entry : MetadataEntry} :
    entry.write ∈ writes ↔ entry ∈ metadata := by
  have apart : ∀ other ∈ stored ++ spent, entry.write.1 ≠ outputKey other.1 := by
    intro other mem equal
    exact output_key_ne_short (by rw [(stands.sized other mem).1]; decide) (stands.closed other mem)
      (metadata_type_listed entry.kind).1 _ equal.symm
  rw [stands.mem_iff]
  constructor
  · rintro (⟨other, mem, inside⟩ | ⟨other, mem, inside⟩ | ⟨other, mem, equal⟩)
    · simp only [storedWrites, Bool.false_eq_true, if_false, mem_cons, not_mem_nil, or_false] at inside
      rcases inside with equal | equal
      · exact absurd (congrArg Prod.fst equal) (apart other (mem_append_left _ mem))
      · exact absurd (congrArg Prod.fst equal) (sn_key_ne_metadata other entry)
    · simp only [spentWrites, mem_cons, not_mem_nil, or_false] at inside
      rcases inside with equal | equal
      · exact absurd (congrArg Prod.fst equal) (sn_key_ne_metadata other entry)
      · exact absurd (congrArg Prod.fst equal) (apart other (mem_append_right _ mem))
    · exact metadata_write_injective equal ▸ mem
  · exact fun mem => .inr (.inr ⟨entry, mem, rfl⟩)

end Writes

section Delta

variable {keccak256 sha256 : Hash} {txID ppRaw : Bytes} {ppVersion : UInt64} {actions : List Action}
  {tokenRequestToSign : Bytes} {hashed : Set Bytes}

def StateDelta.Creates (keccak256 : Hash) (d : StateDelta) (index : UInt64) (raw : Bytes) : Prop :=
  ⟨computeTokenID keccak256 d.anchor index, outputSNMarker keccak256 d.anchor index raw, raw⟩ ∈ d.outputs

def StateDelta.Consumes (keccak256 : Hash) (d : StateDelta) (anchor : Bytes32) (index : UInt64) (raw : Bytes) : Prop :=
  outputSNMarker keccak256 anchor index raw ∈ d.spentRefs

def StateDelta.Records (keccak256 : Hash) (d : StateDelta) (entry : MetadataEntry) : Prop :=
  metadataPair keccak256 entry ∈ d.metadataKeys.zip d.metadataVals

structure OutputHashed (keccak256 : Hash) (hashed : Set Bytes) (entry : TokenID × Bytes) : Prop where
  identifier : tokenIDInput (anchorOf entry.1.txId) entry.1.index ∈ hashed
  content : entry.2 ∈ hashed
  marker : markerInput (anchorOf entry.1.txId) entry.1.index (keccak256 entry.2) ∈ hashed

section

variable (collisionFree : Set.InjOn keccak256 hashed)
include collisionFree

theorem marker_of_injective {other : TokenID × Bytes} (known : OutputHashed keccak256 hashed entry)
    (known' : OutputHashed keccak256 hashed other) (same : markerOf keccak256 entry = markerOf keccak256 other) :
    anchorOf entry.1.txId = anchorOf other.1.txId ∧ entry.1.index = other.1.index ∧ entry.2 = other.2 := by
  have inputs := collisionFree known.marker known'.marker same
  obtain ⟨anchors, indexes⟩ := marker_input_injective inputs
  rw [anchors, indexes] at inputs
  exact ⟨anchors, indexes, collisionFree known.content known'.content (bytes32_injective (append_cancel_left inputs))⟩

theorem delta_creates_iff (stored : ∀ entry ∈ storedFrom txID 0 actions, OutputHashed keccak256 hashed entry) {index : UInt64}
    (known : OutputHashed keccak256 hashed (⟨txID, index⟩, raw)) :
    (deltaOf keccak256 sha256 txID ppRaw ppVersion actions tokenRequestToSign).Creates keccak256 index raw ↔
      (⟨txID, index⟩, raw) ∈ storedFrom txID 0 actions := by
  constructor
  · intro mem
    obtain ⟨⟨⟨owner, place⟩, content⟩, found, same⟩ := mem_map.mp mem
    obtain rfl : owner = txID := stored_from_txid found
    obtain ⟨ids, -, rfl⟩ := OutputToken.mk.inj same
    obtain ⟨-, rfl⟩ := token_id_input_injective (collisionFree (stored _ found).identifier known.identifier ids)
    exact found
  · exact fun mem => mem_map.mpr ⟨_, mem, rfl⟩

theorem delta_consumes_iff (spent : ∀ entry ∈ actions.flatMap Action.spent, OutputHashed keccak256 hashed entry)
    (known : OutputHashed keccak256 hashed entry) :
    (deltaOf keccak256 sha256 txID ppRaw ppVersion actions tokenRequestToSign).Consumes keccak256 (anchorOf entry.1.txId)
      entry.1.index entry.2 ↔ ∃ other ∈ actions.flatMap Action.spent,
        anchorOf other.1.txId = anchorOf entry.1.txId ∧ other.1.index = entry.1.index ∧ other.2 = entry.2 := by
  constructor
  · intro mem
    obtain ⟨other, found, same⟩ := mem_map.mp mem
    exact ⟨other, found, marker_of_injective collisionFree (spent other found) known same⟩
  · rintro ⟨other, found, anchors, indexes, contents⟩
    refine mem_map.mpr ⟨other, found, ?_⟩
    rw [markerOf, anchors, indexes, contents]

theorem delta_records_iff (metadata : ∀ entry ∈ actions.flatMap metadata, metadataInput entry ∈ hashed)
    {entry : MetadataEntry} (known : metadataInput entry ∈ hashed) :
    (deltaOf keccak256 sha256 txID ppRaw ppVersion actions tokenRequestToSign).Records keccak256 entry ↔
      entry ∈ actions.flatMap Action.metadata := by
  have paired : (deltaOf keccak256 sha256 txID ppRaw ppVersion actions tokenRequestToSign).Records keccak256 entry ↔
      metadataPair keccak256 entry ∈ (actions.flatMap Action.metadata).map (metadataPair keccak256) := by
    rw [StateDelta.Records, deltaOf, ← zip_of_prod rfl rfl]
    exact (mergeSort_perm _ _).mem_iff
  rw [paired]
  constructor
  · intro mem
    obtain ⟨other, found, same⟩ := mem_map.mp mem
    obtain ⟨hashes, values⟩ := Prod.mk.inj same
    obtain ⟨kinds, keys⟩ := metadata_input_injective (collisionFree (metadata other found) known hashes)
    have equal : other = entry := by
      cases other
      simp only at kinds keys values
      rw [kinds, keys, values]
    exact equal ▸ found
  · exact mem_map_of_mem

end

end Delta

section Agreement

def WritesCreate (sha256 : Bytes → Bytes) (writes : List (Key × Value)) (entry : TokenID × Bytes) : Prop :=
  (outputKey entry.1, entry.2) ∈ writes ∧ (outputSNKey sha256 entry.1 entry.2, notEmpty) ∈ writes

def WritesConsume (sha256 : Bytes → Bytes) (writes : List (Key × Value)) (entry : TokenID × Bytes) : Prop :=
  (outputSNKey sha256 entry.1 entry.2, []) ∈ writes ∧ (outputKey entry.1, []) ∈ writes

-- The two backends hash other texts of an output: keccak256 those of the markers, sha256 those of the serial numbers.
structure BothHashed (keccak256 : Hash) (hashed serials : Set Bytes) (entry : TokenID × Bytes) : Prop extends
    OutputHashed keccak256 hashed entry where
  serial : snInput entry ∈ serials

structure RequestHashed (keccak256 : Hash) (hashed serials : Set Bytes) (txID : Bytes) (actions : List Action) : Prop where
  stored : ∀ entry ∈ storedFrom txID 0 actions, BothHashed keccak256 hashed serials entry
  spent : ∀ entry ∈ actions.flatMap spent, BothHashed keccak256 hashed serials entry
  metadata : ∀ entry ∈ actions.flatMap metadata, metadataInput entry ∈ hashed

-- The same outputs, at the index their place gives them, the same inputs and the same metadata. A delta names a
-- transaction by its anchor, which an identifier may spell in small or capital letters.
structure SameEffect (keccak256 : Hash) (sha256 : Bytes → Bytes) (hashed serials : Set Bytes) (txID : Bytes)
    (actions : List Action) (d : StateDelta) (writes : List (Key × Value)) : Prop where
  creates : ∀ index raw, BothHashed keccak256 hashed serials (⟨txID, index⟩, raw) →
    (d.Creates keccak256 index raw ↔ WritesCreate sha256 writes (⟨txID, index⟩, raw))
  places : ∀ index raw, BothHashed keccak256 hashed serials (⟨txID, index⟩, raw) →
    (d.Creates keccak256 index raw ↔ ∃ (position : Nat) (action : Action) (j : Nat) (output : TransferOutput),
      actions[position]? = some action ∧ action.outputs[j]? = some output ∧ output.isRedeem = false ∧
      output.serialized = .ok raw ∧ index = UInt64.ofNat (outputCount (actions.take position) + j))
  consumes : ∀ txId index raw, Anchored txId → OutputHashed keccak256 hashed (⟨txId, index⟩, raw) →
    (d.Consumes keccak256 (anchorOf txId) index raw ↔ ∃ spelled, Anchored spelled ∧ anchorOf spelled = anchorOf txId ∧
      snInput (⟨spelled, index⟩, raw) ∈ serials ∧ WritesConsume sha256 writes (⟨spelled, index⟩, raw))
  records : ∀ entry, metadataInput entry ∈ hashed → (d.Records keccak256 entry ↔ entry.write ∈ writes)

variable {keccak256 sha256 : Hash} {hashed serials : Set Bytes} {txID ppRaw : Bytes} {ppVersion : UInt64}
  {actions : List Action} {tokenRequestToSign : Bytes} {state final : State}

theorem kept_iff {output : TransferOutput} : output.kept = some raw ↔ output.isRedeem = false ∧ output.serialized = .ok raw := by
  obtain ⟨isRedeem, serialized⟩ := output
  cases isRedeem <;> cases serialized <;> simp [TransferOutput.kept, Except.toOption]

theorem spent_anchored {action : Action} (readable : Readable action) (mem : entry ∈ action.spent) : Anchored entry.1.txId := by
  have listed : ∀ action : ActionWithInputs, InputsReadable action → entry ∈ action.spent → Anchored entry.1.txId := by
    intro action inputs mem
    rw [ActionWithInputs.spent] at mem
    split at mem
    · exact inputs.anchored _ (of_mem_zip mem).1
    · cases mem
  cases action with
  | issue action | transfer action => exact listed _ readable.2 mem
  | setup parameters | unknown type => exact absurd readable id

theorem same_effect {d : StateDelta} (collisionFree : Set.InjOn keccak256 hashed) (serialsFree : Set.InjOn sha256 serials)
    (revealing : ∀ action ∈ actions, Revealing action) (known : RequestHashed keccak256 hashed serials txID actions)
    (built : buildDelta keccak256 sha256 txID ppRaw ppVersion actions tokenRequestToSign = .ok d)
    (committed : commitRequest (octetsOf sha256) state ⟨txID, actions⟩ = .ok final) :
    final = writeAll state (Request.writes (octetsOf sha256) ⟨txID, actions⟩) ∧
      SameEffect keccak256 (octetsOf sha256) hashed serials txID actions d
        (Request.writes (octetsOf sha256) ⟨txID, actions⟩) := by
  obtain ⟨anchored, readable, -, -, -, rfl⟩ := (build_delta_ok_iff revealing).mp built
  rw [commitRequest, bind_ok_iff] at committed
  obtain ⟨t, run, done⟩ := committed
  obtain rfl := pure_ok_iff.mp done
  have wrote := actions_wrote run
  have octetsFree : Set.InjOn (octetsOf sha256) serials := by
    intro text mem other mem' same
    exact serialsFree mem mem' (bytes32_injective same)
  have spentAnchored : ∀ entry ∈ actions.flatMap Action.spent, Anchored entry.1.txId := by
    intro entry mem
    obtain ⟨action, listed, inside⟩ := mem_flatMap.mp mem
    exact spent_anchored (readable action listed) inside
  have stands : Stands (octetsOf sha256) serials
      (Request.writes (octetsOf sha256) ⟨txID, actions⟩) (storedFrom txID 0 actions)
      (actions.flatMap Action.spent) (actions.flatMap Action.metadata) := by
    refine ⟨fun write => mem_writes_from_iff revealing, ?_, forall_mem_append.mpr ⟨wrote.storedClosed, wrote.spentClosed⟩⟩
    refine forall_mem_append.mpr ⟨fun entry mem => ⟨?_, (known.stored entry mem).serial⟩, fun entry mem => ⟨?_, ?_⟩⟩
    · rw [stored_from_txid mem]
      exact anchored_length anchored
    · exact anchored_length (spentAnchored entry mem)
    · exact (known.spent entry mem).serial
  have creates : ∀ index raw, BothHashed keccak256 hashed serials (⟨txID, index⟩, raw) →
      ((deltaOf keccak256 sha256 txID ppRaw ppVersion actions tokenRequestToSign).Creates keccak256 index raw ↔
        (⟨txID, index⟩, raw) ∈ storedFrom txID 0 actions) := fun index raw hashing =>
    delta_creates_iff collisionFree (fun entry mem => (known.stored entry mem).toOutputHashed) hashing.toOutputHashed
  refine ⟨wrote.state, ?_, ?_, ?_, ?_⟩
  · intro index raw hashing
    rw [creates index raw hashing, WritesCreate, sn_write_iff stands octetsFree (anchored_length anchored) hashing.serial]
    constructor
    · exact fun mem => ⟨(stands.mem_iff _).mpr (.inl ⟨_, mem, by simp [storedWrites]⟩), .inl ⟨mem, rfl⟩⟩
    · rintro ⟨-, ⟨mem, -⟩ | ⟨-, nothing⟩⟩
      · exact mem
      · exact absurd nothing (by decide)
  · intro index raw hashing
    rw [creates index raw hashing, mem_stored_from_iff]
    simp [kept_iff, and_assoc]
  · intro txId index raw spelled hashing
    rw [delta_consumes_iff collisionFree (fun entry mem => (known.spent entry mem).toOutputHashed) hashing]
    constructor
    · rintro ⟨⟨⟨other, place⟩, content⟩, mem, anchors, rfl, rfl⟩
      have serial := (known.spent _ mem).serial
      refine ⟨other, spentAnchored _ mem, anchors, serial, ?_, ?_⟩
      · exact (sn_write_iff stands octetsFree (anchored_length (spentAnchored _ mem)) serial).mpr (.inr ⟨mem, rfl⟩)
      · exact (stands.mem_iff _).mpr (.inr (.inl ⟨_, mem, by simp [spentWrites]⟩))
    · rintro ⟨other, decoded, anchors, serial, marked, -⟩
      rcases (sn_write_iff stands octetsFree (anchored_length decoded) serial).mp marked with ⟨-, nothing⟩ | ⟨mem, -⟩
      · exact absurd nothing (by decide)
      · exact ⟨_, mem, anchors, rfl, rfl⟩
  · intro entry hashing
    rw [delta_records_iff collisionFree known.metadata hashing, metadata_write_iff stands]

theorem spent_once (revealing : ∀ action ∈ actions, Revealing action)
    (committed : commitRequest (octetsOf sha256) state ⟨txID, actions⟩ = .ok final) :
    ((actions.flatMap spent).map Prod.fst).Nodup := by
  rw [commitRequest, bind_ok_iff] at committed
  obtain ⟨t, run, -⟩ := committed
  have once := (actions_wrote run).fresh.1
  have listed : actions.flatMap spentIDs = ((actions.flatMap spent).map Prod.fst).map outputKey := by
    rw [map_map, map_flatMap]
    refine flatMap_congr fun action mem => ?_
    rw [spentIDs, (revealing action mem).2, append_nil]
    rfl
  rw [listed] at once
  exact once.of_map

-- The two translators agree where both succeed. The one for the EVM looks at no reference twice; the other refuses a list
-- that spends an output twice, from every state.
theorem backends_equivalent (keccak256 sha256 : Hash) (txID ppRaw : Bytes) (ppVersion : UInt64) (actions : List Action)
    (tokenRequestToSign : Bytes) (revealing : ∀ action ∈ actions, Revealing action) :
    (∀ (hashed serials : Set Bytes) (state final : State) (d : StateDelta), Set.InjOn keccak256 hashed →
      Set.InjOn sha256 serials → RequestHashed keccak256 hashed serials txID actions →
      buildDelta keccak256 sha256 txID ppRaw ppVersion actions tokenRequestToSign = .ok d →
      commitRequest (octetsOf sha256) state ⟨txID, actions⟩ = .ok final →
      final = writeAll state (Request.writes (octetsOf sha256) ⟨txID, actions⟩) ∧
      SameEffect keccak256 (octetsOf sha256) hashed serials txID actions d (Request.writes (octetsOf sha256) ⟨txID, actions⟩)) ∧
    ((∃ d, buildDelta keccak256 sha256 txID ppRaw ppVersion actions tokenRequestToSign = .ok d) ↔
      Anchored txID ∧ (∀ action ∈ actions, Readable action) ∧ ppRaw ≠ [] ∧ tokenRequestToSign ≠ [] ∧
      WithinLimits keccak256 txID actions) ∧ (¬ ((actions.flatMap spent).map Prod.fst).Nodup → ∀ state final,
      commitRequest (octetsOf sha256) state ⟨txID, actions⟩ ≠ .ok final) := by
  refine ⟨?_, ?_, fun twice state final committed => twice (spent_once revealing committed)⟩
  · intro hashed serials state final d collisionFree serialsFree known built committed
    exact same_effect collisionFree serialsFree revealing known built committed
  · simp only [build_delta_ok_iff revealing, delta_valid_iff, exists_and_left, exists_eq, and_true]

end Agreement

namespace IssueAndRedeem

def txID : Bytes := List.replicate 63 0x30 ++ [0x31]
def spentID : TokenID := ⟨List.replicate 63 0x30 ++ [0x32], 0⟩

def issue : IssueAction :=
  { inputs := []
    serializedInputs := .ok []
    serialNumbers := []
    serializedOutputs := .ok [[0x07]]
    metadata := [([0x6b], [0x76])]
    isGraphHiding := false }

def transfer : TransferAction :=
  { inputs := [spentID]
    serializedInputs := .ok [[0x09]]
    serialNumbers := []
    outputs := [⟨true, .ok []⟩, ⟨false, .ok [0x08]⟩]
    metadata := []
    isGraphHiding := false }

def actions : List Action := [.issue issue, .transfer transfer]

def hashed : List Bytes :=
  (storedFrom txID 0 actions ++ actions.flatMap spent).flatMap (fun entry =>
    [tokenIDInput (anchorOf entry.1.txId) entry.1.index, entry.2,
      markerInput (anchorOf entry.1.txId) entry.1.index (checksum256 entry.2)]) ++
    (actions.flatMap metadata).map metadataInput

def serials : List Bytes := (storedFrom txID 0 actions ++ actions.flatMap spent).map snInput

def state : State := Function.update (fun _ => []) (outputSNKey (octetsOf checksum256) spentID [0x09]) notEmpty

theorem collision_free :
    ∀ text ∈ hashed ++ serials, ∀ other ∈ hashed ++ serials, checksum256 text = checksum256 other → text = other := by
  decide +kernel

theorem issue_and_redeem_equivalent : ∃ d final, buildDelta checksum256 checksum256 txID [0x01] 1 actions [0x02] = .ok d ∧
    commitRequest (octetsOf checksum256) state ⟨txID, actions⟩ = .ok final ∧
    SameEffect checksum256 (octetsOf checksum256) (fun text => text ∈ hashed) (fun text => text ∈ serials) txID actions d
      (Request.writes (octetsOf checksum256) ⟨txID, actions⟩) := by
  have revealing : ∀ action ∈ actions, Revealing action := by
    simp [actions, Revealing, GraphRevealing, serialNumbers, issue, transfer]
  obtain ⟨agree, accepted, -⟩ := backends_equivalent checksum256 checksum256 txID [0x01] 1 actions [0x02] revealing
  have anchored : Anchored txID := ⟨1, by decide +kernel⟩
  have readable : ∀ action ∈ actions, Readable action := by
    have inputs : Anchored spentID.txId := ⟨2, by decide +kernel⟩
    simp only [actions, forall_mem_cons, not_mem_nil, false_implies, implies_true, and_true]
    refine ⟨⟨⟨_, rfl⟩, ⟨_, rfl, rfl⟩, by simp [issue]⟩, ?_, ⟨_, rfl, rfl⟩, by simpa [transfer] using inputs⟩
    simp [OutputsReadable, transfer]
  have limits : WithinLimits checksum256 txID actions := by
    refine ⟨by decide, by decide, by decide, by decide, by decide, ?_⟩
    simp [actions, metadata, issue, transfer]
  obtain ⟨d, built⟩ := accepted.mpr ⟨anchored, readable, by decide, by decide, limits⟩
  have succeeds : (commitRequest (octetsOf checksum256) state ⟨txID, actions⟩).isOk = true := by decide +kernel
  obtain ⟨final, committed⟩ := is_ok_exists succeeds
  have known : RequestHashed checksum256 (fun text => text ∈ hashed) (fun text => text ∈ serials) txID actions := by
    have outputs : ∀ entry ∈ storedFrom txID 0 actions ++ actions.flatMap spent,
        BothHashed checksum256 (fun text => text ∈ hashed) (fun text => text ∈ serials) entry := by
      intro entry mem
      refine ⟨⟨?_, ?_, ?_⟩, mem_map_of_mem mem⟩
      all_goals exact mem_append_left _ (mem_flatMap.mpr ⟨entry, mem, by simp⟩)
    exact ⟨fun entry mem => outputs entry (mem_append_left _ mem), fun entry mem => outputs entry (mem_append_right _ mem),
      fun entry mem => mem_append_right _ (mem_map_of_mem mem)⟩
  refine ⟨d, final, built, committed, (agree _ _ state final d ?_ ?_ known built committed).2⟩
  · intro text mem other mem' same
    exact collision_free text (mem_append_left _ mem) other (mem_append_left _ mem') same
  · intro text mem other mem' same
    exact collision_free text (mem_append_right _ mem) other (mem_append_right _ mem') same

end IssueAndRedeem

end Panurus.Evm
