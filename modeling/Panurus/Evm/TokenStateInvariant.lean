import Panurus.Evm.TokenState

namespace Panurus.Evm

open List Lib Mapping Attempts OutputToken StateDelta

-- The abstract ledger is the list of the applied deltas, oldest first; the storage is a function of it.
def created (history : List StateDelta) : List OutputToken := history.flatMap outputs
def consumed (history : List StateDelta) : List Bytes32 := history.flatMap spentRefs
def metadataWritten (history : List StateDelta) : List Bytes32 := history.flatMap metadataKeys
def setups (history : List StateDelta) : Nat := (history.filter isSetup).length
def currentParameters (pp0 : Bytes) (history : List StateDelta) : Bytes :=
  history.foldl (fun params delta => if delta.isSetup then delta.setupParameters else params) pp0

section Snoc

variable (history : List StateDelta) (delta : StateDelta)

@[simp] theorem created_snoc : created (history ++ [delta]) = created history ++ delta.outputs := by simp [created]

@[simp] theorem consumed_snoc : consumed (history ++ [delta]) = consumed history ++ delta.spentRefs := by simp [consumed]

@[simp] theorem metadata_written_snoc :
    metadataWritten (history ++ [delta]) = metadataWritten history ++ delta.metadataKeys := by simp [metadataWritten]

@[simp] theorem setups_snoc : setups (history ++ [delta]) = setups history + if delta.isSetup then 1 else 0 := by
  cases kind : delta.isSetup <;> simp [setups, kind]

@[simp] theorem current_parameters_snoc (pp0 : Bytes) : currentParameters pp0 (history ++ [delta]) =
    if delta.isSetup then delta.setupParameters else currentParameters pp0 history := by
  simp [currentParameters]

end Snoc

structure HistoryRecorded (chain : Chain) (pp0 : Bytes) (history : List StateDelta) (state : TokenState) : Prop where
  anchors : ∀ anchor, state.processedAnchor anchor = true ↔ anchor ∈ history.map StateDelta.anchor
  anchorsOnce : (history.map anchor).Nodup
  requestHashes : ∀ delta ∈ history, state.tokenRequestHashes delta.anchor = delta.tokenRequestHash
  metadata : ∀ key, state.metadataExists key = true ↔ key ∈ metadataWritten history
  metadataOnce : (metadataWritten history).Nodup
  metadataValues : ∀ delta ∈ history, ∀ entry ∈ delta.metadataKeys.zip delta.metadataVals,
    state.transferMetadata entry.1 = entry.2
  version : state.publicParamsVersion.toNat = setups history
  parameters : state.publicParameters = currentParameters pp0 history
  parametersHash : state.publicParamsHash = chain.sha256 (currentParameters pp0 history)
  refsOnce : ∀ delta ∈ history, delta.spentRefs.Nodup

variable {chain : Chain} {state next : TokenState} {delta : StateDelta}

theorem history_recorded_step {pp0 : Bytes} {history : List StateDelta} (recorded : HistoryRecorded chain pp0 history state)
    (applied : Applied chain state delta next) : HistoryRecorded chain pp0 (history ++ [delta]) next := by
  have newAnchor : delta.anchor ∉ history.map StateDelta.anchor := by
    intro mem
    have processed := (recorded.anchors delta.anchor).mpr mem
    rw [applied.fresh] at processed
    cases processed
  have newKeys : ∀ key ∈ delta.metadataKeys, key ∉ metadataWritten history := by
    intro key mem old
    have occupied := (recorded.metadata key).mpr old
    rw [applied.keysFree key mem] at occupied
    cases occupied
  refine { anchors := ?_, anchorsOnce := ?_, requestHashes := ?_, metadata := ?_, metadataOnce := ?_
           metadataValues := ?_, version := ?_, parameters := ?_, parametersHash := ?_, refsOnce := ?_ }
  · intro anchor
    rw [applied.anchors, map_append, mem_append, map_singleton, mem_singleton]
    by_cases same : anchor = delta.anchor
    · simp [same]
    · rw [Function.update_of_ne same, recorded.anchors]
      exact (or_iff_left same).symm
  · rw [map_append, map_singleton]
    simpa using recorded.anchorsOnce.concat newAnchor
  · intro other mem
    rw [applied.hashes]
    rcases mem_append.mp mem with old | same
    · have differs : other.anchor ≠ delta.anchor := by
        intro same
        exact newAnchor (same ▸ mem_map_of_mem old)
      rw [Function.update_of_ne differs]
      exact recorded.requestHashes other old
    · rw [mem_singleton.mp same, Function.update_self]
  · intro key
    rw [applied.keys, metadata_written_snoc, mem_append, ← recorded.metadata key]
    simp
  · rw [metadata_written_snoc]
    refine recorded.metadataOnce.append applied.keysOnce ?_
    intro key old new
    exact newKeys key new old
  · intro other mem entry memEntry
    rw [applied.values]
    rcases mem_append.mp mem with old | same
    · have oldKey : entry.1 ∈ metadataWritten history :=
        mem_flatMap.mpr ⟨other, old, (of_mem_zip memEntry).1⟩
      rw [write_all_not_mem]
      · exact recorded.metadataValues other old entry memEntry
      · rw [applied.aligned]
        exact fun new => newKeys _ new oldKey
    · rw [mem_singleton.mp same] at memEntry
      exact write_all_mem _ (by rw [applied.aligned]; exact applied.keysOnce) memEntry
  · rw [applied.version, recorded.version, setups_snoc]
  · rw [applied.params, recorded.parameters, current_parameters_snoc]
  · rw [applied.paramsHash, recorded.parametersHash, current_parameters_snoc]
    split <;> rfl
  · exact forall_mem_append.mpr ⟨recorded.refsOnce, forall_mem_singleton.mpr applied.refsOnce⟩

structure SerialsRecorded (history : List StateDelta) (state : TokenState) : Prop where
  mode : state.graphHiding = true
  used : ∀ serial, isSerialUsed state serial = true ↔ serial ∈ consumed history
  once : (consumed history).Nodup

theorem serials_recorded_step {history : List StateDelta} (recorded : SerialsRecorded history state)
    (applied : Applied chain state delta next) : SerialsRecorded (history ++ [delta]) next := by
  obtain ⟨unused, serials, _⟩ := applied.serials recorded.mode
  refine ⟨applied.mode.trans recorded.mode, ?_, ?_⟩
  · intro serial
    rw [isSerialUsed, serials, consumed_snoc, mem_append, ← recorded.used serial]
    simp [isSerialUsed]
  · rw [consumed_snoc]
    refine recorded.once.append applied.refsOnce ?_
    intro serial old new
    have used := (recorded.used serial).mpr old
    rw [isSerialUsed, unused serial new] at used
    cases used

structure FreshKeys (history : List StateDelta) : Prop where
  idsOnce : ((created history).map tokenID).Nodup
  markersOnce : ((created history).map snMarker).Nodup
  nonzero : ∀ output ∈ created history, output.tokenID ≠ 0

structure MarkersRecorded (history : List StateDelta) (state : TokenState) : Prop where
  mode : state.graphHiding = false
  consumedOnce : (consumed history).Nodup
  consumedCreated : ∀ marker ∈ consumed history, marker ∈ (created history).map snMarker
  live : ∀ marker, state.markerToken marker ≠ 0 ↔
    marker ∈ (created history).map snMarker ∧ marker ∉ consumed history
  names : ∀ output ∈ created history, output.snMarker ∉ consumed history →
    state.markerToken output.snMarker = output.tokenID
  stored : ∀ output ∈ created history,
    getToken state output.tokenID = if output.snMarker ∈ consumed history then [] else output.tokenData
  absent : ∀ id, id ∉ (created history).map tokenID → getToken state id = []

section MarkerStep

variable {chain : Chain} {history : List StateDelta} {state next : TokenState} {delta : StateDelta} {marker : Bytes32}
  {output : OutputToken}

theorem fresh_keys_split (fresh : FreshKeys (history ++ [delta])) :
    (delta.outputs.map tokenID).Nodup ∧ (delta.outputs.map snMarker).Nodup ∧
      (∀ id ∈ (created history).map tokenID, id ∉ delta.outputs.map tokenID) ∧
      ∀ marker ∈ (created history).map snMarker, marker ∉ delta.outputs.map snMarker := by
  have ids := fresh.idsOnce
  have markers := fresh.markersOnce
  rw [created_snoc, map_append] at ids markers
  refine ⟨ids.of_append_right, markers.of_append_right, ?_, ?_⟩
  · intro id old new
    exact disjoint_of_nodup_append ids old new
  · intro marker old new
    exact disjoint_of_nodup_append markers old new

theorem output_markers_keys (delta : StateDelta) : (outputMarkers delta).map Prod.fst = delta.outputs.map snMarker := by
  simp [outputMarkers]

theorem output_tokens_keys (delta : StateDelta) : (outputTokens delta).map Prod.fst = delta.outputs.map tokenID := by
  simp [outputTokens]

variable (recorded : MarkersRecorded history state) (applied : Applied chain state delta next)
include recorded applied

theorem spent_marker_live (spent : marker ∈ delta.spentRefs) :
    marker ∈ (created history).map snMarker ∧ marker ∉ consumed history :=
  (recorded.live marker).mp ((applied.markers recorded.mode).1 marker spent)

section

variable (fresh : FreshKeys (history ++ [delta]))

include fresh

theorem deleted_token_iff (mem : output ∈ created history) :
    output.tokenID ∈ delta.spentRefs.map state.markerToken ↔ output.snMarker ∈ delta.spentRefs := by
  have ids := fresh.idsOnce
  rw [created_snoc, map_append] at ids
  constructor
  · intro deleted
    obtain ⟨marker, spent, named⟩ := mem_map.mp deleted
    obtain ⟨made, unspent⟩ := spent_marker_live recorded applied spent
    obtain ⟨other, memOther, rfl⟩ := mem_map.mp made
    rw [recorded.names other memOther unspent] at named
    rwa [inj_on_of_nodup_map ids.of_append_left mem memOther named.symm]
  · intro spent
    have unspent := (spent_marker_live recorded applied spent).2
    exact mem_map.mpr ⟨output.snMarker, spent, recorded.names output mem unspent⟩

theorem new_marker_unspent (new : marker ∈ delta.outputs.map snMarker) : marker ∉ consumed (history ++ [delta]) := by
  obtain ⟨_, _, _, disjoint⟩ := fresh_keys_split fresh
  rw [consumed_snoc, mem_append]
  rintro (old | spent)
  · exact disjoint marker (recorded.consumedCreated marker old) new
  · exact disjoint marker (spent_marker_live recorded applied spent).1 new

theorem marker_after_step (mem : output ∈ delta.outputs) : next.markerToken output.snMarker = output.tokenID := by
  obtain ⟨_, markersOnce, _, _⟩ := fresh_keys_split fresh
  rw [(applied.markers recorded.mode).2.1]
  exact write_all_mem _ (by rw [output_markers_keys]; exact markersOnce) (mem_map.mpr ⟨output, mem, rfl⟩)

end

theorem old_marker_after_step (old : marker ∉ delta.outputs.map snMarker) :
    next.markerToken marker = if marker ∈ delta.spentRefs then 0 else state.markerToken marker := by
  rw [(applied.markers recorded.mode).2.1]
  exact write_all_not_mem _ (by rw [output_markers_keys]; exact old)

theorem markers_recorded_step (fresh : FreshKeys (history ++ [delta])) : MarkersRecorded (history ++ [delta]) next := by
  obtain ⟨idsOnce, _, idsDisjoint, markersDisjoint⟩ := fresh_keys_split fresh
  have tokensEq := (applied.markers recorded.mode).2.2
  refine { mode := applied.mode.trans recorded.mode, consumedOnce := ?_, consumedCreated := ?_, live := ?_
           names := ?_, stored := ?_, absent := ?_ }
  · rw [consumed_snoc]
    refine recorded.consumedOnce.append applied.refsOnce ?_
    intro marker old spent
    exact (spent_marker_live recorded applied spent).2 old
  · intro marker mem
    rw [created_snoc, map_append, mem_append]
    rw [consumed_snoc, mem_append] at mem
    rcases mem with old | spent
    · exact .inl (recorded.consumedCreated marker old)
    · exact .inl (spent_marker_live recorded applied spent).1
  · intro marker
    by_cases new : marker ∈ delta.outputs.map snMarker
    · have unspent := new_marker_unspent recorded applied fresh new
      obtain ⟨output, mem, rfl⟩ := mem_map.mp new
      have inCreated : output ∈ created (history ++ [delta]) := by rw [created_snoc]; exact mem_append_right _ mem
      rw [marker_after_step recorded applied fresh mem]
      exact iff_of_true (fresh.nonzero output inCreated) ⟨mem_map_of_mem inCreated, unspent⟩
    · rw [old_marker_after_step recorded applied new, created_snoc, consumed_snoc, map_append, mem_append,
        or_iff_left new, mem_append, not_or, ← and_assoc, ← recorded.live marker]
      by_cases spent : marker ∈ delta.spentRefs <;> simp [spent]
  · intro output mem unspent
    rw [created_snoc, mem_append] at mem
    rw [consumed_snoc, mem_append, not_or] at unspent
    rcases mem with old | new
    · rw [old_marker_after_step recorded applied (markersDisjoint _ (mem_map_of_mem old)), if_neg unspent.2]
      exact recorded.names output old unspent.1
    · exact marker_after_step recorded applied fresh new
  · intro output mem
    rw [getToken, tokensEq]
    rcases mem_append.mp (created_snoc history delta ▸ mem) with old | new
    · rw [write_all_not_mem _ (by rw [output_tokens_keys]; exact idsDisjoint _ (mem_map_of_mem old))]
      have previous := recorded.stored output old
      simp only [deleted_token_iff recorded applied fresh old, consumed_snoc, mem_append]
      rw [getToken] at previous
      by_cases spent : output.snMarker ∈ delta.spentRefs
      · simp [spent]
      · simpa [spent] using previous
    · rw [if_neg (new_marker_unspent recorded applied fresh (mem_map_of_mem new))]
      exact write_all_mem _ (by rw [output_tokens_keys]; exact idsOnce) (mem_map.mpr ⟨output, new, rfl⟩)
  · intro id missing
    rw [created_snoc, map_append, mem_append, not_or] at missing
    rw [getToken, tokensEq, write_all_not_mem _ (by rw [output_tokens_keys]; exact missing.2)]
    have empty := recorded.absent id missing.1
    split
    · rfl
    · exact empty

end MarkerStep

structure TokensKept (history : List StateDelta) (state : TokenState) : Prop where
  mode : state.graphHiding = true
  stored : ∀ output ∈ created history, getToken state output.tokenID = output.tokenData
  absent : ∀ id, id ∉ (created history).map tokenID → getToken state id = []

theorem tokens_kept_step {history : List StateDelta} (kept : TokensKept history state) (applied : Applied chain state delta next)
    (idsOnce : ((created (history ++ [delta])).map tokenID).Nodup) : TokensKept (history ++ [delta]) next := by
  rw [created_snoc, map_append] at idsOnce
  obtain ⟨_, _, tokensEq⟩ := applied.serials kept.mode
  refine ⟨applied.mode.trans kept.mode, ?_, ?_⟩
  · intro output mem
    rw [getToken, tokensEq]
    rcases mem_append.mp (created_snoc history delta ▸ mem) with old | new
    · rw [write_all_not_mem]
      · exact kept.stored output old
      · rw [output_tokens_keys]
        exact fun again => disjoint_of_nodup_append idsOnce (mem_map_of_mem old) again
    · exact write_all_mem _ (by rw [output_tokens_keys]; exact idsOnce.of_append_right) (mem_map.mpr ⟨output, new, rfl⟩)
  · intro id missing
    rw [created_snoc, map_append, mem_append, not_or] at missing
    rw [getToken, tokensEq, write_all_not_mem _ (by rw [output_tokens_keys]; exact missing.2)]
    exact kept.absent id missing.1

section Keyed

variable (keccak256 : Hash)

-- The outputs a translated request carries: slot (index, bytes) of the request under the two keys
-- that are derived from its anchor; a graph-hiding driver leaves the marker zero.
def keyedOutputs (graphHiding : Bool) (anchor : Bytes32) (slots : List (UInt64 × Bytes)) : List OutputToken :=
  slots.map fun slot =>
    { tokenID := computeTokenID keccak256 anchor slot.1
      snMarker := if graphHiding then 0 else outputSNMarker keccak256 anchor slot.1 slot.2
      tokenData := slot.2 }

structure Keyed (graphHiding : Bool) (slots : List (UInt64 × Bytes)) (delta : StateDelta) : Prop where
  indexesOnce : (slots.map Prod.fst).Nodup
  outputs : delta.outputs = keyedOutputs keccak256 graphHiding delta.anchor slots

def keyInputs (slots : StateDelta → List (UInt64 × Bytes)) (deltas : List StateDelta) : Set Bytes :=
  {input | ∃ delta ∈ deltas, ∃ slot ∈ slots delta, input = tokenIDInput delta.anchor slot.1 ∨
    input = markerInput delta.anchor slot.1 (keccak256 slot.2)}

variable {keccak256} {slots : StateDelta → List (UInt64 × Bytes)} {history : List StateDelta} {graphHiding : Bool}

variable (keyed : ∀ delta ∈ history, Keyed keccak256 graphHiding (slots delta) delta) (anchorsOnce : (history.map anchor).Nodup)
include keyed anchorsOnce

-- A key field that is the hash of an input from which the anchor and the index can be read back.
theorem derived_keys_once (field : OutputToken → Bytes32) (input : Bytes32 → UInt64 × Bytes → Bytes)
    (derived : ∀ anchor slots, (keyedOutputs keccak256 graphHiding anchor slots).map field = slots.map (keccak256 ∘ input anchor))
    (separates : ∀ anchor slot anchor' slot', input anchor slot = input anchor' slot' → anchor = anchor' ∧ slot.1 = slot'.1)
    (injective : Set.InjOn keccak256 {key | ∃ delta ∈ history, ∃ slot ∈ slots delta, key = input delta.anchor slot}) :
    ((created history).map field).Nodup := by
  have keys : (created history).map field = history.flatMap fun delta => (slots delta).map (keccak256 ∘ input delta.anchor) := by
    rw [created, map_flatMap]
    apply flatMap_congr
    intro delta mem
    rw [(keyed delta mem).outputs, derived]
  rw [keys, nodup_flatMap]
  constructor
  · intro delta mem
    have indexesOnce := (keyed delta mem).indexesOnce
    apply List.Nodup.map_on
    · intro slot memSlot slot' memSlot' same
      have inputs := injective ⟨delta, mem, slot, memSlot, rfl⟩ ⟨delta, mem, slot', memSlot', rfl⟩ same
      exact inj_on_of_nodup_map indexesOnce memSlot memSlot' (separates _ _ _ _ inputs).2
    · exact indexesOnce.of_map
  · have pairs : history.Pairwise fun delta delta' => delta.anchor ≠ delta'.anchor :=
      pairwise_map.mp anchorsOnce
    refine pairs.imp_of_mem ?_
    intro delta delta' mem mem' differ key inFirst inSecond
    obtain ⟨slot, memSlot, rfl⟩ := mem_map.mp inFirst
    obtain ⟨slot', memSlot', same⟩ := mem_map.mp inSecond
    have inputs := injective ⟨delta', mem', slot', memSlot', rfl⟩ ⟨delta, mem, slot, memSlot, rfl⟩ same
    exact differ (separates _ _ _ _ inputs).1.symm

variable (collisionFree : CollisionFree keccak256 (keyInputs keccak256 slots history))
include collisionFree

theorem keyed_ids_once : ((created history).map tokenID).Nodup := by
  refine derived_keys_once keyed anchorsOnce tokenID (fun anchor slot => tokenIDInput anchor slot.1) ?_ ?_ ?_
  · exact fun anchor slots => map_map
  · exact fun _ _ _ _ => token_id_input_injective
  · refine collisionFree.injective.mono ?_
    rintro key ⟨delta, mem, slot, memSlot, rfl⟩
    exact ⟨delta, mem, slot, memSlot, .inl rfl⟩

theorem keyed_fresh (revealing : graphHiding = false) : FreshKeys history := by
  refine ⟨keyed_ids_once keyed anchorsOnce collisionFree, ?_, ?_⟩
  · refine derived_keys_once keyed anchorsOnce snMarker (fun anchor slot => markerInput anchor slot.1 (keccak256 slot.2)) ?_ ?_ ?_
    · subst revealing
      exact fun anchor slots => map_map
    · exact fun _ _ _ _ => marker_input_injective
    · refine collisionFree.injective.mono ?_
      rintro key ⟨delta, mem, slot, memSlot, rfl⟩
      exact ⟨delta, mem, slot, memSlot, .inr rfl⟩
  · intro output mem
    obtain ⟨delta, memDelta, memOutput⟩ := mem_flatMap.mp mem
    rw [(keyed delta memDelta).outputs] at memOutput
    obtain ⟨slot, memSlot, rfl⟩ := mem_map.mp memOutput
    exact collisionFree.nonzero _ ⟨delta, memDelta, slot, memSlot, .inl rfl⟩

end Keyed

section Runs

variable {chain : Chain} {verifier deployer : Address} {pp0 : Bytes} {graphHiding : Bool} {start : TokenState}
  {keccak256 : Hash} {slots : StateDelta → List (UInt64 × Bytes)} {calls : List Call}

def history (chain : Chain) (start : TokenState) (calls : List Call) : List StateDelta :=
  (applied (applyStateDelta chain) start calls).map Call.delta

section

variable (initial : initializeClone chain .fresh verifier deployer pp0 graphHiding = .ok start)

include initial

theorem initialize_clone_eq :
    start = { TokenState.fresh with
      initialized := true, endorsementVerifier := verifier, deployer := deployer, graphHiding := graphHiding
      publicParameters := pp0, publicParamsHash := chain.sha256 pp0, publicParamsVersion := 0
      domainSeparator := chain.domainSeparator } := by
  simp only [initializeClone, Outcome.bind_ok_iff, Outcome.ensure_ok_iff, Outcome.pure_ok_iff, exists_const] at initial
  exact initial.2.2.symm

theorem recorded_run (calls : List Call) :
    HistoryRecorded chain pp0 (history chain start calls) (run (applyStateDelta chain) start calls) ∧
      (graphHiding = true → SerialsRecorded (history chain start calls) (run (applyStateDelta chain) start calls)) := by
  refine run_invariant (fun done state => HistoryRecorded chain pp0 (done.map Call.delta) state ∧
    (graphHiding = true → SerialsRecorded (done.map Call.delta) state)) start calls ?_ ?_
  · rintro done state call next - ⟨recorded, serials⟩ moved
    have effect := apply_state_delta_applied moved
    rw [map_append]
    exact ⟨history_recorded_step recorded effect, fun hides => serials_recorded_step (serials hides) effect⟩
  · rw [initialize_clone_eq initial]
    refine ⟨?_, fun hides => ?_⟩
    · constructor <;> simp [TokenState.fresh, metadataWritten, setups, currentParameters]
    · constructor <;> simp [TokenState.fresh, consumed, isSerialUsed, hides]

end

theorem key_inputs_mono {deltas others : List StateDelta} (inside : ∀ delta ∈ deltas, delta ∈ others) :
    keyInputs keccak256 slots deltas ⊆ keyInputs keccak256 slots others := by
  rintro input ⟨delta, mem, slot, memSlot, derived⟩
  exact ⟨delta, inside delta mem, slot, memSlot, derived⟩

theorem collision_free_mono {inputs others : Set Bytes} (collisionFree : CollisionFree keccak256 others)
    (inside : inputs ⊆ others) : CollisionFree keccak256 inputs :=
  ⟨collisionFree.injective.mono inside, fun input mem => collisionFree.nonzero input (inside mem)⟩

variable (initial : initializeClone chain .fresh verifier deployer pp0 graphHiding = .ok start)
  (keyed : ∀ delta ∈ calls.map Call.delta, Keyed keccak256 graphHiding (slots delta) delta)
  (collisionFree : CollisionFree keccak256 (keyInputs keccak256 slots (calls.map Call.delta)))
include initial keyed collisionFree

theorem keyed_run : ((created (history chain start calls)).map tokenID).Nodup ∧
    (graphHiding = true → TokensKept (history chain start calls) (run (applyStateDelta chain) start calls)) ∧
    (graphHiding = false → MarkersRecorded (history chain start calls) (run (applyStateDelta chain) start calls)) := by
  refine run_invariant_at (fun done state => ((created (done.map Call.delta)).map tokenID).Nodup ∧
    (graphHiding = true → TokensKept (done.map Call.delta) state) ∧
    (graphHiding = false → MarkersRecorded (done.map Call.delta) state)) start calls ?_ ?_
  · rintro before call after next split ⟨-, kept, recorded⟩ moved
    have effect := apply_state_delta_applied moved
    have anchorsOnce := (history_recorded_step (recorded_run initial before).1 effect).anchorsOnce
    have inside : ∀ delta ∈ history chain start before ++ [call.delta], delta ∈ calls.map Call.delta := by
      intro delta mem
      rw [split, map_append, map_cons, mem_append, mem_cons]
      rcases mem_append.mp mem with old | new
      · exact .inl (((applied_sublist start before).map Call.delta).subset old)
      · exact .inr (.inl (mem_singleton.mp new))
    have keyedNext := fun delta mem => keyed delta (inside delta mem)
    have collisionFreeNext := collision_free_mono collisionFree (key_inputs_mono inside)
    have idsOnce := keyed_ids_once keyedNext anchorsOnce collisionFreeNext
    rw [map_append]
    exact ⟨idsOnce, fun hides => tokens_kept_step (kept hides) effect idsOnce, fun revealing =>
      markers_recorded_step (recorded revealing) effect (keyed_fresh keyedNext anchorsOnce collisionFreeNext revealing)⟩
  · rw [initialize_clone_eq initial]
    refine ⟨nodup_nil, fun hides => ?_, fun revealing => ?_⟩
    · constructor <;> simp [TokenState.fresh, created, getToken, hides]
    · constructor <;> simp [TokenState.fresh, created, consumed, getToken, revealing]

end Runs

theorem token_state_invariant (chain : Chain) (verifier deployer : Address) (pp0 : Bytes) (graphHiding : Bool)
    (start : TokenState) (initial : initializeClone chain .fresh verifier deployer pp0 graphHiding = .ok start)
    (calls : List Call) :
    HistoryRecorded chain pp0 (history chain start calls) (run (applyStateDelta chain) start calls) ∧
    (∀ call reason, applyStateDelta chain (run (applyStateDelta chain) start calls) call = .error reason →
      run (applyStateDelta chain) start (calls ++ [call]) = run (applyStateDelta chain) start calls) ∧
    (graphHiding = true → SerialsRecorded (history chain start calls) (run (applyStateDelta chain) start calls)) ∧
    ∀ (keccak256 : Hash) (slots : StateDelta → List (UInt64 × Bytes)),
      (∀ delta ∈ calls.map Call.delta, Keyed keccak256 graphHiding (slots delta) delta) →
      CollisionFree keccak256 (keyInputs keccak256 slots (calls.map Call.delta)) →
        ((created (history chain start calls)).map tokenID).Nodup ∧
        (graphHiding = true → TokensKept (history chain start calls) (run (applyStateDelta chain) start calls)) ∧
        (graphHiding = false → MarkersRecorded (history chain start calls) (run (applyStateDelta chain) start calls)) := by
  obtain ⟨recorded, serials⟩ := recorded_run initial calls
  refine ⟨recorded, ?_, serials, fun keccak256 slots keyed collisionFree => keyed_run initial keyed collisionFree⟩
  intro call reason reverted
  rw [run, foldl_append]
  exact settle_error reverted

-- Runs on fixed inputs: SHA-256 of the empty parameters, a verifier that accepts.
def acceptingChain : Chain where
  sha256 input := if input = [] then 0xe3b0c44298fc1c149afbf4c8996fb92427ae41e4649b934ca495991b7852b855 else 0
  domainSeparator := 0
  digest _ _ := 0
  verify _ _ _ := .ok true

def revealingClone : TokenState :=
  match initializeClone acceptingChain .fresh 1 2 [] false with
  | .ok state => state
  | .error _ => .fresh

def deltaAt (anchor : Bytes32) (spentRefs : List Bytes32) (outputs : List OutputToken) : StateDelta where
  anchor := anchor
  spentRefs := spentRefs
  outputs := outputs
  metadataKeys := []
  metadataVals := []
  tokenRequestHash := 0
  publicParamsHash := acceptingChain.sha256 []
  publicParamsVersion := 0
  isSetup := false
  setupParameters := []

-- Keccak-256 on the three inputs of the run below: one output [1] at index 0 of anchor 1.
def keccakOfFirstOutput (input : Bytes) : Bytes32 :=
  let content : Bytes32 := 0x5fe7f977e71dba2ea1a68e21057beebb9be2ac30c6410aa38d4f3fbe41dcffd2
  if input = [1] then content
  else if input = tokenIDInput 1 0 then 0xada5013122d395ba3c54772283fb069b10426056ef8ca54750cb9bb552a59e7d
  else if input = markerInput 1 0 content then 0x18fd9b77db0e8dc252ee5b64cdaf9a73dffe01ea0cee216a23e423421fa07013
  else 0

def createThenSpend : List Call :=
  [⟨deltaAt 1 [] (keyedOutputs keccakOfFirstOutput false 1 [(0, [1])]), []⟩,
    ⟨deltaAt 2 [outputSNMarker keccakOfFirstOutput 1 0 [1]] [], []⟩]

theorem create_then_spend_recorded :
    (history acceptingChain revealingClone createThenSpend).length = 2 ∧
      MarkersRecorded (history acceptingChain revealingClone createThenSpend)
        (run (applyStateDelta acceptingChain) revealingClone createThenSpend) := by
  refine ⟨by decide +kernel, ?_⟩
  have invariant := token_state_invariant acceptingChain 1 2 [] false revealingClone rfl createThenSpend
  refine (invariant.2.2.2 keccakOfFirstOutput (fun delta => if delta.anchor = 1 then [(0, [1])] else []) ?_ ?_).2.2 rfl
  · intro delta mem
    simp only [createThenSpend, map_cons, map_nil, mem_cons, not_mem_nil, or_false] at mem
    rcases mem with rfl | rfl
    · exact ⟨by decide, rfl⟩
    · exact ⟨by decide, rfl⟩
  · have inputs : ∀ input ∈ keyInputs keccakOfFirstOutput (fun delta => if delta.anchor = 1 then [(0, [1])] else [])
        (createThenSpend.map Call.delta), input = tokenIDInput 1 0 ∨ input = markerInput 1 0 (keccakOfFirstOutput [1]) := by
      rintro input ⟨delta, mem, slot, memSlot, derived⟩
      simp only [createThenSpend, map_cons, map_nil, mem_cons, not_mem_nil, or_false] at mem
      rcases mem with rfl | rfl
      · simp only [deltaAt, if_true, mem_singleton] at memSlot
        subst memSlot
        exact derived
      · simp [deltaAt] at memSlot
    constructor
    · intro a memA b memB same
      rcases inputs a memA with rfl | rfl <;> rcases inputs b memB with rfl | rfl
      · rfl
      · exact absurd same (by decide +kernel)
      · exact absurd same (by decide +kernel)
      · rfl
    · intro input mem
      rcases inputs input mem with rfl | rfl <;> decide +kernel

-- Deltas that an endorser quorum signs with keys of its own choosing: the second one spends marker 8 and
-- writes token 7 and marker 8 again, the third one spends marker 8 once more.
def repeatedKeys : List Call :=
  [⟨deltaAt 1 [] [⟨7, 8, [1]⟩], []⟩, ⟨deltaAt 2 [8] [⟨7, 8, [2]⟩], []⟩, ⟨deltaAt 3 [8] [], []⟩]

theorem repeated_keys_break_invariant :
    initializeClone acceptingChain .fresh 1 2 [] false = .ok revealingClone ∧
      (history acceptingChain revealingClone repeatedKeys).length = 3 ∧
      ¬ ((created (history acceptingChain revealingClone repeatedKeys)).map tokenID).Nodup ∧
      ¬ (consumed (history acceptingChain revealingClone repeatedKeys)).Nodup ∧
      8 ∈ consumed (history acceptingChain revealingClone (repeatedKeys.take 2)) ∧
      (run (applyStateDelta acceptingChain) revealingClone (repeatedKeys.take 2)).markerToken 8 ≠ 0 := by
  refine ⟨rfl, ?_⟩
  decide +kernel

end Panurus.Evm
