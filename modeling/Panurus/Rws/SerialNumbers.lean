import Panurus.Lib.Attempts
import Panurus.Rws.Writes

namespace Panurus.Rws

open List Lib Outcome Mapping Codec Attempts FixedWidth Translator

def Action.inputIDs : Action → List TokenID
  | .issue action | .transfer action => action.inputs
  | _ => []

def Request.serialNumbers (request : Request) : List Bytes := request.actions.flatMap Action.serialNumbers

def Request.txIDs (request : Request) : List Bytes :=
  request.txID :: (request.actions.flatMap Action.inputIDs).map TokenID.txId

open Request

def reservedTypes : List Bytes :=
  [outputSNKeyPrefix, tokenSetupKeyPrefix, tokenSetupHashKeyPrefix, issueActionMetadataPrefix,
    transferActionMetadataPrefix]

inductive WriteOf (txIDs serials : List Bytes) : Key × Value → Prop
  | serial (serial : Bytes) (exposed : serial ∈ serials) : WriteOf txIDs serials (inputSNKey serial, notEmpty)
  | other (objectType : Bytes) (attributes : List Bytes) (value : Value) (closed : 0x00 ∉ objectType)
      (known : objectType ∈ txIDs ++ reservedTypes) : WriteOf txIDs serials (compositeKey objectType attributes, value)

theorem reserved_closed : ∀ objectType ∈ reservedTypes, 0x00 ∉ objectType := by decide

variable {serials : List Bytes} {objectType serial : Bytes} {sha256 : Bytes → Bytes} {outputs : List TransferOutput}
  {t next : Translator} {graphHiding : Bool} {metadata : Entries} {inputs : List (TokenID × Bytes)}
  {action : Action} {key : Key} {state : State} {request : Request}

theorem write_of_reserved {txIDs : List Bytes} (attributes : List Bytes) (value : Value)
    (reserved : objectType ∈ reservedTypes) : WriteOf txIDs serials (compositeKey objectType attributes, value) :=
  .other objectType attributes value (reserved_closed objectType reserved) (mem_append_right _ reserved)

theorem spent_listed {entry : TokenID × Bytes} (spent : entry ∈ action.spent) : entry.1 ∈ action.inputIDs := by
  have listed : ∀ parts : ActionWithInputs, entry ∈ parts.spent → entry.1 ∈ parts.inputs := by
    intro parts mem
    rw [ActionWithInputs.spent] at mem
    split at mem
    · exact (of_mem_zip mem).1
    · cases mem
  cases action with
  | issue action | transfer action => exact listed _ spent
  | setup parameters | unknown type => cases spent

theorem writes_shape (wrote : Performed sha256 t next action) : ∀ entry ∈ action.writes sha256 t.txID t.counter,
    WriteOf (t.txID :: action.inputIDs.map TokenID.txId) action.serialNumbers entry := by
  intro entry mem
  have serialNumber : outputSNKeyPrefix ∈ reservedTypes := by decide
  rw [Action.writes, mem_append, mem_append, mem_append, mem_append] at mem
  rcases mem with (((stored | spent) | exposed) | extra) | setup
  · obtain ⟨output, found, inside⟩ := mem_flatMap.mp stored
    rw [storedWrites, mem_cons] at inside
    cases inside with
    | inl same =>
      rw [same]
      exact .other _ _ _ (wrote.storedClosed output found) (by simp [stored_output_txid found])
    | inr later =>
      split at later
      · cases later
      · obtain rfl := mem_singleton.mp later
        exact write_of_reserved _ _ serialNumber
  · obtain ⟨input, found, inside⟩ := mem_flatMap.mp spent
    rw [spentWrites, mem_cons, mem_singleton] at inside
    cases inside with
    | inl same =>
      rw [same]
      exact write_of_reserved _ _ serialNumber
    | inr same =>
      rw [same]
      exact .other _ _ _ (wrote.spentClosed input found)
        (mem_append_left _ (mem_cons_of_mem _ (mem_map_of_mem (spent_listed found))))
  · obtain ⟨serial, found, rfl⟩ := mem_map.mp exposed
    exact .serial serial found
  · obtain ⟨pair, -, rfl⟩ := mem_map.mp extra
    exact write_of_reserved _ _ (by cases pair.kind <;> decide)
  · unfold Action.setupWrites at setup
    split at setup
    · rw [mem_cons, mem_singleton] at setup
      rcases setup with rfl | rfl <;> exact write_of_reserved _ _ (by decide)
    · cases setup

section Lookup

variable {txIDs serials : List Bytes} {writes : List (Key × Value)} {state : State}

theorem composite_key_type {first second : Bytes} {attributes attributes' : List Bytes} (closed : 0x00 ∉ first)
    (closed' : 0x00 ∉ second) (same : compositeKey first attributes = compositeKey second attributes') : first = second :=
  (prefix_free_terminated 0x00 first closed second closed' _ _ (cons.inj same).2).1

theorem serial_key_written (avoid : inputSerialNumberPrefix ∉ txIDs) (shape : ∀ entry ∈ writes, WriteOf txIDs serials entry)
    {entry : Key × Value} (closed : 0x00 ∉ serial) (keyed : ∀ other ∈ serials, 0x00 ∉ other) (mem : entry ∈ writes)
    (same : entry.1 = inputSNKey serial) : serial ∈ serials ∧ entry.2 = notEmpty := by
  have prefixClosed : 0x00 ∉ inputSerialNumberPrefix := by decide
  have unreserved : inputSerialNumberPrefix ∉ reservedTypes := by decide
  cases shape entry mem with
  | serial other exposed =>
    have equal := (composite_key_injective prefixClosed prefixClosed (keyed other exposed) closed same).2
    exact ⟨equal ▸ exposed, rfl⟩
  | other objectType attributes value free known =>
    rw [composite_key_type free prefixClosed same, mem_append] at known
    cases known with
    | inl listed => exact absurd listed avoid
    | inr reserved => exact absurd reserved unreserved

theorem serial_key_value (avoid : inputSerialNumberPrefix ∉ txIDs) (shape : ∀ entry ∈ writes, WriteOf txIDs serials entry)
    (exposed : ∀ serial ∈ serials, (inputSNKey serial, notEmpty) ∈ writes) (keyed : ∀ other ∈ serials, 0x00 ∉ other)
    (closed : 0x00 ∉ serial) :
    writeAll state writes (inputSNKey serial) = if serial ∈ serials then notEmpty else state (inputSNKey serial) := by
  by_cases listed : serial ∈ serials
  · rw [if_pos listed]
    refine write_all_agree state (mem_map_of_mem (exposed serial listed)) fun entry mem same => ?_
    exact (serial_key_written avoid shape closed keyed mem same).2
  · rw [if_neg listed]
    refine write_all_not_mem state fun mem => ?_
    obtain ⟨entry, found, same⟩ := mem_map.mp mem
    exact listed (serial_key_written avoid shape closed keyed found same).1

def Namespaced (state : State) : Prop := ∀ key, state key ≠ [] → key.head? = some 0x00

theorem namespaced_writes (before : Namespaced state) (shape : ∀ entry ∈ writes, WriteOf txIDs serials entry) :
    Namespaced (writeAll state writes) := by
  intro key present
  by_cases written : key ∈ writes.map Prod.fst
  · obtain ⟨entry, mem, rfl⟩ := mem_map.mp written
    cases shape entry mem <;> rfl
  · rw [write_all_not_mem state written] at present
    exact before key present

end Lookup

theorem created_key_closed (made : createInputSNKey serial = .ok key) : 0x00 ∉ serial :=
  (create_composite_key_ok made).2.2 serial mem_cons_self

structure Exposed (state next : State) (txIDs serials : List Bytes) : Prop where
  once : serials.Nodup
  keyed : ∀ serial ∈ serials, createInputSNKey serial = .ok (inputSNKey serial)
  namespaced : Namespaced state → Namespaced next
  value : inputSerialNumberPrefix ∉ txIDs → ∀ serial, 0x00 ∉ serial →
    next (inputSNKey serial) = if serial ∈ serials then notEmpty else state (inputSNKey serial)

theorem exposed_snoc {start : State} {txIDs : List Bytes} (before : Exposed start t.state txIDs serials)
    (listed : ∀ serial ∈ serials, serial ∈ t.spentIDs) (written : Performed sha256 t next action) (named : t.txID ∈ txIDs) :
    Exposed start next.state (txIDs ++ action.inputIDs.map TokenID.txId) (serials ++ action.serialNumbers) := by
  have shape := writes_shape written
  refine ⟨?_, forall_mem_append.mpr ⟨before.keyed, written.keyed⟩, ?_, ?_⟩
  · refine before.once.append (written.fresh.1.sublist (sublist_append_right _ _)) ?_
    intro serial old new
    exact written.fresh.2 (mem_append_right _ new) (listed serial old)
  · intro initial
    rw [written.state]
    exact namespaced_writes (before.namespaced initial) shape
  · intro avoid serial free
    rw [mem_append, not_or] at avoid
    have apart : inputSerialNumberPrefix ∉ t.txID :: action.inputIDs.map TokenID.txId := by
      rw [mem_cons, not_or]
      exact ⟨fun same => avoid.1 (same ▸ named), avoid.2⟩
    have closed : ∀ serial ∈ action.serialNumbers, 0x00 ∉ serial :=
      fun serial mem => created_key_closed (written.keyed serial mem)
    have exposed : ∀ serial ∈ action.serialNumbers, serialWrite serial ∈ action.writes sha256 t.txID t.counter := by
      intro serial mem
      simp only [Action.writes, mem_append]
      exact .inl (.inl (.inr (mem_map_of_mem mem)))
    rw [written.state, serial_key_value apart shape exposed closed free, before.value avoid.1 serial free]
    by_cases new : serial ∈ action.serialNumbers <;> simp [new]

theorem actions_exposed {txID : Bytes} {actions : List Action} (written : actions.foldlM (write sha256) (new txID state) = .ok t)
    : Exposed state t.state (txIDs ⟨txID, actions⟩) (serialNumbers ⟨txID, actions⟩) := by
  have all := foldlM_invariant (fun actions t => t.txID = txID ∧
    (∀ serial ∈ actions.flatMap Action.serialNumbers, serial ∈ t.spentIDs) ∧
    Exposed state t.state (txIDs ⟨txID, actions⟩) (actions.flatMap Action.serialNumbers)) ?_ ?_ written
  · exact all.2.2
  · intro actions t action later holds stepped
    obtain ⟨sameID, listed, before⟩ := holds
    have effect := action_performed stepped
    have ids : txIDs ⟨txID, actions ++ [action]⟩ = txIDs ⟨txID, actions⟩ ++ action.inputIDs.map TokenID.txId := by
      simp [txIDs]
    rw [flatMap_append, flatMap_singleton, ids]
    refine ⟨effect.txID.trans sameID, ?_, exposed_snoc before listed effect (sameID ▸ mem_cons_self)⟩
    intro serial mem
    rw [effect.spentIDs]
    cases mem_append.mp mem with
    | inl old => exact mem_append_left _ (listed serial old)
    | inr new => exact mem_append_right _ (mem_append_right _ new)
  · exact ⟨rfl, by simp, nodup_nil, by simp, id, by simp [new]⟩

theorem request_exposed {next : State} (done : commitRequest sha256 state request = .ok next) :
    Exposed state next request.txIDs request.serialNumbers := by
  simp only [commitRequest, ok_iff] at done
  obtain ⟨final, written, rfl⟩ := done
  exact actions_exposed written

section Runs

variable (sha256 : Bytes → Bytes)

def emptyState : State := fun _ => []

def committed (requests : List Request) : List Request := applied (commitRequest sha256) emptyState requests
def ledger (requests : List Request) : State := run (commitRequest sha256) emptyState requests

variable {sha256} {done requests : List Request}

theorem is_spent_iff {spent : Bool} :
    isSpent state true serial = .ok spent ↔
      createInputSNKey serial = .ok (inputSNKey serial) ∧ spent = decide (state (inputSNKey serial) ≠ []) := by
  simp only [isSpent, if_true, ok_iff]
  constructor
  · rintro ⟨key, made, rfl⟩
    obtain ⟨rfl, -⟩ := create_composite_key_ok made
    exact ⟨made, rfl⟩
  · rintro ⟨made, rfl⟩
    exact ⟨_, made, rfl⟩

structure SerialsReported (requests : List Request) (state : State) : Prop where
  once : ∀ request ∈ requests, request.serialNumbers.Nodup
  keyed : ∀ serial ∈ requests.flatMap serialNumbers, createInputSNKey serial = .ok (inputSNKey serial)
  namespaced : Namespaced state
  reported : (∀ request ∈ requests, inputSerialNumberPrefix ∉ request.txIDs) → ∀ serial, 0x00 ∉ serial →
    (state (inputSNKey serial) ≠ [] ↔ serial ∈ requests.flatMap serialNumbers)

theorem serials_reported_step {next : State} (before : SerialsReported done state)
    (exposed : Exposed state next request.txIDs request.serialNumbers) : SerialsReported (done ++ [request]) next := by
  refine ⟨?_, ?_, exposed.namespaced before.namespaced, ?_⟩
  · exact forall_mem_append.mpr ⟨before.once, forall_mem_singleton.mpr exposed.once⟩
  · rw [flatMap_append, flatMap_singleton]
    exact forall_mem_append.mpr ⟨before.keyed, exposed.keyed⟩
  · intro avoid serial closed
    obtain ⟨old, last⟩ := forall_mem_append.mp avoid
    rw [exposed.value (last request mem_cons_self) serial closed, flatMap_append, flatMap_singleton, mem_append,
      ← before.reported old serial closed]
    by_cases new : serial ∈ request.serialNumbers
    · simp [new, notEmpty]
    · simp [new]

theorem serials_reported_run (sha256 : Bytes → Bytes) (requests : List Request) :
    SerialsReported (committed sha256 requests) (ledger sha256 requests) := by
  refine run_invariant SerialsReported emptyState requests ?_ ?_
  · intro done state request next _ holds moved
    exact serials_reported_step holds (request_exposed moved)
  · exact ⟨by simp, by simp, fun _ present => absurd rfl present, by simp [emptyState]⟩

-- What a serial number is stored under starts with the octet that no serial number contains.
theorem serial_check_passes (namespaced : Namespaced t.state) (made : createInputSNKey serial = .ok key) :
    t.checkSerialNumber serial = .ok () := by
  rw [checkSerialNumber, wrap_ok_iff, stateMustNotExist, ensure_ok_iff]
  by_contra present
  exact created_key_closed made (mem_of_head? (namespaced serial present))

theorem check_inputs_serials {parts : ActionWithInputs} (namespaced : Namespaced t.state)
    (keyed : ∀ serial ∈ parts.serialNumbers, createInputSNKey serial = .ok (inputSNKey serial)) :
    t.checkInputs sha256 parts = t.checkInputs sha256 { parts with serialNumbers := [] } := by
  have passed : checkEach (fun _ => t.checkSerialNumber) 0 parts.serialNumbers = .ok () :=
    check_each_ok_iff.mpr fun i serial found => serial_check_passes namespaced (keyed serial (mem_of_getElem? found))
  rw [checkInputs, passed]
  rfl

theorem tokens_spent_iff (avoid : ∀ request ∈ requests, inputSerialNumberPrefix ∉ request.txIDs) :
    areTokensSpent (ledger sha256 requests) [serial] true = .ok [true] ↔
      serial ∈ (committed sha256 requests).flatMap serialNumbers := by
  have reported := serials_reported_run sha256 requests
  have listed := reported.reported fun request mem => avoid request ((applied_sublist _ requests).subset mem)
  have single : areTokensSpent (ledger sha256 requests) [serial] true = .ok [true] ↔
      isSpent (ledger sha256 requests) true serial = .ok true := by
    rw [areTokensSpent, mapM_ok_iff]
    simp
  rw [single, is_spent_iff]
  constructor
  · rintro ⟨made, spent⟩
    exact (listed serial (created_key_closed made)).mp (by simpa using spent.symm)
  · intro mem
    have made := reported.keyed serial mem
    exact ⟨made, by simpa using (listed serial (created_key_closed made)).mpr mem⟩

structure SerialsApart (requests : List Request) : Prop where
  named : ∀ request ∈ requests, inputSerialNumberPrefix ∉ request.txIDs
  apart : requests.Pairwise fun one other => ∀ serial ∈ one.serialNumbers, serial ∉ other.serialNumbers

-- Last: serial numbers that have been written, by the requests or by the actions in front, change nothing in a check.
theorem serial_numbers_spent_once (sha256 : Bytes → Bytes) (requests : List Request) :
    (SerialsApart requests → ((committed sha256 requests).flatMap serialNumbers).Nodup ∧
      ∀ serial, areTokensSpent (ledger sha256 requests) [serial] true = .ok [true] ↔
        serial ∈ (committed sha256 requests).flatMap serialNumbers) ∧
    ∀ (txID : Bytes) (actions : List Action) (t : Translator) (parts : ActionWithInputs),
      actions.foldlM (write sha256) (new txID (ledger sha256 requests)) = .ok t →
      (∀ serial ∈ parts.serialNumbers, serial ∈ (committed sha256 requests ++ [Request.mk txID actions]).flatMap serialNumbers) →
      t.checkInputs sha256 parts = t.checkInputs sha256 { parts with serialNumbers := [] } := by
  have reported := serials_reported_run sha256 requests
  refine ⟨fun clear => ⟨?_, fun serial => tokens_spent_iff clear.named⟩, ?_⟩
  · rw [nodup_flatMap]
    exact ⟨reported.once, (clear.apart.sublist (applied_sublist _ requests)).imp fun apart serial => apart serial⟩
  · intro txID actions t parts written carried
    have exposed := actions_exposed written
    refine check_inputs_serials (exposed.namespaced reported.namespaced) fun serial mem => ?_
    have found := carried serial mem
    rw [flatMap_append, flatMap_singleton, mem_append] at found
    cases found with
    | inl old => exact reported.keyed serial old
    | inr new => exact exposed.keyed serial new

def hidingTransfer (serial : Bytes) : Action :=
  .transfer { inputs := [], serializedInputs := .ok [], serialNumbers := [serial], outputs := [], metadata := [], isGraphHiding := true }

def distinctRequests : List Request := [⟨[0x61], [hidingTransfer [0x73]]⟩, ⟨[0x62], [hidingTransfer [0x74]]⟩]

theorem distinct_serials_spent_once :
    ((committed checksum32 distinctRequests).flatMap serialNumbers).Nodup ∧
    areTokensSpent (ledger checksum32 distinctRequests) [[0x73]] true = .ok [true] ∧
    (new [0x63] (ledger checksum32 distinctRequests)).checkInputs checksum32
      { inputs := [], serializedInputs := .ok [], serialNumbers := [[0x73]] } = .ok () := by
  have settled := serial_numbers_spent_once checksum32 distinctRequests
  obtain ⟨once, spent⟩ := settled.1 ⟨by decide +kernel, by decide +kernel⟩
  refine ⟨once, (spent _).mpr (by decide +kernel), ?_⟩
  rw [settled.2 [0x63] [] _ _ rfl (by decide +kernel)]
  rfl

-- The second request is committed though the ledger reports its serial number as spent.
theorem serial_number_spent_twice :
    (committed checksum32 [⟨[0x61], [hidingTransfer [0x73]]⟩, ⟨[0x62], [hidingTransfer [0x73]]⟩]).flatMap
        serialNumbers = [[0x73], [0x73]] ∧
      areTokensSpent (ledger checksum32 [⟨[0x61], [hidingTransfer [0x73]]⟩]) [[0x73]] true = .ok [true] := by
  decide +kernel

end Runs

end Panurus.Rws
