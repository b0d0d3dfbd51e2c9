import Panurus.Lib.Mapping
import Panurus.Rws.Translator

namespace Panurus.Rws

open List Lib Outcome Mapping Text

def outputKey (id : TokenID) : Key := compositeKey id.txId [decimal id.index.toNat]
def inputSNKey (serial : Bytes) : Key := compositeKey inputSerialNumberPrefix [serial]

def outputSNKey (sha256 : Bytes → Bytes) (id : TokenID) (output : Bytes) : Key :=
  compositeKey outputSNKeyPrefix [hex (sha256 (outputSNInput id.txId id.index output))]

def Translator.applied (t : Translator) (writes : List (Key × Value)) (spent : List Bytes) : Translator :=
  { t with state := writeAll t.state writes, spentIDs := t.spentIDs ++ spent }

open Translator

theorem applied_applied (t : Translator) (writes more : List (Key × Value)) (spent others : List Bytes) :
    (t.applied writes spent).applied more others = t.applied (writes ++ more) (spent ++ others) := by
  simp [applied, write_all_append]

theorem applied_nothing (t : Translator) : t.applied [] [] = t := by
  simp [applied, writeAll]

def Fresh (spentIDs spent : List Bytes) : Prop := spent.Nodup ∧ spent.Disjoint spentIDs

theorem fresh_append {spentIDs spent more : List Bytes} (first : Fresh spentIDs spent)
    (second : Fresh (spentIDs ++ spent) more) : Fresh spentIDs (spent ++ more) := by
  have apart := disjoint_append_right.mp second.2
  exact ⟨first.1.append second.1 apart.2.symm, disjoint_append_left.mpr ⟨first.2, apart.1⟩⟩

theorem fresh_nil (spentIDs : List Bytes) : Fresh spentIDs [] := ⟨nodup_nil, disjoint_nil_left _⟩

variable {t next : Translator} {key : Key} {output : Bytes}

theorem fold_applied {α : Type} {step : Translator → α → Outcome Translator} {txID : Bytes} (writes : α → List (Key × Value))
    (spent : α → List Bytes) (checked : α → Prop) (single : ∀ t item next, t.txID = txID → step t item = .ok next →
      next = t.applied (writes item) (spent item) ∧ Fresh t.spentIDs (spent item) ∧ checked item) {final : Translator}
    {items : List α} (named : t.txID = txID) (run : items.foldlM step t = .ok final) :
    final = t.applied (items.flatMap writes) (items.flatMap spent) ∧ Fresh t.spentIDs (items.flatMap spent) ∧
      ∀ item ∈ items, checked item := by
  refine foldlM_invariant (fun done current => current = t.applied (done.flatMap writes) (done.flatMap spent) ∧
    Fresh t.spentIDs (done.flatMap spent) ∧ ∀ item ∈ done, checked item) ?_ ?_ run
  · intro done state item next holds stepped
    obtain ⟨rfl, fresh, all⟩ := holds
    obtain ⟨rfl, new, passed⟩ := single (t.applied (done.flatMap writes) (done.flatMap spent)) item next named stepped
    refine ⟨?_, ?_, ?_⟩
    · rw [applied_applied, flatMap_append, flatMap_append, flatMap_singleton, flatMap_singleton]
    · rw [flatMap_append, flatMap_singleton]
      exact fresh_append fresh new
    · exact forall_mem_append.mpr ⟨all, by simpa using passed⟩
  · exact ⟨(applied_nothing t).symm, fresh_nil _, by simp⟩

theorem append_spent_id_ok {id : Bytes} (done : t.appendSpentID id = .ok next) :
    next = t.applied [] [id] ∧ Fresh t.spentIDs [id] := by
  simp only [appendSpentID, ok_iff] at done
  obtain ⟨_, new, rfl⟩ := done
  exact ⟨rfl, nodup_singleton id, singleton_disjoint.mpr new⟩

theorem set_state_applied (t : Translator) (key : Key) (value : Value) : t.setState key value = t.applied [(key, value)] [] := by
  simp [setState, applied, writeAll]

theorem create_output_key_ok (id : TokenID) (made : createOutputKey id.txId id.index = .ok key) :
    key = outputKey id ∧ 0x00 ∉ id.txId := by
  obtain ⟨rfl, free, -⟩ := create_composite_key_ok made
  exact ⟨rfl, free⟩

theorem create_output_sn_key_ok {sha256 : Bytes → Bytes} (id : TokenID)
    (made : createOutputSNKey sha256 id.txId id.index output = .ok key) : key = outputSNKey sha256 id output :=
  (create_composite_key_ok made).1

def spentWrites (sha256 : Bytes → Bytes) (entry : TokenID × Bytes) : List (Key × Value) :=
  [(outputSNKey sha256 entry.1 entry.2, []), (outputKey entry.1, [])]

def storedWrites (sha256 : Bytes → Bytes) (graphHiding : Bool) (entry : TokenID × Bytes) : List (Key × Value) :=
  (outputKey entry.1, entry.2) :: if graphHiding then [] else [(outputSNKey sha256 entry.1 entry.2, notEmpty)]

abbrev serialWrite (serial : Bytes) : Key × Value := (inputSNKey serial, notEmpty)

abbrev spentKey (entry : TokenID × Bytes) : Key := outputKey entry.1

abbrev metadataKey (objectType key : Bytes) : Outcome Key := createCompositeKey objectType [key]

def storedOutput (txID : Bytes) (base : UInt64) (entry : TransferOutput × Nat) : List (TokenID × Bytes) :=
  if entry.1.isRedeem then [] else
    match entry.1.serialized with
    | .ok output => [(⟨txID, base + UInt64.ofNat entry.2⟩, output)]
    | .error _ => []

def storedOutputs (txID : Bytes) (base : UInt64) (outputs : List TransferOutput) : List (TokenID × Bytes) :=
  outputs.zipIdx.flatMap (storedOutput txID base)

def issuedOutput (raw : Bytes) : TransferOutput := { isRedeem := false, serialized := .ok raw }

inductive MetadataKind where
  | issue
  | transfer
deriving DecidableEq, Repr

def MetadataKind.objectType : MetadataKind → Bytes
  | .issue => issueActionMetadataPrefix
  | .transfer => transferActionMetadataPrefix

structure MetadataEntry where
  kind : MetadataKind
  key : Bytes
  value : Bytes
deriving DecidableEq, Repr

def MetadataEntry.write (entry : MetadataEntry) : Key × Value := (compositeKey entry.kind.objectType [entry.key], entry.value)

def Action.outputs : Action → List TransferOutput
  | .issue action => match action.serializedOutputs with
    | .ok raws => raws.map issuedOutput
    | .error _ => []
  | .transfer action => action.outputs
  | _ => []

def ActionWithInputs.spent (action : ActionWithInputs) : List (TokenID × Bytes) :=
  match action.serializedInputs with
  | .ok raws => action.inputs.zip raws
  | .error _ => []

def Action.spent : Action → List (TokenID × Bytes)
  | .issue action | .transfer action => action.toActionWithInputs.spent
  | _ => []

def storedFrom (txID : Bytes) : UInt64 → List Action → List (TokenID × Bytes)
  | _, [] => []
  | counter, action :: tail =>
    storedOutputs txID counter action.outputs ++ storedFrom txID (counter + UInt64.ofNat action.outputs.length) tail

def Action.serialNumbers : Action → List Bytes
  | .issue action | .transfer action => action.serialNumbers
  | _ => []

def Action.metadata : Action → List MetadataEntry
  | .issue action => action.metadata.map fun entry => ⟨.issue, entry.1, entry.2⟩
  | .transfer action => action.metadata.map fun entry => ⟨.transfer, entry.1, entry.2⟩
  | _ => []

def Action.isGraphHiding : Action → Bool
  | .issue action | .transfer action => action.isGraphHiding
  | _ => false

def Action.setupWrites (sha256 : Bytes → Bytes) : Action → List (Key × Value)
  | .setup (.ok raw) => [(compositeKey tokenSetupKeyPrefix [], raw), (compositeKey tokenSetupHashKeyPrefix [], sha256 raw)]
  | _ => []

def Action.writes (sha256 : Bytes → Bytes) (txID : Bytes) (counter : UInt64) (action : Action) : List (Key × Value) :=
  (storedOutputs txID counter action.outputs).flatMap (storedWrites sha256 action.isGraphHiding) ++
    action.spent.flatMap (spentWrites sha256) ++
    action.serialNumbers.map serialWrite ++
    action.metadata.map MetadataEntry.write ++ action.setupWrites sha256

def Action.spentIDs (action : Action) : List Bytes := action.spent.map spentKey ++ action.serialNumbers

def writesFrom (sha256 : Bytes → Bytes) (txID : Bytes) : UInt64 → List Action → List (Key × Value)
  | _, [] => []
  | counter, action :: tail =>
    action.writes sha256 txID counter ++ writesFrom sha256 txID (counter + UInt64.ofNat action.outputs.length) tail

def Request.writes (sha256 : Bytes → Bytes) (request : Request) : List (Key × Value) :=
  writesFrom sha256 request.txID 0 request.actions

section Commit

variable {sha256 : Bytes → Bytes} {graphHiding : Bool} {base : UInt64} {index : Nat} {kind : MetadataKind}
  {text : String} {parts : ActionWithInputs} {outputs : List TransferOutput} {metadata : Entries}

theorem spend_input_ok {entry : TokenID × Bytes} (done : t.spendInput sha256 entry = .ok next) :
    next = t.applied (spentWrites sha256 entry) [spentKey entry] ∧ Fresh t.spentIDs [spentKey entry] ∧ 0x00 ∉ entry.1.txId := by
  simp only [spendInput, ok_iff] at done
  obtain ⟨sn, snMade, id, idMade, appended⟩ := done
  obtain rfl := create_output_sn_key_ok entry.1 snMade
  obtain ⟨rfl, free⟩ := create_output_key_ok entry.1 idMade
  obtain ⟨rfl, fresh⟩ := append_spent_id_ok appended
  exact ⟨rfl, fresh, free⟩

theorem spend_serial_number_ok {serial : Bytes} (done : t.spendSerialNumber serial = .ok next) :
    next = t.applied [serialWrite serial] [serial] ∧ Fresh t.spentIDs [serial] ∧
      createInputSNKey serial = .ok (inputSNKey serial) := by
  simp only [spendSerialNumber, ok_iff] at done
  obtain ⟨key, made, appended⟩ := done
  obtain ⟨rfl, -⟩ := create_composite_key_ok made
  obtain ⟨rfl, fresh⟩ := append_spent_id_ok appended
  exact ⟨rfl, fresh, made⟩

theorem store_output_ok (done : storeOutput sha256 graphHiding base index t output = .ok next) :
    next = t.applied (storedWrites sha256 graphHiding (⟨t.txID, base + UInt64.ofNat index⟩, output)) [] ∧ 0x00 ∉ t.txID := by
  simp only [storeOutput, ok_iff] at done
  obtain ⟨id, idMade, rest⟩ := done
  obtain ⟨rfl, free⟩ := create_output_key_ok ⟨t.txID, base + UInt64.ofNat index⟩ idMade
  refine ⟨?_, free⟩
  cases graphHiding with
  | true =>
    obtain rfl := pure_ok_iff.mp rest
    rw [set_state_applied]
    rfl
  | false =>
    simp only [Bool.false_eq_true, if_false, ok_iff] at rest
    obtain ⟨sn, snMade, rfl⟩ := rest
    obtain rfl := create_output_sn_key_ok ⟨t.txID, base + UInt64.ofNat index⟩ snMade
    rw [set_state_applied, set_state_applied, applied_applied]
    rfl

theorem store_transfer_output_ok
    {output : TransferOutput} (done : storeTransferOutput sha256 graphHiding base index t output = .ok next) :
    next = t.applied ((storedOutput t.txID base (output, index)).flatMap (storedWrites sha256 graphHiding)) [] ∧
      ∀ entry ∈ storedOutput t.txID base (output, index), 0x00 ∉ entry.1.txId := by
  cases output with
  | mk isRedeem serialized =>
    cases isRedeem with
    | true =>
      obtain rfl := Except.ok.inj done
      exact ⟨(applied_nothing t).symm, by simp [storedOutput]⟩
    | false =>
      simp only [storeTransferOutput, Bool.false_eq_true, if_false, ok_iff] at done
      obtain ⟨raw, rfl, stored⟩ := done
      obtain ⟨rfl, free⟩ := store_output_ok stored
      exact ⟨by simp [storedOutput], by simpa [storedOutput] using free⟩

theorem store_metadata_ok {entry : Bytes × Bytes} (done : storeMetadata (metadataKey kind.objectType) text t entry = .ok next) :
    next = t.applied [MetadataEntry.write ⟨kind, entry.1, entry.2⟩] [] := by
  simp only [storeMetadata, ok_iff] at done
  obtain ⟨key, made, _, -, rfl⟩ := done
  obtain ⟨rfl, -⟩ := create_composite_key_ok made
  exact set_state_applied _ _ _

theorem check_inputs_ok (passed : t.checkInputs sha256 parts = .ok ()) :
    (∃ raws, parts.serializedInputs = .ok raws) ∧ ∀ entry ∈ parts.spent, t.state (outputSNKey sha256 entry.1 entry.2) ≠ [] := by
  simp only [checkInputs, ok_iff] at passed
  obtain ⟨_, -, raws, read, _, -, existing⟩ := passed
  refine ⟨⟨raws, read⟩, fun entry mem => ?_⟩
  rw [ActionWithInputs.spent, read] at mem
  have single := check_each_mem.mp existing entry mem
  simp only [checkInput, ok_iff, stateMustExist] at single
  obtain ⟨key, made, present⟩ := single
  rwa [create_output_sn_key_ok entry.1 made] at present

theorem spend_listed_inputs_ok {raws : List Bytes} (read : parts.serializedInputs = .ok raws)
    (done : (if parts.inputs = [] then .ok t else do
      let serializedInputs ← wrap "error serializing transfer inputs" parts.serializedInputs
      (parts.inputs.zip serializedInputs).foldlM (spendInput sha256) t) = .ok next) :
    parts.spent.foldlM (spendInput sha256) t = .ok next := by
  rw [ActionWithInputs.spent, read]
  by_cases none : parts.inputs = []
  · rw [if_pos none] at done
    rw [none]
    exact done
  · rw [if_neg none, read] at done
    exact done

theorem spend_inputs_ok {raws : List Bytes} (read : parts.serializedInputs = .ok raws)
    (done : t.spendInputs sha256 parts = .ok next) :
    next = t.applied (parts.spent.flatMap (spentWrites sha256) ++ parts.serialNumbers.map serialWrite)
        (parts.spent.map spentKey ++ parts.serialNumbers) ∧
      Fresh t.spentIDs (parts.spent.map spentKey ++ parts.serialNumbers) ∧ (∀ entry ∈ parts.spent, 0x00 ∉ entry.1.txId) ∧
      ∀ serial ∈ parts.serialNumbers, createInputSNKey serial = .ok (inputSNKey serial) := by
  rw [spendInputs, bind_ok_iff] at done
  obtain ⟨middle, listed, serials⟩ := done
  obtain ⟨rfl, freshInputs, closedInputs⟩ :=
    fold_applied (spentWrites sha256) (fun entry => [spentKey entry]) (fun entry => 0x00 ∉ entry.1.txId)
      (fun _ _ _ _ stepped => spend_input_ok stepped) rfl (spend_listed_inputs_ok read listed)
  obtain ⟨rfl, freshSerials, serialKeys⟩ :=
    fold_applied (fun serial => [serialWrite serial]) (fun serial => [serial])
      (fun serial => createInputSNKey serial = .ok (inputSNKey serial))
      (fun _ _ _ _ stepped => spend_serial_number_ok stepped) rfl serials
  rw [applied_applied, ← map_eq_flatMap, ← map_eq_flatMap, flatMap_singleton']
  rw [← map_eq_flatMap] at freshInputs freshSerials
  rw [flatMap_singleton'] at freshSerials
  exact ⟨rfl, fresh_append freshInputs freshSerials, closedInputs, serialKeys⟩

theorem store_outputs_ok (done : foldEach (storeTransferOutput sha256 graphHiding base) 0 t outputs = .ok next) :
    next = t.applied ((storedOutputs t.txID base outputs).flatMap (storedWrites sha256 graphHiding)) [] ∧
      ∀ entry ∈ storedOutputs t.txID base outputs, 0x00 ∉ entry.1.txId := by
  rw [fold_each_eq_foldlM] at done
  have single : ∀ (current : Translator) (entry : TransferOutput × Nat) (later : Translator), current.txID = t.txID →
      storeTransferOutput sha256 graphHiding base entry.2 current entry.1 = .ok later →
      later = current.applied ((storedOutput t.txID base entry).flatMap (storedWrites sha256 graphHiding)) [] ∧
        Fresh current.spentIDs [] ∧ ∀ stored ∈ storedOutput t.txID base entry, 0x00 ∉ stored.1.txId := by
    intro current entry later named stepped
    obtain ⟨rfl, passed⟩ := store_transfer_output_ok stepped
    rw [named] at passed ⊢
    exact ⟨rfl, fresh_nil _, passed⟩
  obtain ⟨rfl, -, closed⟩ := fold_applied _ _ _ single rfl done
  rw [storedOutputs, flatMap_assoc, flatMap_eq_nil_iff.mpr fun _ _ => rfl]
  refine ⟨rfl, fun entry mem => ?_⟩
  obtain ⟨output, listed, inside⟩ := mem_flatMap.mp mem
  exact closed output listed entry inside

theorem store_all_metadata_ok (done : metadata.foldlM (storeMetadata (metadataKey kind.objectType) text) t = .ok next) :
    next = t.applied (metadata.map fun entry => MetadataEntry.write ⟨kind, entry.1, entry.2⟩) [] := by
  obtain ⟨rfl, -⟩ := fold_applied (fun entry => [MetadataEntry.write ⟨kind, entry.1, entry.2⟩]) (fun _ => []) (fun _ => True)
    (fun _ _ _ _ stepped => ⟨store_metadata_ok stepped, fresh_nil _, trivial⟩) rfl done
  rw [← map_eq_flatMap, flatMap_eq_nil_iff.mpr fun _ _ => rfl]

variable {action : Action}

open Action

abbrev Translator.stores (t : Translator) (action : Action) : List (TokenID × Bytes) := storedOutputs t.txID t.counter action.outputs

-- What an action that was written did, and what was found out: the keys of the serial numbers can be made, and the tokens
-- that it spends are there.
structure Performed (sha256 : Bytes → Bytes) (t next : Translator) (action : Action) : Prop where
  state : next.state = writeAll t.state (action.writes sha256 t.txID t.counter)
  txID : next.txID = t.txID
  counter : next.counter = t.counter + UInt64.ofNat action.outputs.length
  spentIDs : next.spentIDs = t.spentIDs ++ action.spentIDs
  fresh : Fresh t.spentIDs action.spentIDs
  storedClosed : ∀ entry ∈ t.stores action, 0x00 ∉ entry.1.txId
  spentClosed : ∀ entry ∈ action.spent, 0x00 ∉ entry.1.txId
  keyed : ∀ serial ∈ action.serialNumbers, createInputSNKey serial = .ok (inputSNKey serial)
  existing : ∀ entry ∈ action.spent, t.state (outputSNKey sha256 entry.1 entry.2) ≠ []

-- Issues and transfers differ in the prefix of their metadata keys.
theorem performed_of_steps {stored spent written : Translator} (action : Action) (kind : MetadataKind)
    (listed : action.spent = parts.spent)
    (serials : action.serialNumbers = parts.serialNumbers)
    (entries : action.metadata = metadata.map fun entry => ⟨kind, entry.1, entry.2⟩) (setup : action.setupWrites sha256 = [])
    (checked : t.checkInputs sha256 parts = .ok ())
    (storing : foldEach (storeTransferOutput sha256 action.isGraphHiding t.counter) 0 t action.outputs = .ok stored)
    (spending : stored.spendInputs sha256 parts = .ok spent)
    (writing : metadata.foldlM (storeMetadata (metadataKey kind.objectType) text) spent = .ok written) :
    Performed sha256 t { written with counter := written.counter + UInt64.ofNat action.outputs.length } action := by
  obtain ⟨⟨raws, read⟩, existing⟩ := check_inputs_ok checked
  obtain ⟨rfl, storedClosed⟩ := store_outputs_ok storing
  obtain ⟨rfl, fresh, spentClosed, keyed⟩ := spend_inputs_ok read spending
  obtain rfl := store_all_metadata_ok writing
  rw [applied_applied, applied_applied, append_nil, ← append_assoc, ← append_assoc, nil_append]
  rw [← listed, ← serials] at fresh ⊢
  refine ⟨?_, rfl, rfl, rfl, ?_, storedClosed, listed ▸ spentClosed, serials ▸ keyed, listed ▸ existing⟩
  · rw [writes, entries, setup, map_map, append_nil]
    rfl
  · simpa [applied, Action.spentIDs] using fresh

theorem action_performed (done : t.write sha256 action = .ok next) : Performed sha256 t next action := by
  cases action with
  | issue action =>
    simp only [write, checkAction, commitAction, commitIssueAction, ok_iff] at done
    obtain ⟨_, checked, raws, read, stored, storing, spent, spending, written, writing, rfl⟩ := done
    have outputs : (issue action).outputs = raws.map issuedOutput := by simp [outputs, read]
    have count : raws.length = (issue action).outputs.length := by rw [outputs, length_map]
    rw [count]
    refine performed_of_steps (issue action) .issue rfl rfl rfl rfl checked ?_ spending writing
    rw [outputs, fold_each_map]
    exact storing
  | transfer action =>
    simp only [write, checkAction, commitAction, commitTransferAction, ok_iff] at done
    obtain ⟨_, checked, stored, storing, spent, spending, written, writing, rfl⟩ := done
    exact performed_of_steps (transfer action) .transfer rfl rfl rfl rfl checked storing spending writing
  | setup parameters =>
    simp only [write, checkAction, commitAction, commitSetupAction, ok_iff] at done
    obtain ⟨_, _, raw, rfl, setupKey, made, hashKey, hashMade, rfl⟩ := done
    obtain ⟨rfl, -⟩ := create_composite_key_ok made
    obtain ⟨rfl, -⟩ := create_composite_key_ok hashMade
    refine ⟨?_, rfl, (UInt64.add_zero _).symm, (append_nil _).symm, fresh_nil _, by simp [storedOutputs, outputs],
      by simp [spent], by simp [serialNumbers], by simp [spent]⟩
    rw [set_state_applied, set_state_applied, applied_applied]
    rfl
  | unknown type => simp [write, checkAction, bind_ok_iff] at done

end Commit

end Panurus.Rws
