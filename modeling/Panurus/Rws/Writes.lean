import Panurus.Rws.Effects

namespace Panurus.Rws

open List Lib Outcome Mapping Translator

theorem metadata_key_injective {objectType first second : Bytes}
    (same : compositeKey objectType [first] = compositeKey objectType [second]) : first = second := by
  simpa only [compositeKey, flatMap_cons, flatMap_nil, append_nil, cons.injEq, true_and,
    append_assoc, append_cancel_left_eq, append_cancel_right_eq] using same

variable {sha256 : Bytes → Bytes} {t next : Translator}

open Action

theorem stored_output_txid {txID : Bytes} {base : UInt64} {outputs : List TransferOutput} {entry : TokenID × Bytes}
    (stored : entry ∈ storedOutputs txID base outputs) : entry.1.txId = txID := by
  obtain ⟨output, -, inside⟩ := mem_flatMap.mp stored
  rw [storedOutput] at inside
  split at inside
  · cases inside
  · split at inside
    · obtain rfl := mem_singleton.mp inside
      rfl
    · cases inside

structure WroteAll (sha256 : Bytes → Bytes) (t final : Translator) (actions : List Action) : Prop where
  state : final.state = writeAll t.state (writesFrom sha256 t.txID t.counter actions)
  fresh : Fresh t.spentIDs (actions.flatMap Action.spentIDs)
  storedClosed : ∀ entry ∈ storedFrom t.txID t.counter actions, 0x00 ∉ entry.1.txId
  spentClosed : ∀ entry ∈ actions.flatMap spent, 0x00 ∉ entry.1.txId

theorem actions_wrote {final : Translator} {actions : List Action}
    (done : actions.foldlM (write sha256) t = .ok final) : WroteAll sha256 t final actions := by
  induction actions generalizing t with
  | nil =>
    obtain rfl := Except.ok.inj done
    exact ⟨rfl, fresh_nil _, by simp [storedFrom], by simp⟩
  | cons action tail ih =>
    rw [foldlM_cons, bind_ok_iff] at done
    obtain ⟨next, written, rest⟩ := done
    have first := action_performed written
    obtain ⟨state, fresh, storedClosed, spentClosed⟩ := ih rest
    rw [first.txID, first.counter] at state storedClosed
    rw [first.spentIDs] at fresh
    refine ⟨?_, ?_, ?_, ?_⟩
    · rw [writesFrom, write_all_append, ← first.state]
      exact state
    · rw [flatMap_cons]
      exact fresh_append first.fresh fresh
    · exact forall_mem_append.mpr ⟨first.storedClosed, storedClosed⟩
    · rw [flatMap_cons]
      exact forall_mem_append.mpr ⟨first.spentClosed, spentClosed⟩

theorem commit_writes {state final : State} {request : Request} (done : commitRequest sha256 state request = .ok final) :
    final = writeAll state (request.writes sha256) := by
  rw [commitRequest, bind_ok_iff] at done
  obtain ⟨t, run, finished⟩ := done
  rw [← pure_ok_iff.mp finished]
  exact (actions_wrote run).state

structure MapOrders (metadata others : Entries) : Prop where
  order : metadata.Perm others
  distinct : (metadata.map Prod.fst).Nodup

inductive Reordered : Action → Action → Prop
  | issue (action : IssueAction) (metadata : Entries) (orders : MapOrders action.metadata metadata) :
      Reordered (.issue action) (.issue { action with metadata })
  | transfer (action : TransferAction) (metadata : Entries) (orders : MapOrders action.metadata metadata) :
      Reordered (.transfer action) (.transfer { action with metadata })
  | setup (parameters : Outcome Bytes) : Reordered (.setup parameters) (.setup parameters)
  | unknown (type : String) : Reordered (.unknown type) (.unknown type)

theorem map_orders_symm {metadata others : Entries} (orders : MapOrders metadata others) : MapOrders others metadata :=
  ⟨orders.order.symm, (orders.order.map Prod.fst).nodup_iff.mp orders.distinct⟩

variable {action other : Action}

theorem reordered_symm (same : Reordered action other) : Reordered other action := by
  cases same with
  | issue action metadata orders => exact .issue { action with metadata } action.metadata (map_orders_symm orders)
  | transfer action metadata orders => exact .transfer { action with metadata } action.metadata (map_orders_symm orders)
  | setup parameters => exact .setup parameters
  | unknown type => exact .unknown type

section Order

variable {sha256 : Bytes → Bytes} {t final : Translator} {objectType txID : Bytes} {kind : String}
  {entry : Bytes × Bytes} {actions others : List Action}

theorem set_state_other {key other : Key} (value : Value) (apart : other ≠ key) :
    (t.setState key value).state other = t.state other := Function.update_of_ne apart _ _

theorem store_metadata_ok_iff {next : Translator} :
    storeMetadata (metadataKey objectType) kind t entry = .ok next ↔
      createCompositeKey objectType [entry.1] = .ok (compositeKey objectType [entry.1]) ∧
      t.state (compositeKey objectType [entry.1]) = [] ∧ next = t.setState (compositeKey objectType [entry.1]) entry.2 := by
  simp only [storeMetadata, ok_iff, exists_const]
  constructor
  · rintro ⟨key, made, free, rfl⟩
    obtain ⟨rfl, -⟩ := create_composite_key_ok made
    exact ⟨made, free, rfl⟩
  · rintro ⟨made, free, rfl⟩
    exact ⟨_, made, free, rfl⟩

theorem store_two_metadata {other : Bytes × Bytes} (apart : entry.1 ≠ other.1)
    (done : (storeMetadata (metadataKey objectType) kind t entry >>= fun next =>
      storeMetadata (metadataKey objectType) kind next other) = .ok final) :
    (storeMetadata (metadataKey objectType) kind t other >>= fun next =>
      storeMetadata (metadataKey objectType) kind next entry) = .ok final := by
  have keys : compositeKey objectType [entry.1] ≠ compositeKey objectType [other.1] :=
    fun same => apart (metadata_key_injective same)
  simp only [bind_ok_iff, store_metadata_ok_iff] at done ⊢
  obtain ⟨_, ⟨made, free, rfl⟩, made', free', rfl⟩ := done
  rw [set_state_other _ keys.symm] at free'
  refine ⟨_, ⟨made', free', rfl⟩, made, ?_, ?_⟩
  · rw [set_state_other _ keys, free]
  · simp only [setState]
    rw [Function.update_comm keys]

theorem store_all_metadata_order {objectType : Bytes} {kind : String} {t final : Translator}
    {metadata others : Entries} (orders : MapOrders metadata others) :
    metadata.foldlM (storeMetadata (metadataKey objectType) kind) t = .ok final ↔
      others.foldlM (storeMetadata (metadataKey objectType) kind) t = .ok final := by
  refine foldlM_perm (fun apart => apart.symm) ?_ orders.order (List.pairwise_map.mp orders.distinct)
  exact fun apart => ⟨store_two_metadata apart, store_two_metadata apart.symm⟩

theorem write_order (same : Reordered action other) : t.write sha256 action = .ok final ↔ t.write sha256 other = .ok final := by
  cases same with
  | issue action metadata orders =>
    simp only [write, checkAction, commitAction, commitIssueAction, bind_ok_iff]
    have stored := @store_all_metadata_order issueActionMetadataPrefix "issue"
    simp only [show createIssueActionMetadataKey = metadataKey issueActionMetadataPrefix from rfl,
      stored orders]
  | transfer action metadata orders =>
    simp only [write, checkAction, commitAction, commitTransferAction, bind_ok_iff]
    have stored := @store_all_metadata_order transferActionMetadataPrefix "transfer"
    simp only [show createTransferActionMetadataKey = metadataKey transferActionMetadataPrefix from rfl,
      stored orders]
  | setup parameters | unknown type => exact Iff.rfl

theorem commit_order {state final : State} (same : List.Forall₂ Reordered actions others) :
    commitRequest sha256 state ⟨txID, actions⟩ = .ok final ↔ commitRequest sha256 state ⟨txID, others⟩ = .ok final := by
  have run : ∀ t final : Translator, actions.foldlM (write sha256) t = .ok final ↔
      others.foldlM (write sha256) t = .ok final := by
    induction same with
    | nil => exact fun _ _ => Iff.rfl
    | cons first _ ih =>
      intro t final
      simp [bind_ok_iff, write_order first, ih]
  simp only [commitRequest, bind_ok_iff, run]

theorem writes_order {counter : UInt64} (same : List.Forall₂ Reordered actions others) :
    (writesFrom sha256 txID counter actions).Perm (writesFrom sha256 txID counter others) := by
  induction same generalizing counter with
  | nil => exact .refl _
  | @cons action other _ _ first _ ih =>
    have outputs : action.outputs = other.outputs := by cases first <;> rfl
    have writes : (action.writes sha256 txID counter).Perm (other.writes sha256 txID counter) := by
      cases first with
      | issue action metadata orders => exact (((orders.order.map _).map _).append_left _).append_right _
      | transfer action metadata orders => exact (((orders.order.map _).map _).append_left _).append_right _
      | setup parameters | unknown type => exact .refl _
    rw [writesFrom, outputs]
    exact writes.append ih

end Order

end Panurus.Rws
