import Panurus.Rws.Outputs

namespace Panurus.Rws

open List Lib Outcome Mapping Utxo History

variable {sha256 : Bytes → Bytes} {entry : TokenID × Bytes} {n : Nat} {hashed : Set Bytes} {t next : Translator}
  {action : Action} {h : History TokenID Bytes} {request : Request} {txID : Bytes} {counter base : UInt64} {actions : List Action}

section Lookup

variable {t next : Translator} {action : Action} {id : TokenID} {entries : List (TokenID × Bytes)} {write : Key × Value}

theorem rest_untouched {rest : List (Key × Value)} (state : State) {key : Key}
    (short : ∀ entry ∈ rest, ∃ objectType part, entry.1 = compositeKey objectType [part] ∧
      objectType ∈ shortTypes ∧ objectType ≠ outputSNKeyPrefix)
    (apart : ∀ objectType ∈ shortTypes, objectType ≠ outputSNKeyPrefix → ∀ part, key ≠ compositeKey objectType [part]) :
    writeAll state rest key = state key := by
  refine write_all_not_mem state fun mem => ?_
  obtain ⟨entry, found, same⟩ := mem_map.mp mem
  obtain ⟨objectType, part, named, listed, other⟩ := short entry found
  exact apart objectType listed other part (same.symm.trans named)

section

variable (long : 32 ≤ id.txId.length) (closed : 0x00 ∉ id.txId) (entriesClosed : ∀ entry ∈ entries, 0x00 ∉ entry.1.txId)
include long closed entriesClosed

theorem stored_writes_output_key (mem : write ∈ entries.flatMap (storedWrites sha256 false)) (same : write.1 = outputKey id) :
    (id, write.2) ∈ entries := by
  obtain ⟨entry, found, inside⟩ := mem_flatMap.mp mem
  simp only [storedWrites, Bool.false_eq_true, if_false, mem_cons, not_mem_nil, or_false] at inside
  rcases inside with rfl | rfl
  · rw [← output_key_injective (entriesClosed entry found) closed same]
    exact found
  · exact absurd same.symm (output_key_ne_short long closed (by decide) _)

theorem spent_writes_output_key (mem : write ∈ entries.flatMap (spentWrites sha256)) (same : write.1 = outputKey id) :
    id ∈ entries.map Prod.fst := by
  obtain ⟨entry, found, inside⟩ := mem_flatMap.mp mem
  simp only [spentWrites, mem_cons, not_mem_nil, or_false] at inside
  rcases inside with rfl | rfl
  · exact absurd same.symm (output_key_ne_short long closed (by decide) _)
  · rw [← output_key_injective (entriesClosed entry found) closed same]
    exact mem_map_of_mem found

end

theorem spent_writes_empty (mem : write ∈ entries.flatMap (spentWrites sha256)) : write.2 = [] := by
  obtain ⟨entry, -, inside⟩ := mem_flatMap.mp mem
  simp only [spentWrites, mem_cons, not_mem_nil, or_false] at inside
  rcases inside with rfl | rfl <;> rfl

section

variable (effect : Effect sha256 t next action) (long : 32 ≤ id.txId.length)
include effect long

theorem output_key_deleted (closed : 0x00 ∉ id.txId) (spent : id ∈ action.spent.map Prod.fst) :
    next.state (outputKey id) = [] := by
  obtain ⟨rest, state, short⟩ := effect.parts
  rw [state, rest_untouched _ short fun objectType listed _ part => output_key_ne_short long closed listed [part]]
  refine write_all_agree _ ?_ fun write mem _ => spent_writes_empty mem
  obtain ⟨entry, found, rfl⟩ := mem_map.mp spent
  exact mem_map.mpr ⟨(outputKey entry.1, []), mem_flatMap.mpr ⟨entry, found, by simp [spentWrites]⟩, rfl⟩

theorem output_key_kept (closed : 0x00 ∉ id.txId) (unspent : id ∉ action.spent.map Prod.fst) :
    next.state (outputKey id) = writeAll t.state ((t.stores action).flatMap (storedWrites sha256 false)) (outputKey id) := by
  obtain ⟨rest, state, short⟩ := effect.parts
  rw [state, rest_untouched _ short fun objectType listed _ part => output_key_ne_short long closed listed [part]]
  refine write_all_not_mem _ fun mem => ?_
  obtain ⟨write, found, same⟩ := mem_map.mp mem
  exact unspent (spent_writes_output_key long closed effect.spentClosed found same)

theorem output_key_stored (once : ((t.stores action).map Prod.fst).Nodup) (unspent : id ∉ action.spent.map Prod.fst) {raw : Bytes}
    (stored : (id, raw) ∈ t.stores action) : next.state (outputKey id) = raw := by
  have closed : 0x00 ∉ id.txId := effect.storedClosed _ stored
  rw [output_key_kept effect long closed unspent]
  refine write_all_agree _ ?_ fun write mem same => ?_
  · exact mem_map.mpr ⟨(outputKey id, raw), mem_flatMap.mpr ⟨(id, raw), stored, by simp [storedWrites]⟩, rfl⟩
  · have other := stored_writes_output_key long closed effect.storedClosed mem same
    exact congrArg Prod.snd (inj_on_of_nodup_map once other stored rfl)

theorem output_key_untouched (closed : 0x00 ∉ id.txId) (unspent : id ∉ action.spent.map Prod.fst)
    (unstored : id ∉ (t.stores action).map Prod.fst) : next.state (outputKey id) = t.state (outputKey id) := by
  rw [output_key_kept effect long closed unspent]
  refine write_all_not_mem _ fun mem => ?_
  obtain ⟨write, found, same⟩ := mem_map.mp mem
  exact unstored (mem_map_of_mem (stored_writes_output_key long closed effect.storedClosed found same))

end

end Lookup

def Sized (n : Nat) (hashed : Set Bytes) (entries : List (TokenID × Bytes)) : Prop :=
  ∀ entry ∈ entries, entry.1.txId.length = n ∧ snInput entry ∈ hashed

theorem sn_key_ne_output {id : TokenID} (long : 32 ≤ id.txId.length) (closed : 0x00 ∉ id.txId) :
    outputSNKey sha256 entry.1 entry.2 ≠ outputKey id := fun same =>
  output_key_ne_short long closed (by decide) _ same.symm

theorem sn_key_present (long : 32 ≤ n) (collisionFree : Set.InjOn sha256 hashed) (effect : Effect sha256 t next action)
    (storedSized : Sized n hashed (t.stores action)) (spentSized : Sized n hashed action.spent) (length : entry.1.txId.length = n)
    (known : snInput entry ∈ hashed) (present : next.state (outputSNKey sha256 entry.1 entry.2) ≠ []) :
    entry ∉ action.spent ∧ (entry ∈ t.stores action ∨ t.state (outputSNKey sha256 entry.1 entry.2) ≠ []) := by
  obtain ⟨rest, state, short⟩ := effect.parts
  have other : ∀ objectType ∈ shortTypes, objectType ≠ outputSNKeyPrefix → ∀ part,
      outputSNKey sha256 entry.1 entry.2 ≠ compositeKey objectType [part] := by
    intro objectType listed different part same
    exact different (composite_key_type sn_prefix_closed (short_types_short objectType listed).2 same).symm
  rw [state, rest_untouched _ short other] at present
  have unspent : entry ∉ action.spent := by
    intro spent
    refine present (write_all_agree _ ?_ fun write mem _ => spent_writes_empty mem)
    exact mem_map.mpr ⟨(outputSNKey sha256 entry.1 entry.2, []), mem_flatMap.mpr ⟨entry, spent, by simp [spentWrites]⟩, rfl⟩
  refine ⟨unspent, ?_⟩
  have kept : outputSNKey sha256 entry.1 entry.2 ∉ (action.spent.flatMap (spentWrites sha256)).map Prod.fst := by
    intro mem
    obtain ⟨write, found, same⟩ := mem_map.mp mem
    obtain ⟨input, spent, inside⟩ := mem_flatMap.mp found
    obtain ⟨size, hashing⟩ := spentSized input spent
    simp only [spentWrites, mem_cons, not_mem_nil, or_false] at inside
    rcases inside with rfl | rfl
    · exact unspent (sn_key_injective collisionFree hashing known (size.trans length.symm) same ▸ spent)
    · exact sn_key_ne_output (size ▸ long) (effect.spentClosed input spent) same.symm
  rw [write_all_not_mem _ kept] at present
  by_cases written : outputSNKey sha256 entry.1 entry.2 ∈
      ((t.stores action).flatMap (storedWrites sha256 false)).map Prod.fst
  · obtain ⟨write, found, same⟩ := mem_map.mp written
    obtain ⟨output, stored, inside⟩ := mem_flatMap.mp found
    obtain ⟨size, hashing⟩ := storedSized output stored
    simp only [storedWrites, Bool.false_eq_true, if_false, mem_cons, not_mem_nil, or_false] at inside
    rcases inside with rfl | rfl
    · exact absurd same.symm (sn_key_ne_output (size ▸ long) (effect.storedClosed output stored))
    · exact .inl (sn_key_injective collisionFree hashing known (size.trans length.symm) same ▸ stored)
  · rw [write_all_not_mem _ written] at present
    exact .inr present

structure Represents (sha256 : Bytes → Bytes) (n : Nat) (hashed : Set Bytes) (h : History TokenID Bytes) (state : State) :
    Prop where
  sized : Sized n hashed h.created
  closed : ∀ entry ∈ h.created, 0x00 ∉ entry.1.txId
  outputs : ∀ entry ∈ h.present, state (outputKey entry.1) = entry.2
  absent : ∀ id : TokenID, id.txId.length = n → 0x00 ∉ id.txId → (∀ raw, (id, raw) ∉ h.present) → state (outputKey id) = []
  serials : ∀ entry : TokenID × Bytes, entry.1.txId.length = n → snInput entry ∈ hashed →
    state (outputSNKey sha256 entry.1 entry.2) ≠ [] → entry ∈ h.present

theorem represents_action (long : 32 ≤ n) (collisionFree : Set.InjOn sha256 hashed)
    (before : Represents sha256 n hashed h t.state) (effect : Effect sha256 t next action)
    (storedSized : Sized n hashed (t.stores action)) (spentSized : Sized n hashed action.spent)
    (once : ((t.stores action).map Prod.fst).Nodup) (fresh : (h.created.map Prod.fst).Disjoint ((t.stores action).map Prod.fst)) :
    ∃ after : History TokenID Bytes, after.created = h.created ++ t.stores action ∧
      after.consumed = h.consumed ++ action.spent ∧ Represents sha256 n hashed after next.state := by
  have live : ∀ entry ∈ action.spent, entry ∈ h.present := by
    intro entry mem
    obtain ⟨size, known⟩ := spentSized entry mem
    exact before.serials entry size known (effect.existing entry mem)
  let grown := h.create _ once fresh
  have reachable : action.spent ⊆ grown.present := fun entry mem => mem_present_create.mpr (.inl (live entry mem))
  let after := grown.consume action.spent effect.spentOnce reachable
  have presentIff : ∀ entry, entry ∈ after.present ↔
      (entry ∈ h.present ∨ entry ∈ t.stores action) ∧ entry ∉ action.spent := by
    intro entry
    rw [mem_present_consume, mem_present_create]
  have sized : Sized n hashed after.created := forall_mem_append.mpr ⟨before.sized, storedSized⟩
  have unspentID : ∀ entry ∈ after.present, entry.1 ∉ action.spent.map Prod.fst := by
    intro entry mem spent
    obtain ⟨input, found, same⟩ := mem_map.mp spent
    have inputCreated : input ∈ after.created := (mem_append_left _ (mem_present.mp (live input found)).1)
    have equal := after.created_unique inputCreated (mem_present.mp mem).1 same
    exact ((presentIff entry).mp mem).2 (equal ▸ found)
  refine ⟨after, rfl, rfl, sized, forall_mem_append.mpr ⟨before.closed, effect.storedClosed⟩, ?_, ?_, ?_⟩
  · intro entry mem
    have unspent := unspentID entry mem
    have length := (sized entry (mem_present.mp mem).1).1
    rcases ((presentIff entry).mp mem).1 with old | new
    · have created := (mem_present.mp old).1
      have unstored : entry.1 ∉ (t.stores action).map Prod.fst :=
        fun stored => fresh (mem_map_of_mem created) stored
      rw [output_key_untouched effect (length ▸ long) (before.closed entry created) unspent unstored]
      exact before.outputs entry old
    · exact output_key_stored effect (length ▸ long) once unspent new
  · intro id length closed gone
    by_cases spent : id ∈ action.spent.map Prod.fst
    · exact output_key_deleted effect (length ▸ long) closed spent
    · have unspent : ∀ raw, (id, raw) ∉ action.spent := fun raw mem => spent (mem_map_of_mem mem)
      have unstored : id ∉ (t.stores action).map Prod.fst := by
        intro stored
        obtain ⟨⟨_, raw⟩, mem, rfl⟩ := mem_map.mp stored
        exact gone raw ((presentIff _).mpr ⟨.inr mem, unspent raw⟩)
      rw [output_key_untouched effect (length ▸ long) closed spent unstored]
      refine before.absent id length closed fun raw mem => ?_
      exact gone raw ((presentIff _).mpr ⟨.inl mem, unspent raw⟩)
  · intro entry length known marked
    obtain ⟨unspent, either⟩ := sn_key_present long collisionFree effect storedSized spentSized length known marked
    refine (presentIff entry).mpr ⟨?_, unspent⟩
    exact either.symm.imp (before.serials entry length known) id

theorem represents_empty (n : Nat) (hashed : Set Bytes) : Represents sha256 n hashed empty fun _ => [] := by
  refine ⟨fun _ mem => (nomatch mem), fun _ mem => (nomatch mem), fun _ mem => (nomatch mem), fun _ _ _ _ => rfl, ?_⟩
  exact fun _ _ _ marked => absurd rfl marked

theorem stored_outputs_ids (txID : Bytes) (start : Nat) (outputs : List TransferOutput) :
    ((storedOutputs txID (UInt64.ofNat start) outputs).map Prod.fst).Sublist
      ((range' start outputs.length).map fun index => ⟨txID, UInt64.ofNat index⟩) := by
  have general : ∀ first, (((outputs.zipIdx first).flatMap (storedOutput txID (UInt64.ofNat start))).map Prod.fst).Sublist
      ((range' (start + first) outputs.length).map fun index => ⟨txID, UInt64.ofNat index⟩) := by
    induction outputs with
    | nil => exact fun _ => .slnil
    | cons output tail ih =>
      intro first
      have rest := ih (first + 1)
      rw [zipIdx_cons, flatMap_cons, length_cons, range'_succ, map_cons]
      rw [storedOutput]
      split
      · exact rest.cons _
      · split
        · rw [UInt64.ofNat_add]
          exact rest.cons_cons _
        · exact rest.cons _
  exact general 0

def outputCount (actions : List Action) : Nat := (actions.map fun action => action.outputs.length).sum

theorem stored_from_ids (txID : Bytes) (start : Nat) (actions : List Action) :
    ((storedFrom txID (UInt64.ofNat start) actions).map Prod.fst).Sublist
      ((range' start (outputCount actions)).map fun index => ⟨txID, UInt64.ofNat index⟩) := by
  induction actions generalizing start with
  | nil => exact .slnil
  | cons action tail ih =>
    have count : outputCount (action :: tail) = action.outputs.length + outputCount tail := by
      simp [outputCount]
    rw [storedFrom, ← UInt64.ofNat_add, map_append, count, range'_append_1.symm, map_append]
    exact (stored_outputs_ids txID start action.outputs).append (ih _)

theorem request_ids_once (bound : outputCount request.actions ≤ 2 ^ 64) : (request.stored.map Prod.fst).Nodup := by
  refine (stored_from_ids request.txID 0 request.actions).nodup (List.Nodup.map_on ?_ nodup_range')
  intro first firstMem second secondMem same
  simp only [mem_range'_1] at firstMem secondMem
  have indexes := congrArg (fun id => id.index.toNat) same
  simp only [UInt64.toNat_ofNat'] at indexes
  rwa [Nat.mod_eq_of_lt (by omega), Nat.mod_eq_of_lt (by omega)] at indexes

theorem stored_from_txid (stored : entry ∈ storedFrom txID counter actions) : entry.1.txId = txID := by
  induction actions generalizing counter with
  | nil => cases stored
  | cons action tail ih =>
    rcases mem_append.mp stored with first | later
    · exact stored_output_txid first
    · exact ih later

theorem represents_actions (long : 32 ≤ n) (collisionFree : Set.InjOn sha256 hashed)
    (revealing : ∀ action ∈ actions, action.GraphRevealing)
    (spentSized : Sized n hashed (actions.flatMap Action.spent)) {final : Translator}
    (before : Represents sha256 n hashed h t.state) (storedSized : Sized n hashed (storedFrom t.txID t.counter actions))
    (once : ((storedFrom t.txID t.counter actions).map Prod.fst).Nodup)
    (fresh : (h.created.map Prod.fst).Disjoint ((storedFrom t.txID t.counter actions).map Prod.fst))
    (done : actions.foldlM (Translator.write sha256) t = .ok final) :
    ∃ after : History TokenID Bytes, after.created = h.created ++ storedFrom t.txID t.counter actions ∧
      after.consumed = h.consumed ++ actions.flatMap Action.spent ∧ Represents sha256 n hashed after final.state := by
  induction actions generalizing t h with
  | nil =>
    obtain rfl := Except.ok.inj done
    exact ⟨h, (append_nil _).symm, (append_nil _).symm, before⟩
  | cons action tail ih =>
    rw [foldlM_cons, bind_ok_iff] at done
    obtain ⟨next, written, rest⟩ := done
    obtain ⟨first, others⟩ := forall_mem_cons.mp revealing
    have effect := action_effect first written
    obtain ⟨spentFirst, spentOthers⟩ := forall_mem_append.mp spentSized
    rw [storedFrom] at storedSized once fresh ⊢
    rw [← effect.counter] at storedSized once fresh ⊢
    obtain ⟨storedFirst, storedOthers⟩ := forall_mem_append.mp storedSized
    rw [map_append] at once fresh
    obtain ⟨onceFirst, onceOthers, apart⟩ := nodup_append'.mp once
    obtain ⟨freshFirst, freshOthers⟩ := disjoint_append_right.mp fresh
    obtain ⟨middle, created, consumed, holds⟩ :=
      represents_action long collisionFree before effect storedFirst spentFirst onceFirst freshFirst
    have freshNext : (middle.created.map Prod.fst).Disjoint ((storedFrom t.txID next.counter tail).map Prod.fst) := by
      rw [created, map_append]
      exact disjoint_append_left.mpr ⟨freshOthers, apart⟩
    rw [← effect.txID] at storedOthers onceOthers freshNext
    obtain ⟨after, allCreated, allConsumed, allHolds⟩ := ih others spentOthers holds storedOthers onceOthers freshNext rest
    refine ⟨after, ?_, ?_, allHolds⟩
    · rw [allCreated, created, effect.txID, append_assoc]
    · rw [allConsumed, consumed, flatMap_cons, append_assoc]

def TransferOutput.kept (output : TransferOutput) : Option Bytes :=
  if output.isRedeem then none else output.serialized.toOption

open TransferOutput

def Action.kept (action : Action) : List Bytes := action.outputs.filterMap TransferOutput.kept

theorem stored_outputs_kept (txID : Bytes) (base : UInt64) (outputs : List TransferOutput) :
    (storedOutputs txID base outputs).map Prod.snd = outputs.filterMap kept := by
  have general : ∀ first, ((outputs.zipIdx first).flatMap (storedOutput txID base)).map Prod.snd =
      outputs.filterMap kept := by
    induction outputs with
    | nil => exact fun _ => rfl
    | cons output tail ih =>
      intro first
      rw [zipIdx_cons, flatMap_cons, map_append, ih, filterMap_cons, storedOutput, kept]
      cases output.isRedeem with
      | true => rfl
      | false => cases output.serialized with
        | ok raw | error reason => rfl
  exact general 0

theorem stored_from_kept (txID : Bytes) (counter : UInt64) (actions : List Action) :
    (storedFrom txID counter actions).map Prod.snd = actions.flatMap Action.kept := by
  induction actions generalizing counter with
  | nil => rfl
  | cons action tail ih => rw [storedFrom, map_append, ih, stored_outputs_kept, flatMap_cons, Action.kept]

theorem mem_stored_output_iff {output : TransferOutput} {j : Nat} :
    entry ∈ storedOutput txID base (output, j) ↔ output.kept = some entry.2 ∧ entry.1 = ⟨txID, base + UInt64.ofNat j⟩ := by
  obtain ⟨isRedeem, serialized⟩ := output
  obtain ⟨id, raw⟩ := entry
  cases isRedeem with
  | true => simp [storedOutput, kept]
  | false => cases serialized with
    | ok text => simp [storedOutput, kept, Except.toOption, and_comm, eq_comm]
    | error reason => simp [storedOutput, kept, Except.toOption]

theorem mem_stored_outputs_iff {outputs : List TransferOutput} :
    entry ∈ storedOutputs txID base outputs ↔ ∃ (j : Nat) (output : TransferOutput), outputs[j]? = some output ∧
      output.kept = some entry.2 ∧ entry.1 = ⟨txID, base + UInt64.ofNat j⟩ := by
  simp only [storedOutputs, mem_flatMap, Prod.exists, mem_zipIdx_iff_getElem?, mem_stored_output_iff]
  exact exists_comm

theorem mem_stored_from_iff :
    entry ∈ storedFrom txID counter actions ↔ ∃ (position : Nat) (action : Action) (j : Nat) (output : TransferOutput),
      actions[position]? = some action ∧ action.outputs[j]? = some output ∧ output.kept = some entry.2 ∧
      entry.1 = ⟨txID, counter + UInt64.ofNat (outputCount (actions.take position) + j)⟩ := by
  induction actions generalizing counter with
  | nil => simp [storedFrom]
  | cons head tail ih =>
    have later : ∀ position j, counter + UInt64.ofNat head.outputs.length +
        UInt64.ofNat (outputCount (tail.take position) + j) =
        counter + UInt64.ofNat (outputCount ((head :: tail).take (position + 1)) + j) := by
      intro position j
      rw [UInt64.add_assoc, ← UInt64.ofNat_add, ← Nat.add_assoc]
      simp [outputCount]
    rw [storedFrom, mem_append, mem_stored_outputs_iff, ih]
    constructor
    · rintro (⟨j, output, found, kept, named⟩ | ⟨position, action, j, output, here, found, kept, named⟩)
      · exact ⟨0, head, j, output, rfl, found, kept, by simpa [outputCount] using named⟩
      · exact ⟨position + 1, action, j, output, here, found, kept, by rw [← later, named]⟩
    · rintro ⟨position, action, j, output, here, found, kept, named⟩
      cases position with
      | zero =>
        obtain rfl : head = action := by simpa using here
        exact .inl ⟨j, output, found, kept, by simpa [outputCount] using named⟩
      | succ position =>
        exact .inr ⟨position, action, j, output, here, found, kept, by rw [later, named]⟩

-- What is asked of a request: actions that reveal the graph, transaction ids of one length, and no more outputs than
-- the counter has values.
structure Request.Tracked (n : Nat) (request : Request) : Prop where
  revealing : ∀ action ∈ request.actions, action.GraphRevealing
  txID : request.txID.length = n
  inputs : ∀ entry ∈ request.spent, entry.1.txId.length = n
  count : outputCount request.actions ≤ 2 ^ 64

theorem represents_request (long : 32 ≤ n) (collisionFree : Set.InjOn sha256 hashed) (tracked : request.Tracked n)
    (known : ∀ text ∈ request.hashed, text ∈ hashed) {state final : State} (before : Represents sha256 n hashed h state)
    (new : ∀ entry ∈ h.created, entry.1.txId ≠ request.txID) (done : commitRequest sha256 state request = .ok final) :
    ∃ after : History TokenID Bytes, after.created = h.created ++ request.stored ∧
      after.consumed = h.consumed ++ request.spent ∧ Represents sha256 n hashed after final := by
  obtain ⟨t, written, returned⟩ := bind_ok_iff.mp done
  obtain rfl := Except.ok.inj returned
  rw [Request.hashed, map_append] at known
  obtain ⟨storedKnown, spentKnown⟩ := forall_mem_append.mp known
  have storedSized : Sized n hashed request.stored := fun entry mem =>
    ⟨stored_from_txid mem ▸ tracked.txID, storedKnown _ (mem_map_of_mem mem)⟩
  have spentSized : Sized n hashed request.spent := fun entry mem =>
    ⟨tracked.inputs entry mem, spentKnown _ (mem_map_of_mem mem)⟩
  have fresh : (h.created.map Prod.fst).Disjoint (request.stored.map Prod.fst) := by
    intro id old stored
    obtain ⟨entry, created, rfl⟩ := mem_map.mp old
    obtain ⟨other, mem, same⟩ := mem_map.mp stored
    exact new entry created (same ▸ stored_from_txid mem)
  let start := Translator.new request.txID state
  exact represents_actions (t := start) long collisionFree tracked.revealing spentSized before storedSized
    (request_ids_once tracked.count) fresh written

end Panurus.Rws
