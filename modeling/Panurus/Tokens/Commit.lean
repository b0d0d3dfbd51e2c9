import Mathlib.Data.List.ReduceOption
import Panurus.Tokens.Service

namespace Panurus.Tokens

open List Lib Outcome Driver TokenStore List.Subset
open Panurus.Client (Token Request Input Output)
open Panurus.Rws (TokenID)

-- What the operations make of a store, one after the other, in one transaction.
def executeAll (database : Database) (store : TokenStore) (all : List Operation) : Outcome DBTransaction :=
  all.foldlM (DBTransaction.execute database) (.continued store)

def TokenStore.Unspent (db : TokenStore) (id : TokenID) : Prop :=
  ∃ row ∈ db.tokens, row.record.id = id ∧ row.isDeleted = false

def TokenStore.Spent (db : TokenStore) (id : TokenID) : Prop :=
  ∃ row ∈ db.tokens, row.record.id = id ∧ row.isDeleted = true

-- The rows after some transactions, from those before: the tokens they create, if new, and the mark on those they spend.
structure Settled (before after : TokenStore) (created spent : List TokenID) : Prop where
  ids : ∀ id, id ∈ after.ids ↔ id ∈ before.ids ∨ id ∈ created
  unspent : ∀ id, after.Unspent id ↔ (before.Unspent id ∨ id ∈ created ∧ id ∉ before.ids) ∧ id ∉ spent
  spent : ∀ id, after.Spent id ↔ before.Spent id ∨ id ∈ spent ∧ (id ∈ before.ids ∨ id ∈ created)

section Rows

variable {before middle after : TokenStore} {created spent laterCreated laterSpent : List TokenID}

theorem settled_refl (db : TokenStore) : Settled db db [] [] := ⟨by simp, by simp, by simp⟩

-- What was spent first is not created later: otherwise the mark would have been lost.
theorem settled_trans (first : Settled before middle created spent) (second : Settled middle after laterCreated laterSpent)
    (inOrder : ∀ id ∈ spent, id ∉ laterCreated) : Settled before after (created ++ laterCreated) (spent ++ laterSpent) where
  ids := fun id => by rw [second.ids, first.ids, mem_append, or_assoc]
  unspent := fun id => by
    have kept := inOrder id
    rw [second.unspent, first.unspent, first.ids, mem_append, mem_append]
    tauto
  spent := fun id => by
    have kept := inOrder id
    rw [second.spent, first.spent, first.ids, mem_append, mem_append]
    tauto

theorem settled_stored {now : Int} {tr : TokenRecord} {owners : List Bytes} (stored : before.storeToken now tr owners = .ok after) :
    Settled before after [tr.id] [] := by
  simp only [storeToken, ok_iff] at stored
  obtain ⟨_, _, _, _, rfl⟩ := stored
  by_cases known : tr.id ∈ before.ids
  · rw [if_pos known]
    refine ⟨fun id => ?_, fun id => ?_, fun id => ?_⟩
    · exact ⟨.inl, fun h => h.elim (fun old => old) fun new => mem_singleton.mp new ▸ known⟩
    · simp only [Unspent, mem_singleton]
      grind
    · simp [Spent]
  · rw [if_neg known]
    refine ⟨fun id => ?_, fun id => ?_, fun id => ?_⟩
    · simp [ids]
    · simp only [Unspent, mem_append, mem_singleton, or_and_right, exists_or, exists_eq_left]
      grind
    · simp [Spent]

theorem delete_ids (db : TokenStore) (now : Int) (id : TokenID) (deletedBy : Bytes) :
    (db.delete now id deletedBy).ids = db.ids := by
  simp only [ids, delete, map_map]
  apply map_congr_left
  intro row _
  by_cases spent : row.record.id = id
  · simp [if_pos spent]
  · simp [if_neg spent]

theorem settled_deleted (now : Int) (id : TokenID) (deletedBy : Bytes) :
    Settled before (before.delete now id deletedBy) [] [id] := by
  refine ⟨fun other => by simp [delete_ids], fun other => ?_, fun other => ?_⟩
  · simp only [Unspent, delete, mem_map, exists_exists_and_eq_and, mem_singleton]
    grind
  · simp only [Spent, delete, ids, mem_map, exists_exists_and_eq_and, mem_singleton]
    grind

end Rows

theorem settled_all {σ α : Type} {v : σ → TokenStore} {created spent : α → List TokenID} {f : σ → α → Outcome σ}
    {R : α → α → Prop} {P : σ → α → Prop}
    (one : ∀ {s next a}, P s a → f s a = .ok next → Settled (v s) (v next) (created a) (spent a))
    (ready_kept : ∀ {s next a b}, R a b → P s a → P s b → f s a = .ok next → P next b)
    (ordered : ∀ {a b}, R a b → ∀ id ∈ spent a, id ∉ created b) {all : List α} {s last : σ} (pairwise : all.Pairwise R)
    (ready : ∀ a ∈ all, P s a) (ran : all.foldlM f s = .ok last) :
    Settled (v s) (v last) (all.flatMap created) (all.flatMap spent) := by
  induction all generalizing s with
  | nil =>
    cases ran
    exact settled_refl _
  | cons a rest ih =>
    obtain ⟨next, stepped, ran⟩ := bind_ok_iff.mp ran
    obtain ⟨first, pairwise⟩ := pairwise_cons.mp pairwise
    have readyHead := ready a mem_cons_self
    have later := ih pairwise (fun b mem => ready_kept (first b mem) readyHead (ready b (mem_cons_of_mem _ mem)) stepped) ran
    apply settled_trans (one readyHead stepped) later
    intro id mem created
    obtain ⟨b, memb, createdBy⟩ := mem_flatMap.mp created
    exact ordered (first b memb) id mem createdBy

def Operation.created : Operation → List TokenID
  | .append tta => [tta.id]
  | .delete _ _ => []

def Operation.spent : Operation → List TokenID
  | .append _ => []
  | .delete id _ => id.toList

open Operation

theorem settled_executed {database : Database} {tx next : DBTransaction} {operation : Operation}
    (executed : tx.execute database operation = .ok next) : Settled tx.store next.store operation.created operation.spent := by
  cases operation with
  | append tta =>
    simp only [DBTransaction.execute, DBTransaction.appendToken, ok_iff] at executed
    obtain ⟨_, _, _, ⟨_, _, stored⟩, rfl⟩ := executed
    exact settled_stored stored
  | delete id deletedBy =>
    cases id with
    | none => cases executed
    | some id =>
      simp only [DBTransaction.execute, DBTransaction.deleteToken, ok_iff] at executed
      obtain ⟨_, _, _, _, rfl⟩ := executed
      exact settled_deleted _ _ _

theorem operations_appends_first (txID : Bytes) (actions : Actions) :
    (operations txID actions).Pairwise fun a b => ∀ id ∈ a.spent, id ∉ b.created := by
  simp [operations, pairwise_append, pairwise_map, spent, created, pairwise_of_forall]

section Commits

variable {tta : TokenToAppend} {env : Environment} {txID : Bytes} {provider : Provider} {request : Request} {actions : Actions}
  {store : TokenStore}

section Extraction

variable {auth : Authorization} {anchor : Bytes} {auditorFlag : Bool} {precision : UInt64} {output : Output}

theorem parse_redeem_tx (parsed : parseRedeem auth anchor auditorFlag precision output = some tta) : tta.txID = anchor := by
  unfold parseRedeem at parsed
  split at parsed
  · cases parsed
    rfl
  · cases parsed

theorem parse_owned_tx (parsed : parseOwned auth anchor auditorFlag precision output = .ok (some tta)) : tta.txID = anchor := by
  unfold parseOwned at parsed
  simp only at parsed
  split at parsed
  · cases parsed
  · obtain ⟨owner, _, result⟩ := bind_ok_iff.mp parsed
    cases pure_ok_iff.mp result
    rfl

theorem parse_output_tx (parsed : parseOutput auth anchor auditorFlag precision output = .ok (some tta)) : tta.txID = anchor := by
  unfold parseOutput at parsed
  split at parsed
  · exact parse_redeem_tx (Except.ok.inj parsed)
  · exact parse_owned_tx parsed

theorem extract_actions_tx
    (extracted : extractActions provider anchor request = .ok actions) : ∀ tta ∈ actions.toAppend, tta.txID = anchor := by
  simp only [extractActions, parse, ok_iff] at extracted
  obtain ⟨tms, _, walk, _, hidden, _, outputs, mapped, rfl⟩ := extracted
  intro tta listed
  obtain ⟨output, _, found⟩ := mapM_ok_mem mapped (reduceOption_mem_iff.mp listed)
  exact parse_output_tx found

end Extraction

structure State where
  cache : RequestsCache
  store : TokenStore
  published : List TokenProcessorEvent

def start (store : TokenStore) : State := { cache := fun _ => none, store, published := [] }

-- A caller of AppendValid commits its transaction or rolls it back; after an error it rolls it back.
inductive Event where
  | cacheRequest (provider : Provider) (request : Request)
  | appendValid (env : Environment) (txID : Bytes) (given : Given) (commits : Bool)
  | evict (key : Bytes)

def step (s : State) : Event → State
  | .cacheRequest provider request =>
    match cacheRequest provider s.cache request with
    | .ok cache => { s with cache }
    | .error _ => s
  | .appendValid env txID given commits =>
    let (cache, applied) := appendValid env s.cache s.store txID given
    match applied with
    | .ok done =>
      if commits then { cache, store := done.store, published := s.published ++ done.pending } else { s with cache }
    | .error _ => { s with cache }
  | .evict key => { s with cache := s.cache.remove key }

def run (s : State) (history : List Event) : State := history.foldl step s

-- The tokens of the very request are appended and deleted, and nothing else is done to the store.
def AppliesRequest (env : Environment) (store : TokenStore) (txID : Bytes) (request : Request) (applied : DBTransaction) : Prop :=
  ∃ actions, extractActions env.provider txID request = .ok actions ∧
    executeAll env.database store (operations txID actions) = .ok applied

-- What is cached under the transaction, if anything, does to the store what the request does.
def CachedAlike (env : Environment) (cache : RequestsCache) (store : TokenStore) (txID : Bytes) (request : Request) : Prop :=
  ∀ entry, cache txID = some entry → ∃ actions, extractActions env.provider txID request = .ok actions ∧
    executeAll env.database store (operations txID actions) = executeAll env.database store (operations txID entry.actions)

variable {applied : DBTransaction} {cache : RequestsCache} {given : Given} {s : State}

section Calls

theorem apply_actions_executed (done : applyActions env txID store actions = .ok applied) :
    executeAll env.database store (operations txID actions) = .ok applied := by
  obtain ⟨_, _, executed⟩ := bind_ok_iff.mp done
  exact (foldlM_wrap_ok_iff (failureText txID)).mp executed

theorem settled_applied (done : applyActions env txID store actions = .ok applied) :
    Settled store applied.store (actions.toAppend.map TokenToAppend.id) actions.toSpend.reduceOption := by
  have settled := settled_all (v := DBTransaction.store) (P := fun _ _ => True)
    (fun _ step => settled_executed step) (fun _ _ _ _ => trivial) (fun order => order)
    (operations_appends_first txID actions) (fun _ _ => trivial) (apply_actions_executed done)
  have created : (operations txID actions).flatMap created = actions.toAppend.map TokenToAppend.id := by
    simp [operations, created, flatMap_map, ← map_eq_flatMap]
  have spent : (operations txID actions).flatMap spent = actions.toSpend.reduceOption := by
    simp [operations, spent, flatMap_map, reduceOption, filterMap_eq_flatMap_toList]
  rw [created, spent] at settled
  exact settled

theorem apply_actions_ids (done : applyActions env txID store actions = .ok applied) :
    store.ids ⊆ applied.store.ids ∧ ∀ tta ∈ actions.toAppend, tta.id ∈ applied.store.ids := by
  have settled := settled_applied done
  exact ⟨fun id mem => (settled.ids id).mpr (.inl mem), fun tta mem => (settled.ids _).mpr (.inr (mem_map_of_mem mem))⟩

theorem append_valid_ok (called : (appendValid env cache store txID given).2 = .ok applied) :
    applied = .continued store ∧ (∀ request, given = .request request → store.transactionExists txID = true) ∨
      ∃ request actions, given = .request request ∧ store.transactionExists txID = false ∧
        getActions env.provider cache txID request = .ok actions ∧ applyActions env txID store actions = .ok applied := by
  cases given with
  | absent | withoutMetadata =>
    cases called
    exact .inl ⟨rfl, fun _ same => by cases same⟩
  | request request =>
    unfold appendValid at called
    cases failure : env.existsFailure with
    | some reason =>
      simp only [failure] at called
      cases called
    | none =>
      simp only [failure] at called
      by_cases stored : store.transactionExists txID = true
      · rw [if_pos stored] at called
        cases called
        exact .inl ⟨rfl, fun _ _ => stored⟩
      · rw [if_neg stored] at called
        cases got : getActions env.provider cache txID request with
        | error reason =>
          rw [got] at called
          cases called
        | ok actions =>
          rw [got] at called
          exact .inr ⟨request, actions, rfl, Bool.not_eq_true _ ▸ stored, got, called⟩

theorem append_valid_cache (env : Environment) (cache : RequestsCache) (store : TokenStore) (txID : Bytes) (given : Given) :
    (appendValid env cache store txID given).1 = cache ∨ (appendValid env cache store txID given).1 = cache.remove txID := by
  unfold appendValid
  repeat' split
  all_goals first | exact .inl rfl | exact .inr rfl

theorem append_valid_exists (env : Environment) (cache : RequestsCache) (stored : store.transactionExists txID = true)
    (given : Given) :
    (appendValid env cache store txID given).1 = cache ∧ ((appendValid env cache store txID given).2 = .ok (.continued store) ∨
        ∃ reason, (appendValid env cache store txID given).2 = .error reason) := by
  cases given with
  | absent | withoutMetadata => exact ⟨rfl, .inl rfl⟩
  | request request =>
    unfold appendValid
    cases env.existsFailure with
    | some reason => exact ⟨rfl, .inr ⟨_, rfl⟩⟩
    | none =>
      simp [if_pos stored]

theorem step_exists (stored : s.store.transactionExists txID = true) (env : Environment)
    (given : Given) (commits : Bool) : step s (.appendValid env txID given commits) = s := by
  obtain ⟨cache, outcome⟩ := append_valid_exists env s.cache stored given
  simp only [step]
  cases outcome with
  | inl skip =>
    rw [cache, skip]
    cases commits with
    | false => rfl
    | true => simp [DBTransaction.continued]
  | inr failed =>
    obtain ⟨reason, failed⟩ := failed
    rw [cache, failed]

end Calls

section Runs

-- What is cached was extracted from a request that was given to be cached under that anchor.
def Traced (history : List Event) (cache : RequestsCache) : Prop :=
  ∀ key entry, cache key = some entry → ∃ provider, .cacheRequest provider entry.request ∈ history ∧
    entry.request.anchor = key ∧ extractActions provider key entry.request = .ok entry.actions

variable {history : List Event}

theorem traced_mono {later : List Event} (traced : Traced history cache) : Traced (history ++ later) cache := by
  intro key entry found
  obtain ⟨provider, listed, rest⟩ := traced key entry found
  exact ⟨provider, mem_append_left _ listed, rest⟩

theorem traced_remove (traced : Traced history cache) (gone : Bytes) : Traced history (cache.remove gone) := by
  intro key entry found
  by_cases same : key = gone
  · simp only [RequestsCache.remove, if_pos same] at found
    cases found
  · simp only [RequestsCache.remove, if_neg same] at found
    exact traced key entry found

theorem traced_cached {next : RequestsCache} (traced : Traced history cache)
    (cached : cacheRequest provider cache request = .ok next) : Traced (history ++ [.cacheRequest provider request]) next := by
  simp only [cacheRequest, ok_iff] at cached
  obtain ⟨actions, extracted, msgToSign, _, rfl⟩ := cached
  intro key entry found
  by_cases same : key = request.anchor
  · simp only [RequestsCache.add, if_pos same] at found
    cases found
    refine ⟨provider, mem_append_right _ mem_cons_self, same.symm, ?_⟩
    rw [same]
    exact extracted
  · simp only [RequestsCache.add, if_neg same] at found
    exact traced_mono traced key entry found

theorem step_append_valid_cache (s : State) (env : Environment) (txID : Bytes) (given : Given) (commits : Bool) :
    (step s (.appendValid env txID given commits)).cache = (appendValid env s.cache s.store txID given).1 := by
  simp only [step]
  split
  · split <;> rfl
  · rfl

theorem traced_step (traced : Traced history s.cache) (event : Event) : Traced (history ++ [event]) (step s event).cache := by
  cases event with
  | cacheRequest provider request =>
    simp only [step]
    split
    · rename_i cache cached
      exact traced_cached traced cached
    · exact traced_mono traced
  | appendValid env txID given commits =>
    rw [step_append_valid_cache]
    cases append_valid_cache env s.cache s.store txID given with
    | inl same =>
      rw [same]
      exact traced_mono traced
    | inr removed =>
      rw [removed]
      exact traced_mono (traced_remove traced txID)
  | evict key => exact traced_mono (traced_remove traced key)

theorem traced_run (store : TokenStore) (history : List Event) : Traced history (run (start store) history).cache := by
  induction history using reverseRecOn with
  | nil =>
    intro key entry found
    cases found
  | append_singleton earlier event ih =>
    rw [run, foldl_append]
    exact traced_step ih event

theorem append_valid_ids (called : (appendValid env cache store txID given).2 = .ok applied) : store.ids ⊆ applied.store.ids := by
  cases append_valid_ok called with
  | inl skip =>
    rw [skip.1]
    exact refl _
  | inr done =>
    obtain ⟨_, _, _, _, _, done⟩ := done
    exact (apply_actions_ids done).1

theorem step_ids (s : State) (event : Event) : s.store.ids ⊆ (step s event).store.ids := by
  cases event with
  | cacheRequest provider request =>
    simp only [step]
    split <;> exact refl _
  | appendValid env txID given commits =>
    simp only [step]
    split
    · rename_i done called
      split
      · exact append_valid_ids called
      · exact refl _
    · exact refl _
  | evict key => exact refl _

theorem run_ids (s : State) (history : List Event) : s.store.ids ⊆ (run s history).store.ids := by
  induction history generalizing s with
  | nil => exact refl _
  | cons event rest ih => exact List.Subset.trans (step_ids s event) (ih (step s event))

theorem get_actions_tx (traced : Traced history cache) (got : getActions provider cache txID request = .ok actions) :
    ∀ tta ∈ actions.toAppend, tta.txID = txID := by
  unfold getActions at got
  cases cached : cache txID with
  | some entry =>
    rw [cached] at got
    cases got
    obtain ⟨_, _, _, extracted⟩ := traced txID entry cached
    exact extract_actions_tx extracted
  | none =>
    rw [cached] at got
    exact extract_actions_tx got

theorem committed_exists (traced : Traced history s.cache)
    (called : (appendValid env s.cache s.store txID (.request request)).2 = .ok applied)
    (got : getActions env.provider s.cache txID request = .ok actions) (appends : actions.toAppend ≠ []) (named : txID ≠ []) :
    (step s (.appendValid env txID (.request request) true)).store.transactionExists txID = true := by
  have committed : (step s (.appendValid env txID (.request request) true)).store = applied.store := by
    simp [step, called]
  rw [committed]
  simp only [transactionExists, decide_eq_true_eq]
  refine ⟨named, ?_⟩
  cases append_valid_ok called with
  | inl skip =>
    have known := skip.2 request rfl
    simp only [transactionExists, decide_eq_true_eq] at known
    rw [skip.1]
    exact known.2
  | inr done =>
    obtain ⟨_, _, same, _, found, done⟩ := done
    cases same
    rw [got] at found
    cases found
    obtain ⟨tta, listed⟩ := exists_mem_of_ne_nil _ appends
    exact mem_map.mpr ⟨tta.id, (apply_actions_ids done).2 tta listed, get_actions_tx traced got tta listed⟩

theorem run_exists (known : s.store.transactionExists txID = true) (later : List Event) :
    (run s later).store.transactionExists txID = true := by
  simp only [transactionExists, decide_eq_true_eq] at known ⊢
  exact ⟨known.1, map_subset _ (run_ids s later) known.2⟩

end Runs

theorem applies_request_iff (unknown : store.transactionExists txID = false)
    (called : (appendValid env cache store txID (.request request)).2 = .ok applied) :
    AppliesRequest env store txID request applied ↔ CachedAlike env cache store txID request := by
  cases append_valid_ok called with
  | inl skip =>
    have known := skip.2 request rfl
    rw [unknown] at known
    cases known
  | inr done =>
    obtain ⟨_, actions, same, _, got, done⟩ := done
    cases same
    have executed := apply_actions_executed done
    unfold getActions at got
    unfold CachedAlike
    cases cached : cache txID with
    | none =>
      rw [cached] at got
      refine ⟨?_, fun _ => ⟨actions, got, executed⟩⟩
      intro _ entry absent
      cases absent
    | some entry =>
      rw [cached] at got
      cases got
      rw [AppliesRequest, ← executed]
      constructor
      · intro applies other same
        cases same
        exact applies
      · intro agree
        exact agree entry rfl

section Unchanged

theorem inserted_rows {α β : Type} [BEq β] [LawfulBEq β] (key : α → β) (items : List α) (rows : List β) :
    let inserted := items.foldl (fun rows item => if key item ∈ rows then rows else rows ++ [key item]) rows
    rows <+: inserted ∧ (inserted = rows ↔ ∀ item ∈ items, key item ∈ rows) := by
  induction items generalizing rows with
  | nil => simp
  | cons item rest ih =>
    rw [foldl_cons, forall_mem_cons]
    by_cases known : key item ∈ rows
    · rw [if_pos known]
      simpa [known] using ih rows
    · rw [if_neg known]
      obtain ⟨kept, _⟩ := ih (rows ++ [key item])
      refine ⟨(prefix_append _ _).trans kept, fun same => ?_, fun all => absurd all.1 known⟩
      have longer := kept.length_le
      rw [same, length_append, length_singleton] at longer
      omega

-- Rows are only ever marked: with as many marked as before none has changed.
theorem marking_unchanged {α : Type} {marked : α → Bool} {mark : α → α} (marks : ∀ row, marked (mark row) = true ∨ mark row = row)
    (keeps : ∀ row, marked row = true → mark row = row) (rows : List α) :
    rows.countP marked ≤ (rows.map mark).countP marked ∧
      ((rows.map mark).countP marked ≤ rows.countP marked → rows.map mark = rows) := by
  induction rows with
  | nil => simp
  | cons row rest ih =>
    have one := marks row
    have kept := keeps row
    simp only [map_cons, countP_cons, cons.injEq]
    grind

def TokenRow.markedBy (now : Int) (txID : Bytes) (row : TokenRow) : Bool :=
  row.isDeleted ∧ row.spentBy = txID ∧ row.spentAt = some now

-- The store is already as the operation would leave it, and no wallet is told of it.
def Operation.AlreadyDone (now : Int) (store : TokenStore) : Operation → Prop
  | .append tta => tta.id ∈ store.ids ∧ ∀ walletID ∈ tta.owners, walletID = [] ∧ (tta.id, walletID) ∈ store.ownership
  | .delete none _ => True
  | .delete (some id) deletedBy =>
    (∀ row ∈ store.tokens, row.record.id = id → row.markedBy now deletedBy = true) ∧
      ((store.getToken id).1 = none ∨ (store.getToken id).2 = [])

def rowExtent (now : Int) (txID : Bytes) (rows : List TokenRow) : Nat := rows.length + rows.countP (TokenRow.markedBy now txID)

-- The store has a token of the transaction already, or all there is to apply is done already.
def NothingToApply (env : Environment) (cache : RequestsCache) (store : TokenStore) (txID : Bytes) (request : Request) : Prop :=
  store.transactionExists txID = true ∨ ∃ actions, getActions env.provider cache txID request = .ok actions ∧
    ∀ operation ∈ operations txID actions, operation.AlreadyDone env.database.now store

-- It grows with every row, owner and event, and with every row that the transaction marks as spent.
def DBTransaction.extent (now : Int) (txID : Bytes) (tx : DBTransaction) : Nat :=
  rowExtent now txID tx.store.tokens + tx.store.ownership.length + tx.pending.length

-- What an operation of the transaction txID does to the extent, and when it does nothing at all.
structure OnlyAdds (now : Int) (txID : Bytes) (operation : Operation) (tx next : DBTransaction) : Prop where
  grows : tx.extent now txID ≤ next.extent now txID
  back : next.extent now txID ≤ tx.extent now txID → next = tx
  unchanged : next = tx ↔ operation.AlreadyDone now tx.store

variable {database : Database} {tx next : DBTransaction}

theorem only_adds {now : Int} {operation : Operation} {rows : List TokenRow} {ownership : List (TokenID × Bytes)}
    {notified : List TokenProcessorEvent} (more : rowExtent now txID tx.store.tokens ≤ rowExtent now txID rows)
    (back : rowExtent now txID rows ≤ rowExtent now txID tx.store.tokens → rows = tx.store.tokens)
    (owned : tx.store.ownership <+: ownership) (done : operation.AlreadyDone now tx.store ↔
      rows = tx.store.tokens ∧ ownership = tx.store.ownership ∧ notified = []) :
    OnlyAdds now txID operation tx { store := { tokens := rows, ownership }, pending := tx.pending ++ notified } := by
  obtain ⟨⟨tokens, owners⟩, pending⟩ := tx
  simp only at more back owned done
  have longer := owned.length_le
  refine ⟨?_, ?_, ?_⟩
  · simp only [DBTransaction.extent, length_append]
    omega
  · intro shorter
    simp only [DBTransaction.extent, length_append] at shorter
    rw [back (by omega), ← owned.eq_of_length_le (by omega), length_eq_zero_iff.mp (by omega : notified.length = 0), append_nil]
  · rw [done]
    simp [and_assoc]

theorem append_only_adds (appended : tx.appendToken database tta = .ok next) (txID : Bytes) :
    OnlyAdds database.now txID (.append tta) tx next := by
  simp only [DBTransaction.appendToken, storeToken, ok_iff] at appended
  obtain ⟨q, _, _, ⟨_, _, _, _, _, _, rfl⟩, rfl⟩ := appended
  obtain ⟨owned, recorded⟩ := inserted_rows (fun walletID => (tta.id, walletID)) tta.owners tx.store.ownership
  have quiet : (tta.owners.filter (· ≠ [])) = [] ↔ ∀ walletID ∈ tta.owners, walletID = [] := by simp
  by_cases known : tta.id ∈ tx.store.ids
  · have stays : (tta.record q.toNat).id ∈ tx.store.ids := known
    rw [if_pos stays]
    apply only_adds (Nat.le_refl _) (fun _ => rfl) owned
    rw [map_eq_nil_iff, quiet, recorded]
    simp only [Operation.AlreadyDone, known, true_and]
    exact ⟨fun all => ⟨fun id mem => (all id mem).2, fun id mem => (all id mem).1⟩,
      fun both id mem => ⟨both.2 id mem, both.1 id mem⟩⟩
  · have new : (tta.record q.toNat).id ∉ tx.store.ids := known
    rw [if_neg new]
    apply only_adds ?_ ?_ owned
    · simp [Operation.AlreadyDone, known]
    · simp only [rowExtent, length_append, countP_append]
      omega
    · simp only [rowExtent, length_append, countP_append, length_singleton]
      omega

theorem marked_iff {now : Int} {deletedBy : Bytes} {row : TokenRow} :
    { row with isDeleted := true, spentBy := deletedBy, spentAt := some now } = row ↔ row.markedBy now deletedBy = true := by
  cases row
  simp only [TokenRow.markedBy, TokenRow.mk.injEq, true_and, decide_eq_true_eq]
  grind

theorem delete_only_adds {id : TokenID} {deletedBy : Bytes} (deleted : tx.deleteToken database id deletedBy = .ok next) :
    OnlyAdds database.now deletedBy (.delete (some id) deletedBy) tx next := by
  simp only [DBTransaction.deleteToken, ok_iff] at deleted
  obtain ⟨_, _, _, _, rfl⟩ := deleted
  rcases got : tx.store.getToken id with ⟨tok, owners⟩
  let mark : TokenRow → TokenRow := fun row => if row.record.id = id then
    { row with isDeleted := true, spentBy := deletedBy, spentAt := some database.now } else row
  have keeps : ∀ row, mark row = row ↔ (row.record.id = id → row.markedBy database.now deletedBy = true) := by
    intro row
    by_cases found : row.record.id = id
    · simp [mark, found, marked_iff]
    · simp [mark, found]
  have marks : ∀ row, (mark row).markedBy database.now deletedBy = true ∨ mark row = row := by
    intro row
    by_cases found : row.record.id = id
    · exact .inl (by simp [mark, found, TokenRow.markedBy])
    · exact .inr (if_neg found)
  have all : tx.store.tokens.map mark = tx.store.tokens ↔ ∀ row ∈ tx.store.tokens, mark row = row := by
    rw [← map_inj_left (g := fun row => row), map_id']
  obtain ⟨more, back⟩ := marking_unchanged marks (fun row marked => (keeps row).mpr fun _ => marked) tx.store.tokens
  have grows : rowExtent database.now deletedBy (tx.store.tokens.map mark) = tx.store.tokens.length + _ :=
    congrArg (· + _) (length_map mark)
  refine only_adds (grows ▸ Nat.add_le_add_left more _) (fun fewer => back (Nat.le_of_add_le_add_left (grows ▸ fewer))) prefix_rfl ?_
  rw [all]
  simp only [Operation.AlreadyDone, keeps, true_and, got]
  apply and_congr_right
  intro _
  cases tok <;> simp

theorem execute_only_adds {operation : Operation} (ofTx : ∀ id deletedBy, operation = .delete id deletedBy → deletedBy = txID)
    (executed : tx.execute database operation = .ok next) : OnlyAdds database.now txID operation tx next := by
  cases operation with
  | append tta => exact append_only_adds executed txID
  | delete id deletedBy =>
    cases ofTx id deletedBy rfl
    cases id with
    | none => cases executed
    | some id => exact delete_only_adds executed

theorem changes_nothing_iff (called : (appendValid env cache store txID (.request request)).2 = .ok applied) :
    applied = .continued store ↔ NothingToApply env cache store txID request := by
  cases append_valid_ok called with
  | inl skip =>
    rw [skip.1]
    exact ⟨fun _ => .inl (skip.2 request rfl), fun _ => rfl⟩
  | inr done =>
    obtain ⟨_, actions, same, unknown, got, done⟩ := done
    cases same
    have adds : ∀ operation ∈ operations txID actions, ∀ {tx next : DBTransaction},
        tx.execute env.database operation = .ok next → OnlyAdds env.database.now txID operation tx next := by
      intro operation listed tx next executed
      apply execute_only_adds ?_ executed
      rintro id deletedBy rfl
      have byTx : ∃ spent ∈ actions.toSpend, spent = id ∧ txID = deletedBy := by simpa [operations] using listed
      obtain ⟨_, _, _, same⟩ := byTx
      exact same.symm
    have unchanged := (foldlM_unchanged_iff (DBTransaction.extent env.database.now txID)
      (fun operation listed _ _ executed => ⟨(adds operation listed executed).grows, (adds operation listed executed).back⟩)
      (fun operation listed _ _ executed => (adds operation listed executed).unchanged) (apply_actions_executed done)).2
    rw [unchanged, NothingToApply, got, unknown]
    simp [DBTransaction.continued]

end Unchanged

-- First: a call that is not skipped appends and deletes exactly the tokens of the request it is given if and only if what is
-- cached does the same; in a run it is enough that the requests cached under the transaction said the same. Second: once a
-- committed call had a token to append under a transaction, no later call for it changes anything; any call changes nothing
-- exactly when there is nothing to apply.
theorem append_valid_applies_request (store : TokenStore) (history : List Event) (txID : Bytes) :
    let s := run (start store) history
    (∀ (env : Environment) (request : Request) (applied : DBTransaction), s.store.transactionExists txID = false →
      (appendValid env s.cache s.store txID (.request request)).2 = .ok applied →
      (AppliesRequest env s.store txID request applied ↔ CachedAlike env s.cache s.store txID request) ∧
      ((∀ provider cached, .cacheRequest provider cached ∈ history → cached.anchor = txID →
        extractActions provider txID cached = extractActions env.provider txID request) →
        AppliesRequest env s.store txID request applied)) ∧
    (∀ (env : Environment) (request : Request) (actions : Actions) (applied : DBTransaction) (later : List Event),
      (appendValid env s.cache s.store txID (.request request)).2 = .ok applied →
      getActions env.provider s.cache txID request = .ok actions → actions.toAppend ≠ [] → txID ≠ [] →
      let last := run s (.appendValid env txID (.request request) true :: later)
      ∀ env given commits, step last (.appendValid env txID given commits) = last) ∧
    ∀ (env : Environment) (request : Request) (applied : DBTransaction),
      (appendValid env s.cache s.store txID (.request request)).2 = .ok applied →
      (applied = .continued s.store ↔ NothingToApply env s.cache s.store txID request) := by
  intro s
  have traced : Traced history s.cache := traced_run store history
  refine ⟨?_, ?_, ?_⟩
  · intro env request applied unknown called
    have exact_iff := applies_request_iff unknown called
    refine ⟨exact_iff, ?_⟩
    intro agree
    apply exact_iff.mpr
    intro entry cached
    obtain ⟨provider, listed, anchored, extracted⟩ := traced txID entry cached
    refine ⟨entry.actions, ?_, rfl⟩
    rw [← agree provider entry.request listed anchored]
    exact extracted
  · intro env request actions applied later called got appends named last other given commits
    have known : last.store.transactionExists txID = true :=
      run_exists (committed_exists traced called got appends named) later
    exact step_exists known other given commits
  · intro env request applied called
    exact changes_nothing_iff called

end Commits

namespace Payment

def payer : Bytes := [1]
def payee : Bytes := [2]
def wallet : Bytes := [77]
def txID : Bytes := [7]
def spent : TokenID := { txId := [9], index := 0 }

def row : TokenRow :=
  { record :=
      { id := spent, issuerRaw := [], ownerRaw := payer, ownerType := "x509", ownerIdentity := payer, ownerWalletID := wallet
        ledger := [], ledgerFormat := [], ledgerMetadata := [], quantity := [], type := [3], amount := 5
        owner := true, auditor := false, issuer := false, redeemed := false }
    storedAt := 0, isDeleted := false, spentBy := [], spentAt := none }

def store : TokenStore := { tokens := [row], ownership := [] }

def tokenOf (owner : Bytes) : Token := { owner, type := [3], quantity := [48, 120, 53] }

def action (raw : Bytes) : ActionInterface :=
  { validate := .ok (), numInputs := 1, outputs := [some { serialize := .ok raw, isRedeem := false }], extraSigners := []
    issuer := none, metadata := [] }

def provider : Provider :=
  { tmsID := "tms"
    getManagementService := .ok {
      graphHiding := false
      precision := 64
      auth :=
        { amIAnAuditor := false
          issued := fun _ _ => false
          isMine := fun tok => if tok.owner = payer then ⟨wallet, [], true⟩ else ⟨[], [], false⟩
          ownerType := fun owner => .ok (Identity.x509IdentityType, owner) }
      services :=
        { uniqueID := fun _ => ""
          precision := 64
          deserializeIssueAction := fun _ => .error "no issue"
          deserializeTransferAction := fun raw => .ok (action raw)
          verifyIssue := fun _ _ => .ok ()
          verifyTransfer := fun _ _ => .ok ()
          deobfuscate := fun raw _ => .ok { tok := tokenOf raw, issuer := [], recipients := [raw], format := [] }
          getEIDAndRH := fun _ _ => .ok ([], []) } } }

def transfer (id : TokenID) (owner : Bytes) : Request :=
  { anchor := txID
    actions := { version := 0, actions := [{ type := .transfer, raw := owner }], signatures := [] }
    metadata :=
      { actions := [{
          actionID := 0
          issueMetadata := none
          transferMetadata := some {
            inputs := [some { tokenID := some id, senders := [some { identity := payer, auditInfo := [] }] }]
            outputs := [some { outputMetadata := [1], outputAuditInfo := [], receivers := [some ⟨owner, []⟩] }]
            extraSigners := []
            issuer := { identity := none, auditInfo := [] } } }]
        application := [] } }

def transferTo (owner : Bytes) : Request := transfer spent owner

def environment (now : Int) : Environment :=
  { provider, database := { now, queryFailure := fun _ => none, failure := fun _ => none }, existsFailure := none
    continueFailure := none }

def commit (now : Int) : Event := .appendValid (environment now) txID (.request (transferTo payee)) true

def cached : State := run (start store) [.cacheRequest provider (transferTo payer)]

-- A transfer to the payer themselves is cached, then one to somebody else is committed under the same anchor: the payer's
-- node stores the token that the cached request creates. And a transfer that leaves this node nothing is not known to be
-- stored: committed again, it spends its input once more, at a later time and with a second event.
theorem cached_request_applied_instead :
    (appendValid (environment 1) cached.cache cached.store txID (.request (transferTo payee))).2.toOption.map
        (fun applied => applied.store.tokens.map fun row => (row.record.id.txId, row.record.ownerRaw)) =
          some [([9], payer), ([7], payer)] ∧ (extractActions provider txID (transferTo payee)).toOption.map (operations txID) =
        some [.delete (some spent) txID] ∧ (run (start store) [commit 1]).store.tokens.map TokenRow.spentAt = [some 1] ∧
      (run (start store) [commit 1, commit 2]).store.tokens.map TokenRow.spentAt = [some 2] ∧
      (run (start store) [commit 1]).published.length = 1 ∧ (run (start store) [commit 1, commit 2]).published.length = 2 := by
  decide +kernel

end Payment

end Panurus.Tokens
