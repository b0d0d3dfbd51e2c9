import Panurus.Tokens.Commit

namespace Panurus.Tokens

open List Lib Outcome Client
open Panurus.Rws (TokenID)

structure Commit where
  env : Environment
  txID : Bytes
  request : Request

namespace Commit

def event (c : Commit) : Event := .appendValid c.env c.txID (.request c.request) true

-- What AppendValid takes, which is what is cached under the transaction where something is.
def actions (cache : RequestsCache) (c : Commit) : Actions :=
  (getActions c.env.provider cache c.txID c.request).toOption.getD { toSpend := [], toAppend := [] }

def creates (cache : RequestsCache) (c : Commit) : List TokenID := (c.actions cache).toAppend.map TokenToAppend.id

def spends (cache : RequestsCache) (c : Commit) : List TokenID := (c.actions cache).toSpend.reduceOption

-- The step of a call that succeeds.
def process (s : State) (c : Commit) : Outcome State :=
  (appendValid c.env s.cache s.store c.txID (.request c.request)).2.map fun _ => step s c.event

end Commit

open Commit

-- Every call of the run succeeds.
def Processed (s : State) (commits : List Commit) : Prop := (commits.foldlM process s).isOk = true

instance (s : State) (commits : List Commit) : Decidable (Processed s commits) := inferInstanceAs (Decidable (_ = true))

-- No transaction is processed before one that creates a token it spends.
def CreatedFirst (cache : RequestsCache) (commits : List Commit) : Prop :=
  commits.Pairwise fun c later => ∀ id ∈ c.spends cache, id ∉ later.creates cache

open TokenStore

section Runs

variable {cache : RequestsCache} {s next : State} {c later : Commit} {history : List Event}

-- The transaction is new to the store, and what the cache has under it is what it had at the start.
structure Ready (cache : RequestsCache) (s : State) (c : Commit) : Prop where
  new : s.store.transactionExists c.txID = false
  cached : s.cache c.txID = cache c.txID

theorem settled_processed (ready : Ready cache s c) (processed : c.process s = .ok next) :
    Settled s.store next.store (c.creates cache) (c.spends cache) := by
  obtain ⟨applied, called, rfl⟩ := map_ok_iff.mp processed
  have committed : (step s c.event).store = applied.store := by simp [step, event, called]
  cases append_valid_ok called with
  | inl skip =>
    have known := skip.2 _ rfl
    rw [ready.new] at known
    cases known
  | inr done =>
    obtain ⟨request, actions, same, _, got, done⟩ := done
    cases same
    have known : c.actions cache = actions := by
      unfold getActions at got
      rw [ready.cached] at got
      simp [Commit.actions, getActions, got, Except.toOption]
    rw [creates, spends, known, committed]
    exact settled_applied done

theorem creates_tx (traced : Traced history cache) (c : Commit) : ∀ id ∈ c.creates cache, id.txId = c.txID := by
  intro id mem
  obtain ⟨tta, listed, rfl⟩ := mem_map.mp mem
  cases got : getActions c.env.provider cache c.txID c.request with
  | error reason => simp [Commit.actions, got, Except.toOption] at listed
  | ok actions =>
    simp only [Commit.actions, got, Except.toOption, Option.getD_some] at listed
    exact get_actions_tx traced got tta listed

theorem exists_iff {db : TokenStore} {txID : Bytes} :
    db.transactionExists txID = false ↔ txID = [] ∨ ∀ id ∈ db.ids, id.txId ≠ txID := by
  simp [transactionExists, imp_iff_not_or]

theorem ready_kept (traced : Traced history cache) (distinct : c.txID ≠ later.txID) (ready : Ready cache s c)
    (laterReady : Ready cache s later) (processed : c.process s = .ok next) : Ready cache next later := by
  have settled := settled_processed ready processed
  obtain ⟨_, _, rfl⟩ := map_ok_iff.mp processed
  constructor
  · rw [exists_iff]
    apply (exists_iff.mp laterReady.new).imp_right
    intro absent id mem
    cases (settled.ids id).mp mem with
    | inl old => exact absent id old
    | inr created =>
      rw [creates_tx traced c id created]
      exact distinct
  · rw [event, step_append_valid_cache]
    cases append_valid_cache c.env s.cache s.store c.txID (.request c.request) with
    | inl same =>
      rw [same]
      exact laterReady.cached
    | inr removed =>
      rw [removed, RequestsCache.remove, if_neg (Ne.symm distinct)]
      exact laterReady.cached

theorem processed_run {commits : List Commit} {last : State} (processed : commits.foldlM process s = .ok last) :
    last = run s (commits.map event) := by
  induction commits generalizing s with
  | nil =>
    cases processed
    rfl
  | cons c rest ih =>
    obtain ⟨next, first, processed⟩ := bind_ok_iff.mp processed
    obtain ⟨_, _, rfl⟩ := map_ok_iff.mp first
    exact ih processed

theorem settled_process_all {commits : List Commit} (traced : Traced history s.cache)
    (distinct : commits.Pairwise fun c d => c.txID ≠ d.txID) (new : ∀ c ∈ commits, s.store.transactionExists c.txID = false)
    (inOrder : CreatedFirst s.cache commits) (processed : Processed s commits) :
    Settled s.store (run s (commits.map event)).store (commits.flatMap (creates s.cache)) (commits.flatMap (spends s.cache)) := by
  obtain ⟨last, processed⟩ := is_ok_exists processed
  rw [← processed_run processed]
  exact settled_all (v := State.store) (P := Ready s.cache) settled_processed
    (fun related => ready_kept traced related.1) (fun related => related.2) (distinct.and inOrder)
    (fun c mem => ⟨new c mem, rfl⟩) processed

end Runs

-- AppendValid leaves the same tokens unspent and the same spent after any two orders in which tokens are created before
-- they are spent, whatever is cached when the first of the transactions is processed.
theorem spent_and_unspent_any_order {store : TokenStore} {history : List Event} {s : State} {commits others : List Commit}
    (reached : run (start store) history = s) (same : commits.Perm others)
    (distinct : commits.Pairwise fun c d => c.txID ≠ d.txID) (new : ∀ c ∈ commits, s.store.transactionExists c.txID = false)
    (inOrder : CreatedFirst s.cache commits) (otherInOrder : CreatedFirst s.cache others) (processed : Processed s commits)
    (otherProcessed : Processed s others) :
    let last := (run s (commits.map event)).store
    let other := (run s (others.map event)).store
    (∀ id, last.Unspent id ↔ other.Unspent id) ∧ ∀ id, last.Spent id ↔ other.Spent id := by
  intro last other
  have traced : Traced history s.cache := reached ▸ traced_run store history
  have settled := settled_process_all traced distinct new inOrder processed
  have otherSettled := settled_process_all traced (distinct.perm same fun differ => differ.symm)
    (fun c mem => new c (same.mem_iff.mpr mem)) otherInOrder otherProcessed
  have created : ∀ id, id ∈ commits.flatMap (creates s.cache) ↔ id ∈ others.flatMap (creates s.cache) :=
    fun id => (same.flatMap_right _).mem_iff
  have spent : ∀ id, id ∈ commits.flatMap (spends s.cache) ↔ id ∈ others.flatMap (spends s.cache) :=
    fun id => (same.flatMap_right _).mem_iff
  constructor
  · intro id
    rw [settled.unspent, otherSettled.unspent, created, spent]
  · intro id
    rw [settled.spent, otherSettled.spent, created, spent]

namespace Payment

def spending (id : TokenID) : Request := transfer id payer

def first : TokenID := { txId := [8], index := 0 }

def creating : Commit := { env := environment 1, txID := spent.txId, request := spending first }

def spendingIt : Commit := { env := environment 2, txID, request := spending spent }

def unrelated : Commit := { env := environment 3, txID := [6], request := spending { first with index := 1 } }

def funded : TokenStore := { tokens := [{ row with record := { row.record with id := first } }], ownership := [] }

-- What is cached under [6] is not the request that is processed under it: it spends another token.
def caching : List Event := [.cacheRequest provider { spending { first with index := 2 } with anchor := [6] }]

def prepared : State := run (start funded) caching

def after (commits : List Commit) : TokenStore := (run prepared (commits.map event)).store

def marks (store : TokenStore) : List (Bytes × Bool) := store.tokens.map fun row => (row.record.id.txId, row.isDeleted)

-- The token is spent before it is created: the mark finds no row, and the row comes unspent.
theorem spent_before_created :
    creating.spends prepared.cache = [first] ∧ creating.creates prepared.cache = [spent] ∧
      spendingIt.spends prepared.cache = [spent] ∧ Processed prepared [creating, spendingIt] ∧
      Processed prepared [spendingIt, creating] ∧
      marks (after [creating, spendingIt]) = [([8], true), ([9], true), ([7], false)] ∧
      marks (after [spendingIt, creating]) = [([8], true), ([7], false), ([9], false)] := by
  decide +kernel

theorem unrelated_first :
    unrelated.spends prepared.cache = [{ first with index := 2 }] ∧
      [creating, spendingIt, unrelated].Perm [unrelated, creating, spendingIt] ∧
      marks (after [unrelated, creating, spendingIt]) = [([8], true), ([6], false), ([9], true), ([7], false)] ∧
      (∀ id, (after [creating, spendingIt, unrelated]).Unspent id ↔ (after [unrelated, creating, spendingIt]).Unspent id) ∧
      ∀ id, (after [creating, spendingIt, unrelated]).Spent id ↔ (after [unrelated, creating, spendingIt]).Spent id := by
  have same : [creating, spendingIt, unrelated].Perm [unrelated, creating, spendingIt] :=
    @List.perm_append_comm _ [creating, spendingIt] [unrelated]
  have inOrder : CreatedFirst prepared.cache [creating, spendingIt, unrelated] := by
    unfold CreatedFirst
    decide +kernel
  have otherInOrder : CreatedFirst prepared.cache [unrelated, creating, spendingIt] := by
    unfold CreatedFirst
    decide +kernel
  have new : ∀ c ∈ [creating, spendingIt, unrelated], prepared.store.transactionExists c.txID = false := by decide +kernel
  refine ⟨by decide +kernel, same, by decide +kernel, ?_⟩
  apply spent_and_unspent_any_order (show run (start funded) caching = prepared from rfl) same (by decide +kernel) new inOrder
    otherInOrder
  · decide +kernel
  · decide +kernel

end Payment

end Panurus.Tokens
