import Panurus.Lib.Attempts
import Panurus.Core.Backend

namespace Panurus.Cleanup

open List Lib Outcome Text
open Panurus.Rws (TokenID)

-- The columns of the tokens table that the cleanup reads. Times are in nanoseconds.
structure TokenRow where
  id : TokenID
  ownerIdentity : Bytes
  ownerType : Bytes
  isDeleted : Bool
  spentAt : Option Int
  owner : Bool
deriving DecidableEq, Repr

structure TokenRecord where
  id : TokenID
  ownerIdentity : Bytes
  ownerType : Bytes
  ownerWalletID : Bytes
  owner : Bool
deriving DecidableEq, Repr

structure TokenStore where
  tokens : List TokenRow
  cleanups : List TokenID
deriving DecidableEq, Repr

structure DeletedToken where
  id : TokenID
  ownerIdentity : Bytes
  ownerType : Bytes
  deletedAt : Option Int
deriving DecidableEq, Repr

namespace TokenStore

def storeToken (db : TokenStore) (tr : TokenRecord) (owners : List Bytes) : Outcome TokenStore := do
  ensure (¬ (tr.ownerWalletID = [] ∧ owners = [] ∧ tr.owner)) "no owners specified"
  if tr.id ∈ db.tokens.map TokenRow.id then return db else
    let row :=
      { id := tr.id, ownerIdentity := tr.ownerIdentity, ownerType := tr.ownerType, isDeleted := false, spentAt := none
        owner := tr.owner }
    return { db with tokens := db.tokens ++ [row] }

def deleteTokens (db : TokenStore) (now : Int) (ids : List TokenID) : TokenStore :=
  { db with
    tokens := db.tokens.map fun row => if row.id ∈ ids then { row with isDeleted := true, spentAt := some now } else row }

def limited {α : Type} (limit : Int) (rows : List α) : List α :=
  if limit = 0 ∨ limit = -1 then [] else if limit > 0 then rows.take limit.toNat else rows

def pending (db : TokenStore) (cutoffTime : Int) (row : TokenRow) : Prop :=
  row.isDeleted ∧ row.owner ∧ (∃ spentAt ∈ row.spentAt, spentAt < cutoffTime) ∧ row.id ∉ db.cleanups

instance (db : TokenStore) (cutoffTime : Int) : DecidablePred (db.pending cutoffTime) := fun _ =>
  inferInstanceAs (Decidable (_ ∧ _ ∧ _ ∧ _))

def getDeletedTokensPendingSKICleanup (db : TokenStore) (now olderThan limit : Int) : List DeletedToken :=
  let rows := db.tokens.filter fun row => decide (db.pending (now - olderThan) row)
  let ordered := rows.insertionSort fun row other => row.spentAt.getD 0 ≤ other.spentAt.getD 0
  (limited limit ordered).map fun row =>
    { id := row.id, ownerIdentity := row.ownerIdentity, ownerType := row.ownerType, deletedAt := row.spentAt }

def markTokenCleaned (db : TokenStore) (id : TokenID) : Outcome TokenStore := do
  ensure (id ∉ db.cleanups) s!"failed to insert cleanup record for token [{render id.txId}:{id.index}]"
  return { db with cleanups := db.cleanups ++ [id] }

end TokenStore

abbrev TypedSKIProvider := Bytes → Outcome (List Bytes)

def fallbackSKIProvider (sha256 : Bytes → Bytes) : TypedSKIProvider := fun identity =>
  if identity = [] then .ok [] else .ok [hex (sha256 identity)]

def noopSKIProvider : TypedSKIProvider := fun _ => .ok []

structure SKIExtractor where
  providers : List (Bytes × TypedSKIProvider)
  defaultProvider : TypedSKIProvider

def SKIExtractor.new (sha256 : Bytes → Bytes) : SKIExtractor :=
  { providers := [], defaultProvider := fallbackSKIProvider sha256 }

def SKIExtractor.registerProvider (s : SKIExtractor) (identityType : Bytes) (provider : TypedSKIProvider) : SKIExtractor :=
  { s with providers := (identityType, provider) :: s.providers }

def SKIExtractor.getSKIsFromIdentity (s : SKIExtractor) (identity identityType : Bytes) : Outcome (List Bytes) :=
  if identity = [] then .ok [] else
    ((s.providers.lookup identityType).getD s.defaultProvider) identity

def serviceExtractor (sha256 : Bytes → Bytes) (idemix idemixNym : TypedSKIProvider) : SKIExtractor :=
  ((SKIExtractor.new sha256).registerProvider (ascii "idemix") idemix
    |>.registerProvider (ascii "idemixnym") idemixNym).registerProvider (ascii "x509") noopSKIProvider

structure Config where
  ttl : Int
  batchSize : Int
deriving DecidableEq, Repr

-- What happens to a sweep from outside. The workers take the tokens at these positions of the batch, in this order; a
-- sweep that is cancelled leaves some out.
structure Surroundings where
  acquireLeadership : Outcome Bool
  query : Outcome Unit
  taken : List Nat
  keystore : Outcome Unit
  delete : DeletedToken → Bytes → Outcome Unit
  mark : DeletedToken → Outcome Unit

structure State where
  db : TokenStore
  keys : List Bytes
deriving DecidableEq, Repr

def dropKey (ski : Bytes) (keys : List Bytes) : List Bytes := keys.filter fun key => decide (key ≠ ski)

def deleteKeys (delete : Bytes → Outcome Unit) : List Bytes → List Bytes → List Bytes × List String
  | keys, [] => (keys, [])
  | keys, ski :: skis =>
    match delete ski with
    | .ok () => deleteKeys delete (dropKey ski keys) skis
    | .error reason =>
      let (left, errors) := deleteKeys delete keys skis
      (left, reason :: errors)

def markCleaned (around : Surroundings) (state : State) (token : DeletedToken) : State × Outcome Unit :=
  match (do around.mark token; state.db.markTokenCleaned token.id) with
  | .ok db => ({ state with db }, .ok ())
  | .error reason =>
    (state, .error s!"failed to mark token [{render token.id.txId}:{token.id.index}] as cleaned: {reason}")

def cleanupToken (extractor : SKIExtractor) (around : Surroundings) (state : State) (token : DeletedToken) :
    State × Outcome Unit :=
  let name := s!"[{render token.id.txId}:{token.id.index}]"
  match around.keystore with
  | .error reason => (state, .error s!"failed to get keystore for token {name}: {reason}")
  | .ok () =>
    match extractor.getSKIsFromIdentity token.ownerIdentity token.ownerType with
    | .error reason => (state, .error s!"failed to derive SKIs for token {name}: {reason}")
    | .ok skis =>
      if skis = [] then markCleaned around state token else
        let (keys, deleteErrors) := deleteKeys (around.delete token) state.keys skis
        if deleteErrors = [] then markCleaned around { state with keys } token
        else
          ({ state with keys },
            .error s!"failed to delete {deleteErrors.length} of {skis.length} key(s) for token {name}")

def cleanupTokens (extractor : SKIExtractor) (around : Surroundings) (state : State) (tokens : List DeletedToken) : State :=
  tokens.foldl (fun state token => (cleanupToken extractor around state token).1) state

-- The errors of a sweep are only logged, so what it leaves is the state.
def runSweep (extractor : SKIExtractor) (config : Config) (now : Int) (around : Surroundings) (state : State) : State :=
  match around.acquireLeadership with
  | .ok true =>
    match around.query with
    | .ok () =>
      let tokens := state.db.getDeletedTokensPendingSKICleanup now config.ttl config.batchSize
      cleanupTokens extractor around state (around.taken.filterMap fun position => tokens[position]?)
    | .error _ => state
  | _ => state

open Attempts

inductive Event where
  | storeToken (tr : TokenRecord) (owners : List Bytes)
  | storeKey (ski : Bytes)
  | deleteTokens (now : Int) (ids : List TokenID)
  | sweep (config : Config) (now : Int) (around : Surroundings)

def attempt (extractor : SKIExtractor) (state : State) : Event → Outcome State
  | .storeToken tr owners => do
    let db ← state.db.storeToken tr owners
    return { state with db }
  | .storeKey ski => .ok { state with keys := ski :: state.keys }
  | .deleteTokens now ids => .ok { state with db := state.db.deleteTokens now ids }
  | .sweep config now around => .ok (runSweep extractor config now around state)

def Derives (extractor : SKIExtractor) (identity identityType key : Bytes) : Prop :=
  ∃ skis, extractor.getSKIsFromIdentity identity identityType = .ok skis ∧ key ∈ skis

def Needed (extractor : SKIExtractor) (state : State) (key : Bytes) : Prop :=
  ∃ row ∈ state.db.tokens, row.owner ∧ row.isDeleted = false ∧ Derives extractor row.ownerIdentity row.ownerType key

def batch (state : State) (config : Config) (now : Int) : List DeletedToken :=
  state.db.getDeletedTokensPendingSKICleanup now config.ttl config.batchSize

def Keeps (extractor : SKIExtractor) (state : State) : Event → Prop
  | .sweep config now around =>
    ∀ key ∈ state.keys, Needed extractor state key → key ∈ (runSweep extractor config now around state).keys
  | _ => True

-- No key in the store belongs both to a token the sweep is about to clean and to one that is not spent.
def Isolated (extractor : SKIExtractor) (state : State) : Event → Prop
  | .sweep config now _ =>
    ∀ token ∈ batch state config now, ∀ key ∈ state.keys,
      Derives extractor token.ownerIdentity token.ownerType key → ¬ Needed extractor state key
  | _ => True

def Faultless (state : State) : Event → Prop
  | .sweep config now around =>
    around.acquireLeadership = .ok true ∧ around.query = .ok () ∧ around.keystore = .ok () ∧
      (∀ token ski, around.delete token ski = .ok ()) ∧ ∀ position < (batch state config now).length, position ∈ around.taken
  | _ => True

section Sweeping

variable {extractor : SKIExtractor} {around : Surroundings} {key : Bytes} {keys : List Bytes} {state : State}
  {config : Config} {now : Int} {event : Event}

theorem mem_drop_key {ski : Bytes} : key ∈ dropKey ski keys ↔ key ∈ keys ∧ key ≠ ski := by
  simp [dropKey]

theorem mem_delete_keys {delete : Bytes → Outcome Unit} {skis : List Bytes} :
    key ∈ (deleteKeys delete keys skis).1 ↔ key ∈ keys ∧ ¬ (key ∈ skis ∧ delete key = .ok ()) := by
  induction skis generalizing keys with
  | nil => simp [deleteKeys]
  | cons ski skis ih =>
    rw [deleteKeys]
    cases deleted : delete ski with
    | ok done =>
      rw [ih, mem_drop_key]
      by_cases same : key = ski
      · simp [same, deleted]
      · simp [same]
    | error reason =>
      simp only [ih]
      by_cases same : key = ski
      · simp [same, deleted]
      · simp [same]

theorem mark_cleaned_keys (state : State) (token : DeletedToken) : (markCleaned around state token).1.keys = state.keys := by
  unfold markCleaned
  split <;> rfl

def Deletes (extractor : SKIExtractor) (around : Surroundings) (token : DeletedToken) (key : Bytes) : Prop :=
  around.keystore = .ok () ∧ Derives extractor token.ownerIdentity token.ownerType key ∧ around.delete token key = .ok ()

theorem mem_cleanup_token {state : State} {token : DeletedToken} {key : Bytes} :
    key ∈ (cleanupToken extractor around state token).1.keys ↔ key ∈ state.keys ∧ ¬ Deletes extractor around token key := by
  unfold cleanupToken
  cases opened : around.keystore with
  | error reason => simp [Deletes, opened]
  | ok done =>
    cases derived : extractor.getSKIsFromIdentity token.ownerIdentity token.ownerType with
    | error reason => simp [Deletes, Derives, derived]
    | ok skis =>
      have same : Deletes extractor around token key ↔ key ∈ skis ∧ around.delete token key = .ok () := by
        simp [Deletes, Derives, opened, derived]
      simp only [same]
      split
      · rename_i none
        simp [mark_cleaned_keys, none]
      · split
        · rw [mark_cleaned_keys]
          exact mem_delete_keys
        · exact mem_delete_keys

theorem mem_cleanup_tokens {tokens : List DeletedToken} :
    key ∈ (cleanupTokens extractor around state tokens).keys ↔
      key ∈ state.keys ∧ ∀ token ∈ tokens, ¬ Deletes extractor around token key := by
  induction tokens generalizing state with
  | nil => simp [cleanupTokens]
  | cons token rest ih =>
    have first := @mem_cleanup_token extractor around state token key
    refine ih.trans ?_
    rw [first, forall_mem_cons, and_assoc]

theorem run_sweep_keeps (held : key ∈ state.keys)
    (apart : ∀ token ∈ batch state config now, ¬ Derives extractor token.ownerIdentity token.ownerType key) :
    key ∈ (runSweep extractor config now around state).keys := by
  unfold runSweep
  split
  · split
    · refine mem_cleanup_tokens.mpr ⟨held, ?_⟩
      intro token taken deletes
      obtain ⟨position, _, found⟩ := mem_filterMap.mp taken
      exact apart token (mem_of_getElem? found) deletes.2.1
    · exact held
  · exact held

theorem run_sweep_drops {token : DeletedToken} (faultless : Faultless state (.sweep config now around))
    (cleaned : token ∈ batch state config now) (derives : Derives extractor token.ownerIdentity token.ownerType key) :
    key ∉ (runSweep extractor config now around state).keys := by
  obtain ⟨leader, query, keystore, delete, taken⟩ := faultless
  rw [runSweep, leader]
  simp only [query]
  intro left
  obtain ⟨position, bound, found⟩ := getElem_of_mem cleaned
  refine (mem_cleanup_tokens.mp left).2 token ?_ ⟨keystore, derives, delete token key⟩
  exact mem_filterMap.mpr ⟨position, taken position bound, found ▸ getElem?_eq_getElem bound⟩

theorem isolated_keeps (isolated : Isolated extractor state event) : Keeps extractor state event := by
  cases event with
  | sweep config now around =>
    intro key held needed
    exact run_sweep_keeps held fun token cleaned derives => isolated token cleaned key held derives needed
  | _ => trivial

theorem faultless_isolated (faultless : Faultless state event)
    (keeps : Keeps extractor state event) : Isolated extractor state event := by
  cases event with
  | sweep config now around =>
    intro token cleaned key held derives needed
    exact run_sweep_drops faultless cleaned derives (keeps key held needed)
  | _ => trivial

theorem mem_batch {token : DeletedToken} (cleaned : token ∈ batch state config now) :
    ∃ row ∈ state.db.tokens, row.isDeleted ∧ token.ownerIdentity = row.ownerIdentity ∧ token.ownerType = row.ownerType := by
  obtain ⟨row, taken, rfl⟩ := mem_map.mp cleaned
  have sorted : row ∈ insertionSort (fun row other => row.spentAt.getD 0 ≤ other.spentAt.getD 0)
      (state.db.tokens.filter fun row => decide (state.db.pending (now - config.ttl) row)) := by
    unfold TokenStore.limited at taken
    split at taken
    · cases taken
    · split at taken
      · exact mem_of_mem_take taken
      · exact taken
  obtain ⟨listed, pending⟩ := mem_filter.mp ((mem_insertionSort _).mp sorted)
  exact ⟨row, listed, (of_decide_eq_true pending).1, rfl, rfl⟩

-- No two tokens have owners with a key in common.
def OneTokenPerKey (extractor : SKIExtractor) (state : State) : Prop :=
  ∀ row ∈ state.db.tokens, ∀ other ∈ state.db.tokens, ∀ key, Derives extractor row.ownerIdentity row.ownerType key →
    Derives extractor other.ownerIdentity other.ownerType key → row = other

theorem one_token_per_key_isolated (single : OneTokenPerKey extractor state) (event : Event) : Isolated extractor state event := by
  cases event with
  | sweep config now around =>
    intro token cleaned key _ derives needed
    obtain ⟨row, listed, deleted, identity, type⟩ := mem_batch cleaned
    obtain ⟨other, present, _, unspent, needs⟩ := needed
    rw [identity, type] at derives
    rw [single row listed other present key derives needs, unspent] at deleted
    cases deleted
  | _ => trivial

end Sweeping

theorem needed_keys_kept_iff (extractor : SKIExtractor) (start : State) (events : List Event) :
    (Along (attempt extractor) (Isolated extractor) start events → Along (attempt extractor) (Keeps extractor) start events) ∧
    (Along (attempt extractor) Faultless start events →
      (Along (attempt extractor) (Keeps extractor) start events ↔ Along (attempt extractor) (Isolated extractor) start events)) := by
  have enough : Along (attempt extractor) (Isolated extractor) start events → Along (attempt extractor) (Keeps extractor) start events :=
    along_mono fun _ _ => isolated_keeps
  refine ⟨enough, fun faultless => ⟨fun keeps => ?_, enough⟩⟩
  have both := (along_and start events).mpr ⟨faultless, keeps⟩
  exact along_mono (fun _ _ both => faultless_isolated both.1 both.2) both

namespace SharedOwner

def extractor : SKIExtractor :=
  serviceExtractor FixedWidth.checksum32 (fun identity => .ok [identity]) (fun _ => .ok [])

def received (index : UInt64) (owner : Bytes) : Event :=
  .storeToken
    { id := ⟨[1], index⟩, ownerIdentity := owner, ownerType := ascii "idemix", ownerWalletID := [3], owner := true } []

def around : Surroundings :=
  { acquireLeadership := .ok true
    query := .ok ()
    taken := [0]
    keystore := .ok ()
    delete := fun _ _ => .ok ()
    mark := fun _ => .ok () }

def empty : State := { db := { tokens := [], cleanups := [] }, keys := [] }

-- The first of two tokens is spent.
def events (second : Bytes) : List Event :=
  [.storeKey [7], .storeKey [8], received 0 [7], received 1 second, .deleteTokens 0 [⟨[1], 0⟩]]

def sweep : Event := .sweep { ttl := 10, batchSize := 100 } 100 around

def left (second : Bytes) : State := run (attempt extractor) empty (events second)

-- Two tokens of one owner: the first is spent, and the key of the second goes with it.
theorem key_of_unspent_deleted : [7] ∈ (left [7]).keys ∧ Needed extractor (left [7]) [7] ∧
    [7] ∉ (run (attempt extractor) empty (events [7] ++ [sweep])).keys := by
  let kept : TokenRow :=
    { id := ⟨[1], 1⟩, ownerIdentity := [7], ownerType := ascii "idemix", isDeleted := false, spentAt := none, owner := true }
  have there : kept ∈ (left [7]).db.tokens := by decide
  exact ⟨by decide, ⟨kept, there, rfl, rfl, [[7]], rfl, by decide⟩, by decide⟩

-- The second token has another owner: the sweep finds it isolated, and its key stays.
theorem key_of_other_owner_kept : (run (attempt extractor) empty (events [8] ++ [sweep])).keys = [[8]] ∧
    Along (attempt extractor) (Keeps extractor) empty (events [8] ++ [sweep]) := by
  have derived : ∀ row ∈ (left [8]).db.tokens,
      extractor.getSKIsFromIdentity row.ownerIdentity row.ownerType = .ok [row.ownerIdentity] := by decide
  have apart : ∀ row ∈ (left [8]).db.tokens, ∀ other ∈ (left [8]).db.tokens, row.ownerIdentity = other.ownerIdentity →
      row = other := by decide
  have single : OneTokenPerKey extractor (left [8]) := by
    rintro row listed other present key ⟨skis, got, mem⟩ ⟨skis', got', mem'⟩
    cases (derived row listed).symm.trans got
    cases (derived other present).symm.trans got'
    exact apart row listed other present ((mem_singleton.mp mem).symm.trans (mem_singleton.mp mem'))
  refine ⟨by decide, (needed_keys_kept_iff extractor empty (events [8] ++ [sweep])).1 ?_⟩
  exact ⟨trivial, trivial, trivial, trivial, trivial, one_token_per_key_isolated single sweep, trivial⟩

end SharedOwner

end Panurus.Cleanup
