import Mathlib.Data.List.SplitBy
import Panurus.Sherdlock.Selection

namespace Panurus.Sherdlock

open List Lib Codec Text
open Panurus.Rws (TokenID)

structure UnspentTokenInWallet where
  id : TokenID
  walletID : Bytes
  type : Bytes
  quantity : Bytes
deriving DecidableEq, Repr

def tokenKey (walletID typ : Bytes) : Bytes := walletID ++ ascii "." ++ typ

def UnspentTokenInWallet.key (t : UnspentTokenInWallet) : Bytes := tokenKey t.walletID t.type

-- What a call of the store iterator's Next returns; io.EOF may be wrapped.
inductive Next where
  | token (t : UnspentTokenInWallet)
  | done
  | eof
  | failed (cause : String)
deriving DecidableEq, Repr

def Next.fault : Next → Option String
  | .failed cause => some cause
  | _ => none

def Next.token? : Next → Option UnspentTokenInWallet
  | .token t => some t
  | _ => none

structure Groups where
  keys : List Bytes
  tokens : Bytes → List UnspentTokenInWallet

def Groups.add (m : Groups) (t : UnspentTokenInWallet) : Groups :=
  { keys := if t.key ∈ m.keys then m.keys else m.keys ++ [t.key]
    tokens := Function.update m.tokens t.key (m.tokens t.key ++ [t]) }

def Groups.of (tokens : List UnspentTokenInWallet) : Groups :=
  tokens.foldl Groups.add { keys := [], tokens := fun _ => [] }

open Groups

-- The loop over the iterator: the tokens, the result that ended it, and what the iterator would return next. An
-- iterator that has nothing left stays at its end.
def readTokens : List Next → List UnspentTokenInWallet × Next × List Next
  | .token t :: rest =>
    let (tokens, last, after) := readTokens rest
    (t :: tokens, last, after)
  | last :: after => ([], last, after)
  | [] => ([], .done, [])

-- The error that is looked at is that of one more call.
def groupTokensByKey (results : List Next) : Outcome Groups :=
  let (tokens, _, after) := readTokens results
  match (after.headD .done).fault with
  | some cause => .error cause
  | none => .ok (of tokens)

-- An entry is a list of tokens; the cache keeps what it is given.
structure CachedFetcher where
  cache : Bytes → Option (List UnspentTokenInWallet)
  prevKeys : List Bytes
  lastFetched : Int
  invalidations : Nat
  queriesResponded : Nat
  isUpdating : Bool
  freshnessInterval : Int
  maxQueriesBeforeRefresh : Nat

namespace CachedFetcher

def isCacheOverused (f : CachedFetcher) : Prop := f.queriesResponded ≥ f.maxQueriesBeforeRefresh

def isCacheStale (f : CachedFetcher) (now : Int) : Prop := f.lastFetched = 0 ∨ now - f.lastFetched > f.freshnessInterval

instance (f : CachedFetcher) : Decidable f.isCacheOverused := inferInstanceAs (Decidable (_ ≥ _))

instance (f : CachedFetcher) (now : Int) : Decidable (f.isCacheStale now) := inferInstanceAs (Decidable (_ ∨ _))

def updateCache (f : CachedFetcher) (m : Groups) : CachedFetcher :=
  { f with
    cache := fun key =>
      if key ∈ m.keys then some (m.tokens key) else if key ∈ f.prevKeys then none else f.cache key
    prevKeys := m.keys }

-- What an update installs that has read the store, in the state it finds when it has the lock again.
def installs (f : CachedFetcher) (invalidationsAtStart : Nat) (now : Int) (read : Outcome (List Next)) : Option Groups :=
  match read >>= groupTokensByKey with
  | .error _ => none
  | .ok m => if f.invalidations = invalidationsAtStart ∧ ¬ f.isCacheStale now ∧ ¬ f.isCacheOverused then none else some m

-- A snapshot that was overtaken by an invalidation is installed but not stamped fresh.
def finishUpdate (f : CachedFetcher) (invalidationsAtStart : Nat) (now stamp : Int) (read : Outcome (List Next)) :
    CachedFetcher :=
  match f.installs invalidationsAtStart now read with
  | none => { f with isUpdating := false }
  | some m =>
    { f.updateCache m with
      lastFetched := if f.invalidations = invalidationsAtStart then stamp else 0
      queriesResponded := 0
      isUpdating := false }

end CachedFetcher

-- A run of equal quantities is shuffled by itself. Comparing neighbours gives the same runs as comparing with the first.
def newPermutation (shuffle : List UnspentTokenInWallet → List UnspentTokenInWallet) (items : List UnspentTokenInWallet) :
    List UnspentTokenInWallet :=
  (items.splitBy fun t next => next.quantity == t.quantity).flatMap shuffle

def CachedFetcher.candidates (f : CachedFetcher) (shuffle : List UnspentTokenInWallet → List UnspentTokenInWallet)
    (walletID typ : Bytes) : List UnspentTokenInWallet :=
  match f.cache (tokenKey walletID typ) with
  | some items => newPermutation shuffle items
  | none => []

open UnspentTokenInWallet

section

variable (m : Groups) (tokens : List UnspentTokenInWallet) (key : Bytes)

theorem groups_add_tokens : (tokens.foldl add m).tokens key = m.tokens key ++ tokens.filter fun t => t.key = key := by
  induction tokens generalizing m with
  | nil => simp
  | cons t rest ih =>
    rw [foldl_cons, ih, add]
    by_cases same : t.key = key
    · subst same
      simp
    · simp [Function.update_of_ne (Ne.symm same), same]

theorem groups_of_tokens (tokens : List UnspentTokenInWallet) (key : Bytes) :
    (of tokens).tokens key = tokens.filter fun t => t.key = key := by
  rw [of, groups_add_tokens, nil_append]

theorem groups_add_keys : key ∈ (tokens.foldl add m).keys ↔ key ∈ m.keys ∨ key ∈ tokens.map UnspentTokenInWallet.key := by
  induction tokens generalizing m with
  | nil => simp
  | cons t rest ih =>
    have added : key ∈ (m.add t).keys ↔ key ∈ m.keys ∨ key = t.key := by
      unfold add
      split <;> grind
    rw [foldl_cons, ih, added, map_cons, mem_cons, or_assoc]

end

theorem groups_of_keys (tokens : List UnspentTokenInWallet) (key : Bytes) :
    key ∈ (of tokens).keys ↔ (tokens.filter fun t => t.key = key) ≠ [] := by
  rw [of, groups_add_keys]
  simp

namespace CachedFetcher

variable {f : CachedFetcher}

def Tracked (f : CachedFetcher) : Prop := ∀ key, f.cache key ≠ none → key ∈ f.prevKeys

theorem tracked_update (tracked : f.Tracked) (m : Groups) : (f.updateCache m).Tracked := by
  intro key present
  by_contra missing
  simp only [updateCache] at present missing
  rw [if_neg missing] at present
  split at present
  · exact present rfl
  · rename_i untracked
    exact untracked (tracked key present)

theorem tracked_run (tracked : f.Tracked) (history : List Groups) : (history.foldl updateCache f).Tracked := by
  induction history generalizing f with
  | nil => exact tracked
  | cons m rest ih => exact ih (tracked_update tracked m)

theorem candidates_of_snapshot (tracked : f.Tracked) (snapshot : List UnspentTokenInWallet)
    (shuffle : List UnspentTokenInWallet → List UnspentTokenInWallet) (walletID typ : Bytes) :
    (f.updateCache (of snapshot)).candidates shuffle walletID typ =
      newPermutation shuffle (snapshot.filter fun t => t.key = tokenKey walletID typ) := by
  have keyed := groups_of_keys snapshot (tokenKey walletID typ)
  by_cases present : tokenKey walletID typ ∈ (of snapshot).keys
  · simp [candidates, updateCache, if_pos present, groups_of_tokens]
  · have nothing := not_not.mp fun some => present (keyed.mpr some)
    have missing : (f.updateCache (of snapshot)).cache (tokenKey walletID typ) = none :=
      not_not.mp fun left => present (tracked_update tracked _ _ left)
    simp only [candidates, missing, nothing]
    rfl

end CachedFetcher

section Permutation

variable {shuffle : List UnspentTokenInWallet → List UnspentTokenInWallet} (shuffles : ∀ items, (shuffle items).Perm items)
include shuffles

theorem new_permutation_perm (items : List UnspentTokenInWallet) : (newPermutation shuffle items).Perm items := by
  have runs := flatten_splitBy (fun t next : UnspentTokenInWallet => next.quantity == t.quantity) items
  nth_rewrite 2 [← runs]
  rw [← flatMap_id]
  exact List.Perm.flatMap_left _ fun run _ => shuffles run

theorem shuffle_run {run : List UnspentTokenInWallet} (quantity : Bytes) (equal : ∀ t ∈ run, t.quantity = quantity) :
    (shuffle run).map UnspentTokenInWallet.quantity = run.map UnspentTokenInWallet.quantity := by
  have constant : ∀ items : List UnspentTokenInWallet, (∀ t ∈ items, t.quantity = quantity) →
      items.map UnspentTokenInWallet.quantity = replicate items.length quantity := by
    intro items same
    exact eq_replicate_iff.mpr ⟨length_map .., by simpa using same⟩
  rw [constant run equal, constant (shuffle run) fun t mem => equal t ((shuffles run).mem_iff.mp mem), (shuffles run).length_eq]

theorem new_permutation_quantities (items : List UnspentTokenInWallet) :
    (newPermutation shuffle items).map UnspentTokenInWallet.quantity = items.map UnspentTokenInWallet.quantity := by
  have runs := flatten_splitBy (fun t next : UnspentTokenInWallet => next.quantity == t.quantity) items
  nth_rewrite 2 [← runs]
  rw [newPermutation, map_flatMap, map_flatten]
  refine flatMap_congr fun run mem => ?_
  cases run with
  | nil => exact congrArg _ ((shuffles []).eq_nil)
  | cons t rest =>
    have chain := (isChain_of_mem_splitBy mem).imp fun _ _ same => eq_of_beq same
    refine shuffle_run shuffles t.quantity fun other inside => ?_
    rcases mem_cons.mp inside with rfl | later
    · rfl
    · exact (pairwise_cons.mp (isChain_iff_pairwise.mp chain)).1 other later

end Permutation

def CachedFetcher.new (freshnessInterval : Int) (maxQueriesBeforeRefresh : Int) : CachedFetcher :=
  { cache := fun _ => none
    prevKeys := []
    lastFetched := 0
    invalidations := 0
    queriesResponded := 0
    isUpdating := false
    freshnessInterval := if freshnessInterval ≤ 0 then 1000000000 else freshnessInterval
    maxQueriesBeforeRefresh := if maxQueriesBeforeRefresh ≤ 0 then 5 else maxQueriesBeforeRefresh.toNat % 2 ^ 32 }

open CachedFetcher

-- The amount is the number a quantity is the text of.
theorem cached_candidates_exact_iff (amount : Bytes → Nat) (freshnessInterval maxQueriesBeforeRefresh : Int)
    (history : List (List UnspentTokenInWallet)) (snapshot : List UnspentTokenInWallet)
    (ascending : snapshot.Pairwise fun t next => amount t.quantity ≤ amount next.quantity) (walletID typ : Bytes) :
    (∀ shuffle : List UnspentTokenInWallet → List UnspentTokenInWallet, (∀ items, (shuffle items).Perm items) →
        let candidates := (((history.map of).foldl updateCache
          (.new freshnessInterval maxQueriesBeforeRefresh)).updateCache (of snapshot)).candidates shuffle walletID typ
        candidates.Perm (snapshot.filter fun t => t.walletID = walletID ∧ t.type = typ) ∧
          candidates.Pairwise fun t next => amount t.quantity ≤ amount next.quantity) ↔
      ∀ t ∈ snapshot, t.key = tokenKey walletID typ → t.walletID = walletID ∧ t.type = typ := by
  have tracked : (new freshnessInterval maxQueriesBeforeRefresh).Tracked := fun key present => absurd rfl present
  simp only [candidates_of_snapshot (tracked_run tracked _)]
  constructor
  · intro exactly t mem same
    have listed := (exactly id fun items => .refl items).1
    have here := (listed.symm.trans (new_permutation_perm (fun items => .refl items) _)).mem_iff (a := t)
    simpa [mem, same] using here
  · intro apart shuffle shuffles
    have same : (snapshot.filter fun t => t.key = tokenKey walletID typ) =
        snapshot.filter fun t => t.walletID = walletID ∧ t.type = typ := by
      refine filter_congr fun t mem => ?_
      rw [decide_eq_decide]
      exact ⟨apart t mem, fun ⟨wallet, type⟩ => by rw [key, wallet, type]⟩
    refine ⟨same ▸ new_permutation_perm shuffles _, ?_⟩
    rw [← pairwise_map (f := quantity) (R := fun q next => amount q ≤ amount next),
      new_permutation_quantities shuffles, pairwise_map]
    exact ascending.filter _

-- A pair that shares no key with another: its wallet ids, or its types, have no dot.
theorem undotted_apart {snapshot : List UnspentTokenInWallet} {walletID typ : Bytes}
    (undotted : (0x2e ∉ walletID ∧ ∀ t ∈ snapshot, 0x2e ∉ t.walletID) ∨ (0x2e ∉ typ ∧ ∀ t ∈ snapshot, 0x2e ∉ t.type)) :
    ∀ t ∈ snapshot, t.key = tokenKey walletID typ → t.walletID = walletID ∧ t.type = typ := by
  intro t mem same
  rcases undotted with ⟨asked, listed⟩ | ⟨asked, listed⟩
  · exact prefix_free_terminated 0x2e t.walletID (listed t mem) walletID asked t.type typ same
  · have turned : (t.type.reverse ++ [0x2e]) ++ t.walletID.reverse = (typ.reverse ++ [0x2e]) ++ walletID.reverse := by
      simpa [key, tokenKey, ascii] using congrArg reverse same
    obtain ⟨types, wallets⟩ := prefix_free_terminated 0x2e t.type.reverse (by simpa using listed t mem) typ.reverse
      (by simpa using asked) _ _ turned
    exact ⟨reverse_inj.mp wallets, reverse_inj.mp types⟩

namespace SharedKey

def coin (walletID typ : String) : UnspentTokenInWallet :=
  { id := { txId := ascii walletID, index := 0 }, walletID := ascii walletID, type := ascii typ, quantity := ascii "0x1" }

def snapshot : List UnspentTokenInWallet := [coin "a.b" "c", coin "a" "b.c"]

def fetched (snapshot : List UnspentTokenInWallet) : List UnspentTokenInWallet :=
  ((new 0 0).updateCache (of snapshot)).candidates id (ascii "a") (ascii "b.c")

theorem foreign_token_returned :
    ¬ (fetched snapshot).Perm (snapshot.filter fun t => t.walletID = ascii "a" ∧ t.type = ascii "b.c") := by
  intro same
  have length := same.length_eq
  revert length
  decide +kernel

def amount (quantity : Bytes) : Nat := decimalFrom 0 (quantity.drop 2)

-- Four coins of two wallets and two types, cheapest first.
def purse : List UnspentTokenInWallet :=
  [coin "a" "USD", coin "b" "USD", { coin "a" "EUR" with quantity := ascii "0x3" },
    { coin "a" "USD" with id := { txId := ascii "later", index := 1 }, quantity := ascii "0x7" }]

theorem own_tokens_returned :
    let candidates := ((new 0 0).updateCache (of purse)).candidates reverse (ascii "a") (ascii "USD")
    candidates.map quantity = [ascii "0x1", ascii "0x7"] ∧
      candidates.Perm (purse.filter fun t => t.walletID = ascii "a" ∧ t.type = ascii "USD") ∧
      candidates.Pairwise fun t next => amount t.quantity ≤ amount next.quantity := by
  refine ⟨by decide +kernel, ?_⟩
  exact (cached_candidates_exact_iff amount 0 0 [] purse (by decide +kernel) (ascii "a") (ascii "USD")).mpr (by decide +kernel)
    reverse reverse_perm

end SharedKey

open Next

section Truncation

variable (f : CachedFetcher) (invalidationsAtStart : Nat) (now stamp : Int) (results : List Next)

def calls (results : List Next) : List Next :=
  let (tokens, last, after) := readTokens results
  tokens.map token ++ [last, after.headD .done]

-- What is installed is all that an iterator has returned that came to its end, and a failed call changes nothing.
def CachedFetcher.NoTruncation : Prop :=
  (∀ m, f.installs invalidationsAtStart now (.ok results) = some m →
    (∃ before stop after, calls results = before ++ stop :: after ∧ (stop = .done ∨ stop = .eof) ∧
      ∀ result ∈ before, result.fault = none) ∧
    ∀ key, m.tokens key = ((calls results).filterMap token?).filter fun t => t.key = key) ∧
  ((∃ result ∈ calls results, result.fault ≠ none) →
    let done := f.finishUpdate invalidationsAtStart now stamp (.ok results)
    done.cache = f.cache ∧ done.lastFetched = f.lastFetched)

-- The error that ends the loop is seen again by the call after it, and no token comes after the end.
def SeenAgain (results : List Next) : Prop :=
  let (_, last, after) := readTokens results
  if last.fault = none then (after.headD .done).token? = none else (after.headD .done).fault ≠ none

theorem read_tokens_last (results : List Next) : (readTokens results).2.1.token? = none := by
  induction results with
  | nil => rfl
  | cons result rest ih => cases result <;> first | exact ih | rfl

theorem installs_ok (needed : ¬ (f.invalidations = invalidationsAtStart ∧ ¬ f.isCacheStale now ∧ ¬ f.isCacheOverused)) :
    f.installs invalidationsAtStart now (.ok results) =
      if ((readTokens results).2.2.headD .done).fault = none then some (of (readTokens results).1) else none := by
  have bound : (Except.ok results >>= groupTokensByKey) = groupTokensByKey results := rfl
  cases seen : ((readTokens results).2.2.headD .done).fault with
  | none => simp only [installs, bound, groupTokensByKey, seen, if_neg needed, if_true]
  | some cause => simp only [installs, bound, groupTokensByKey, seen, reduceCtorEq, if_false]

-- The end of the iterator comes after its tokens; a failure before it is seen.
theorem ended_iff (tokens : List UnspentTokenInWallet) {last following : Next} (ended : last.token? = none) :
    (∃ before stop after, tokens.map token ++ [last, following] = before ++ stop :: after ∧
        (stop = .done ∨ stop = .eof) ∧ ∀ result ∈ before, result.fault = none) ↔ last.fault = none := by
  induction tokens with
  | nil =>
    constructor
    · rintro ⟨before, stop, after, same, stopped, clean⟩
      cases before with
      | nil =>
        obtain ⟨rfl, -⟩ := cons.inj same
        rcases stopped with rfl | rfl <;> rfl
      | cons first rest =>
        obtain ⟨rfl, -⟩ := cons.inj same
        exact clean _ mem_cons_self
    · intro clean
      refine ⟨[], last, [following], rfl, ?_, by simp⟩
      cases last <;> simp_all [token?, fault]
  | cons t rest ih =>
    rw [← ih]
    constructor
    · rintro ⟨before, stop, after, same, stopped, clean⟩
      cases before with
      | nil =>
        obtain ⟨rfl, -⟩ := cons.inj same
        rcases stopped with stopped | stopped <;> cases stopped
      | cons first more =>
        obtain ⟨rfl, tail⟩ := cons.inj same
        exact ⟨more, stop, after, tail, stopped, fun result mem => clean result (mem_cons_of_mem _ mem)⟩
    · rintro ⟨before, stop, after, same, stopped, clean⟩
      refine ⟨.token t :: before, stop, after, congrArg (token t :: ·) same, stopped, fun result mem => ?_⟩
      rcases mem_cons.mp mem with rfl | inside
      · rfl
      · exact clean result inside

-- An update that finds the cache renewed installs nothing; any other keeps to the whole snapshot exactly when the error
-- that ended the loop is seen again.
theorem no_truncated_snapshot_iff :
    f.NoTruncation invalidationsAtStart now stamp results ↔
      (f.invalidations = invalidationsAtStart ∧ ¬ f.isCacheStale now ∧ ¬ f.isCacheOverused) ∨ SeenAgain results := by
  by_cases needed : f.invalidations = invalidationsAtStart ∧ ¬ f.isCacheStale now ∧ ¬ f.isCacheOverused
  · have skipped : f.installs invalidationsAtStart now (.ok results) = none := by
      simp only [installs]
      split
      · rfl
      · exact if_pos needed
    simp [NoTruncation, finishUpdate, skipped, needed]
  rw [or_iff_right needed]
  have ended := read_tokens_last results
  simp only [NoTruncation, finishUpdate, installs_ok f invalidationsAtStart now results needed, calls, SeenAgain]
  generalize (readTokens results).1 = tokens at *
  generalize (readTokens results).2.1 = last at *
  generalize (readTokens results).2.2.headD .done = following
  have listed : (tokens.map token ++ [last, following]).filterMap token? = tokens ++ following.token?.toList := by
    rw [filterMap_append, filterMap_map, show token? ∘ token = some from rfl]
    cases read : following.token? <;> simp [ended, read]
  rw [ended_iff tokens ended, listed]
  by_cases seen : following.fault = none
  · simp only [if_pos seen, Option.some.injEq, forall_eq', groups_of_tokens]
    cases fault : last.fault with
    | some cause => simp [seen]
    | none =>
      have clean : ¬ ∃ result ∈ tokens.map token ++ [last, following], result.fault ≠ none := by
        rintro ⟨result, mem, bad⟩
        rcases mem_append.mp mem with token | other
        · obtain ⟨t, -, rfl⟩ := mem_map.mp token
          exact bad rfl
        · rcases mem_pair.mp other with rfl | rfl
          · exact bad fault
          · exact bad seen
      simp only [clean, false_implies, and_true, true_and, if_true]
      constructor
      · intro same
        cases read : following.token? with
        | none => rfl
        | some t => simpa [read] using same t.key
      · intro nothing key
        rw [nothing, Option.toList_none, append_nil]
  · have unread : following.token? = none := by cases following <;> simp_all [token?, fault]
    simp [seen, unread]

end Truncation

namespace BrokenRead

def coin : UnspentTokenInWallet := SharedKey.coin "a" "USD"

-- The connection breaks after one token; the call after that reports an end.
def results : List Next := [.token coin, .failed "connection reset", .done]

theorem truncated_snapshot_installed : ¬ (new 0 0).NoTruncation 0 0 1 results := by
  intro kept
  have same := (kept.2 ⟨.failed "connection reset", by decide, by decide⟩).1
  have present := congrFun same coin.key
  revert present
  decide +kernel

def readAgain : List Next := [.token coin, .token { coin with quantity := ascii "0x2" }, .failed "connection reset",
  .failed "connection reset"]

-- Here the error is seen again, and the tokens read before it are not installed.
theorem partial_snapshot_refused : (new 0 0).NoTruncation 0 0 1 readAgain ∧
    ((new 0 0).finishUpdate 0 0 1 (.ok readAgain)).cache coin.key = none := by
  refine ⟨?_, by decide +kernel⟩
  apply (no_truncated_snapshot_iff (new 0 0) 0 0 1 readAgain).mpr
  simp only [SeenAgain]
  decide

end BrokenRead

end Panurus.Sherdlock
