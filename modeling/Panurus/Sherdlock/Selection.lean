import Panurus.Lib.Attempts
import Panurus.Lib.Claims
import Panurus.Rws.Translator
import Panurus.Token.Quantity

namespace Panurus.Sherdlock

open Lib Outcome Text Token
open Panurus.Rws (TokenID)

structure UnspentToken where
  id : TokenID
  quantity : Bytes
deriving DecidableEq, Repr

structure Tuning where
  sufficiencyWindow : Int
  maxSufficiencyRatio : Int
  maxImmediateRetries : Int
  maxBatchWindow : Int

def maxBatchWindowLimit : Int := 4096

def Tuning.normalize (t : Tuning) : Tuning :=
  { sufficiencyWindow := if t.sufficiencyWindow ≤ 0 then 4 else t.sufficiencyWindow
    maxSufficiencyRatio := if t.maxSufficiencyRatio ≤ 0 then 5 else t.maxSufficiencyRatio
    maxImmediateRetries := if t.maxImmediateRetries ≤ 0 then 5 else t.maxImmediateRetries
    maxBatchWindow := if t.maxBatchWindow ≤ 0 then 256 else min t.maxBatchWindow maxBatchWindowLimit }

inductive Sentinel where
  | insufficientFunds
  | sufficientButLockedFunds
  | rateLimited
  | none
deriving DecidableEq, Repr

def Sentinel.text : Sentinel → String
  | .insufficientFunds => "insufficient funds"
  | .sufficientButLockedFunds => "sufficient but partially locked funds"
  | .rateLimited => "selection rate limit exceeded"
  | .none => ""

structure Failure where
  sentinel : Sentinel
  text : String
deriving DecidableEq, Repr

def plain (text : String) : Failure := { sentinel := .none, text }

def errClosed : String := "selector is already closed"

-- The candidates of a selector: what its iterator will yield, an error included, and the buffer in front of it. A
-- selector that is closed has no iterator.
structure Candidates where
  cache : Option (List (Outcome UnspentToken))
  pending : List UnspentToken
deriving Repr

abbrev Reading := ExceptT String (StateM Candidates)

def dequeue : Reading (Option UnspentToken) := do
  let s ← get
  match s.cache with
  | none => throw errClosed
  | some items =>
    match s.pending with
    | t :: rest => do
      set { s with pending := rest }
      return some t
    | [] =>
      match items with
      | [] => return none
      | .ok t :: rest => do
        set { s with cache := some rest }
        return some t
      | .error cause :: rest => do
        set { s with cache := some rest }
        throw cause

def requeue (tokens : List UnspentToken) : Reading Unit :=
  modify fun s => { s with pending := tokens ++ s.pending }

def Candidates.size (s : Candidates) : Nat := s.pending.length + (s.cache.getD []).length

def errInvalidToken (id : TokenID) : String := s!"invalid token [{id.text}] found"

def amount (t : UnspentToken) (precision : UInt64) : Reading Quantity :=
  liftM (wrap (errInvalidToken t.id) (toQuantity t.quantity precision))

-- The lookahead around a candidate that suffices by itself. Each turn takes one candidate, so that there are no more
-- turns than candidates.
def growWindow (tuning : Tuning) (precision : UInt64) (blacklisted : List TokenID) (threshold : Int) :
    Nat → List UnspentToken → Reading (List UnspentToken)
  | 0, window => return window
  | turns + 1, window =>
    if window.length < tuning.sufficiencyWindow then do
      match ← dequeue with
      | none => return window
      | some next =>
        if next.id ∈ blacklisted then growWindow tuning precision blacklisted threshold turns window
        else do
          let nq ← amount next precision
          if nq.toNat > threshold then do
            requeue [next]
            return window
          else growWindow tuning precision blacklisted threshold turns (window ++ [next])
    else return window

def nextCandidate (tuning : Tuning) (precision : UInt64) (blacklisted : List TokenID) (roll : Nat) (remaining : Quantity) :
    Reading (Option UnspentToken) := do
  match ← dequeue with
  | none => return none
  | some t =>
    if t.id ∈ blacklisted then return some t
    else do
      let tq ← amount t precision
      if tq.cmp remaining < 0 then return some t
      else do
        let threshold := (tq.toNat : Int) * tuning.maxSufficiencyRatio
        let window ← growWindow tuning precision blacklisted threshold (← get).size [t]
        let idx := if window.length > 1 then roll % window.length else 0
        requeue (window.eraseIdx idx)
        return window[idx]?

def growBatch (tuning : Tuning) (precision : UInt64) (blacklisted : List TokenID) (errGet : String) (remaining : Quantity) :
    Nat → List UnspentToken → Quantity → Reading (List UnspentToken)
  | 0, window, _ => return window
  | turns + 1, window, windowSum =>
    if windowSum.cmp remaining < 0 ∧ window.length < tuning.maxBatchWindow then do
      match ← dequeue.adapt fun cause => errGet ++ ": " ++ cause with
      | none => return window
      | some next =>
        if next.id ∈ blacklisted then growBatch tuning precision blacklisted errGet remaining turns window windowSum
        else do
          let nq ← amount next precision
          let sum ← liftM (wrap "failed to add quantity" (windowSum.add nq))
          growBatch tuning precision blacklisted errGet remaining turns (window ++ [next]) sum
    else return window

-- A selector without a limit of retries is a plain one, which does not back off.
structure Settings where
  precision : UInt64
  tuning : Tuning
  supportsBatch : Bool
  maxRetriesAfterBackoff : Option Int

structure Query where
  walletID : Bytes
  quantity : Bytes
  tokenType : Bytes

def Query.label (q : Query) : String := s!"[{render q.walletID}:{render q.tokenType}]"

structure Loop where
  quantity : Quantity
  sum : Quantity
  selected : List TokenID
  tokensLockedByOthersExist : Bool
  immediateRetries : Int
  blacklisted : List TokenID
  sawNonBlacklistedCandidate : Bool
  fetched : Bool
  candidates : Candidates

inductive Proposal where
  | exhausted
  | skipped
  | single (t : UnspentToken)
  | batch (window : List UnspentToken)

inductive Verdict where
  | locked
  | rateLimited (cause : String)
  | notSpendable
  | alreadyLocked
  | storeError
deriving DecidableEq, Repr

inductive BatchFault where
  | rateLimited (cause : String)
  | storeError

structure BatchLockOutcome where
  won : List TokenID
  stale : List TokenID
  fault : Option BatchFault

inductive Progress where
  | going (loop : Loop)
  | found (ids : List TokenID) (sum : Quantity)

section Loop

variable (settings : Settings) (query : Query)

def begin (candidates : Candidates) : Except Failure Loop := do
  ensure candidates.cache.isSome (plain errClosed)
  let quantity ← (wrap "failed to create quantity" (toQuantity query.quantity settings.precision)).mapError plain
  return {
    quantity
    sum := Quantity.zero settings.precision
    selected := []
    tokensLockedByOthersExist := true
    immediateRetries := 0
    blacklisted := []
    sawNonBlacklistedCandidate := false
    fetched := false
    candidates := { candidates with pending := [] } }

def proposal (roll : Nat) (loop : Loop) : ExceptT Failure (StateM Candidates) Proposal := do
  let errGet := "failed to get tokens for " ++ query.label
  let remaining ← liftM ((wrap ("failed to compute remaining amount for " ++ query.label)
    (loop.quantity.sub loop.sum)).mapError plain)
  let next ← (nextCandidate settings.tuning settings.precision loop.blacklisted roll remaining).adapt fun cause =>
    plain (errGet ++ ": " ++ cause)
  match next with
  | none => return .exhausted
  | some t =>
    if t.id ∈ loop.blacklisted then return .skipped
    else if settings.supportsBatch then do
      let windowSum ← (amount t settings.precision).adapt plain
      let window ← (growBatch settings.tuning settings.precision loop.blacklisted errGet remaining
        (← get).size [t] windowSum).adapt plain
      return .batch window
    else return .single t

def propose (roll : Nat) (loop : Loop) : Except Failure Proposal × Loop :=
  let (answer, candidates) := (proposal settings query roll loop).run.run loop.candidates
  (answer, { loop with candidates })

def refreshCandidates (reload : Outcome (List (Outcome UnspentToken))) (loop : Loop) : Except Failure Loop := do
  ensure (¬ loop.immediateRetries > settings.tuning.maxImmediateRetries)
    { sentinel := .sufficientButLockedFunds, text := Sentinel.sufficientButLockedFunds.text }
  let items ← reload.mapError fun cause =>
    plain (s!"failed to reload tokens for retry {loop.immediateRetries} " ++ query.label ++ ": " ++ cause)
  ensure loop.candidates.cache.isSome (plain errClosed)
  return { loop with
    candidates := { cache := some items, pending := [] }
    immediateRetries := loop.immediateRetries + 1
    fetched := true }

-- Whether the funds suffice is asked of the store only when no lock of another process has been seen.
def checkFunds (hasEnough : Outcome Bool) (loop : Loop) : Except Failure Unit :=
  if loop.tokensLockedByOthersExist then .ok ()
  else do
    let enough ← hasEnough.mapError fun cause =>
      plain ("failed to check for locked tokens for " ++ query.label ++ ": " ++ cause)
    ensure (enough = true)
      { sentinel := .insufficientFunds
        text := s!"insufficient funds, only [{loop.sum.toNat}] tokens of type [{render query.tokenType}] are available, " ++
          s!"but [{loop.quantity.toNat}] were requested and no other process has any tokens locked: " ++
          Sentinel.insufficientFunds.text }

def afterExhausted (hasEnough : Outcome Bool) (reload : Outcome (List (Outcome UnspentToken))) (loop : Loop) :
    Except Failure Loop := do
  checkFunds query hasEnough loop
  let blacklisted := if loop.sawNonBlacklistedCandidate then loop.blacklisted else []
  let loop ← refreshCandidates settings query reload { loop with blacklisted, sawNonBlacklistedCandidate := false }
  return { loop with tokensLockedByOthersExist := false }

def take (loop : Loop) (t : UnspentToken) : Except Failure Loop := do
  let q ← (wrap (errInvalidToken t.id) (toQuantity t.quantity settings.precision)).mapError plain
  let sum ← (wrap "failed to add quantity" (loop.sum.add q)).mapError plain
  return { loop with immediateRetries := 0, sum, selected := loop.selected ++ [t.id] }

def covered (loop : Loop) : Progress :=
  if loop.sum.cmp loop.quantity ≥ 0 then .found loop.selected loop.sum else .going loop

def lose (loop : Loop) (id : TokenID) : Loop := { loop with blacklisted := loop.blacklisted ++ [id] }

def afterLock (t : UnspentToken) (verdict : Verdict) (loop : Loop) : Except Failure Progress :=
  let loop := { loop with sawNonBlacklistedCandidate := true }
  match verdict with
  | .locked => return covered (← take settings loop t)
  | .rateLimited cause => .error { sentinel := .rateLimited, text := cause }
  | .notSpendable => return .going (lose loop t.id)
  | .alreadyLocked => return .going { lose loop t.id with tokensLockedByOthersExist := true }
  | .storeError => return .going { loop with tokensLockedByOthersExist := true }

def harvest (outcome : BatchLockOutcome) (loop : Loop) (wt : UnspentToken) : Except Failure Loop :=
  if wt.id ∈ outcome.won then take settings loop wt else return loop

def classify (outcome : BatchLockOutcome) (loop : Loop) (wt : UnspentToken) : Except Failure Loop :=
  let loop := { loop with sawNonBlacklistedCandidate := true }
  if wt.id ∈ outcome.won then take settings loop wt
  else if wt.id ∈ outcome.stale then return lose loop wt.id
  else return { lose loop wt.id with tokensLockedByOthersExist := true }

def afterBatch (reload : Outcome (List (Outcome UnspentToken))) (window : List UnspentToken) (outcome : BatchLockOutcome)
    (loop : Loop) : Except Failure Progress :=
  match outcome.fault with
  | some (.rateLimited cause) => .error { sentinel := .rateLimited, text := cause }
  | some .storeError => do
    -- The claim may have been committed before the store failed: what is known to be won is kept.
    let loop ← window.foldlM (harvest settings outcome) loop
    match covered loop with
    | .found ids sum => return .found ids sum
    | .going loop =>
      return .going (← refreshCandidates settings query reload
        { loop with sawNonBlacklistedCandidate := true, tokensLockedByOthersExist := true })
  | none => return covered (← window.foldlM (classify settings outcome) loop)

end Loop

abbrev TxID := Bytes

-- A call of Select. After an attempt that failed, and after a wait that was cut short, the locks are released next.
inductive Phase where
  | starting (attempt : Nat)
  | selecting (attempt : Nat) (loop : Loop)
  | failed (attempt : Nat) (failure : Failure)
  | backingOff (attempt : Nat)
  | cancelled (cause : String)
  | returned (result : Except Failure (List TokenID × Quantity))

structure Call where
  tx : TxID
  query : Query
  phase : Phase
  settled : Bool

structure System where
  locks : TokenID → Option TxID
  calls : List Call

-- What the environment of one turn of the loop answers: the random choice, the balance, the candidates read again,
-- and the store. A store that fails may have granted more than it reports.
structure Answers where
  roll : Nat
  hasEnough : Outcome Bool
  reload : Outcome (List (Outcome UnspentToken))
  verdict : Verdict
  granted : List TokenID
  outcome : BatchLockOutcome

-- Another call on the same selector, or its closing, moves the candidates under a call.
inductive Event where
  | select (tx : TxID) (query : Query)
  | start (k : Nat) (candidates : Candidates)
  | disturb (k : Nat) (candidates : Candidates)
  | turn (k : Nat) (answers : Answers)
  | cleanUp (k : Nat) (fails : Bool)
  | wake (k : Nat)
  | cancel (k : Nat) (cause : String)
  | unlock (tx : TxID) (fails : Bool)

def errAborted : String := "aborted too many times and no other process unlocked or added tokens"

def disabled : String := "not enabled"

def progressed (attempt : Nat) : Except Failure Progress → Phase
  | .ok (.going loop) => .selecting attempt loop
  | .ok (.found ids sum) => .returned (.ok (ids, sum))
  | .error failure => .failed attempt failure

section Steps

variable (settings : Settings)

def started (query : Query) (attempt : Nat) (candidates : Candidates) : Phase :=
  let limit := settings.maxRetriesAfterBackoff
  if limit.all fun most => (attempt : Int) ≤ most then
    progressed attempt ((begin settings query candidates).map Progress.going)
  else .returned (.error { sentinel := .insufficientFunds, text := errAborted ++ ": " ++ Sentinel.insufficientFunds.text })

-- What follows the release of the locks. Only a stubborn selector waits, and only for locked funds.
def released (attempt : Nat) (failure : Failure) : Phase :=
  if settings.maxRetriesAfterBackoff.isSome ∧ failure.sentinel = .sufficientButLockedFunds then .backingOff attempt
  else .returned (.error failure)

-- One turn of the loop, with the tokens whose lock the store grants in it. The store grants no lock that is held.
def turned (locks : TokenID → Option TxID) (query : Query) (attempt : Nat) (answers : Answers) (loop : Loop) :
    Outcome (Phase × List TokenID) :=
  let (proposed, loop) := propose settings query answers.roll loop
  match proposed with
  | .error failure => return (.failed attempt failure, [])
  | .ok .exhausted =>
    return (progressed attempt ((afterExhausted settings query answers.hasEnough answers.reload loop).map Progress.going), [])
  | .ok .skipped => return (.selecting attempt { loop with tokensLockedByOthersExist := true }, [])
  | .ok (.single t) => do
    ensure (answers.granted ⊆ [t.id]) disabled
    ensure (∀ id ∈ answers.granted, locks id = none) disabled
    ensure (answers.verdict = .locked → t.id ∈ answers.granted) disabled
    return (progressed attempt (afterLock settings t answers.verdict loop), answers.granted)
  | .ok (.batch window) => do
    ensure (answers.granted ⊆ window.map UnspentToken.id) disabled
    ensure (∀ id ∈ answers.granted, locks id = none) disabled
    ensure (answers.outcome.won ⊆ answers.granted) disabled
    return (progressed attempt (afterBatch settings query answers.reload window answers.outcome loop), answers.granted)

def Call.settle (tx : TxID) (call : Call) : Call :=
  match call.phase with
  | .returned _ => if call.tx = tx then { call with settled := true } else call
  | _ => call

namespace System

def move (s : System) (k : Nat) (call : Call) (phase : Phase) : System :=
  { s with calls := s.calls.set k { call with phase } }

def unlockByTxID (s : System) (tx : TxID) (fails : Bool) : System :=
  if fails then s else { s with locks := Claims.drop s.locks tx }

def step (s : System) : Event → Outcome System
  | .select tx query => return { s with calls := s.calls ++ [{ tx, query, phase := .starting 0, settled := false }] }
  | .start k candidates => do
    let call ← required s.calls[k]? disabled
    match call.phase with
    | .starting attempt => return s.move k call (started settings call.query attempt candidates)
    | _ => .error disabled
  | .disturb k candidates => do
    let call ← required s.calls[k]? disabled
    match call.phase with
    | .selecting attempt loop => return s.move k call (.selecting attempt { loop with candidates })
    | _ => .error disabled
  | .turn k answers => do
    let call ← required s.calls[k]? disabled
    match call.phase with
    | .selecting attempt loop => do
      let (phase, granted) ← turned settings s.locks call.query attempt answers loop
      return { s.move k call phase with locks := Claims.grant s.locks call.tx granted }
    | _ => .error disabled
  | .cleanUp k fails => do
    let call ← required s.calls[k]? disabled
    match call.phase with
    | .failed attempt failure => return (s.unlockByTxID call.tx fails).move k call (released settings attempt failure)
    | .cancelled cause => return (s.unlockByTxID call.tx fails).move k call (.returned (.error (plain cause)))
    | _ => .error disabled
  | .wake k => do
    let call ← required s.calls[k]? disabled
    match call.phase with
    | .backingOff attempt => return s.move k call (.starting (attempt + 1))
    | _ => .error disabled
  | .cancel k cause => do
    let call ← required s.calls[k]? disabled
    match call.phase with
    | .backingOff _ => return s.move k call (.cancelled cause)
    | _ => .error disabled
  | .unlock tx fails =>
    if fails then return s else return { locks := Claims.drop s.locks tx, calls := s.calls.map (Call.settle tx) }

end System

end Steps

def System.empty : System := { locks := fun _ => none, calls := [] }

end Panurus.Sherdlock
