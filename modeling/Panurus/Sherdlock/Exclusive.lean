import Panurus.Sherdlock.Selection

namespace Panurus.Sherdlock

open List Lib Outcome Attempts Claims List.Subset
open Panurus.Rws (TokenID)

def Progress.collected : Progress → List TokenID
  | .going loop => loop.selected
  | .found ids _ => ids

def Phase.collected : Phase → List TokenID
  | .selecting _ loop => loop.selected
  | _ => []

def Phase.tokens : Phase → List TokenID
  | .returned (.ok (ids, _)) => ids
  | _ => []

def Phase.claim (phase : Phase) : List TokenID := phase.collected ++ phase.tokens

variable {granted : List TokenID} {phase : Phase}

section Turn

variable {settings : Settings} {query : Query} {loop next : Loop} {progress : Progress} {attempt : Nat}
  {reload : Outcome (List (Outcome UnspentToken))} {t : UnspentToken}

theorem progressed_claim {result : Except Failure Progress} {ids : List TokenID}
    (grown : ∀ progress, result = .ok progress → progress.collected ⊆ ids) : (progressed attempt result).claim ⊆ ids := by
  cases result with
  | error failure => exact nil_subset ids
  | ok progress =>
    have bound := grown progress rfl
    cases progress with
    | going loop => simpa [progressed, Phase.claim, Phase.collected, Phase.tokens, Progress.collected] using bound
    | found tokens sum => simpa [progressed, Phase.claim, Phase.collected, Phase.tokens, Progress.collected] using bound

theorem covered_collected (loop : Loop) : (covered loop).collected = loop.selected := by
  unfold covered
  split <;> rfl

theorem propose_selected {roll : Nat} {answer : Except Failure Proposal}
    (proposed : propose settings query roll loop = (answer, next)) : next.selected = loop.selected := by
  cases proposed
  rfl

theorem refresh_selected (refreshed : refreshCandidates settings query reload loop = .ok next) : next.selected = loop.selected := by
  simp only [refreshCandidates, ok_iff, map_error_ok_iff] at refreshed
  obtain ⟨_, _, _, _, _, _, rfl⟩ := refreshed
  rfl

theorem exhausted_selected {hasEnough : Outcome Bool}
    (passed : afterExhausted settings query hasEnough reload loop = .ok next) : next.selected = loop.selected := by
  simp only [afterExhausted, ok_iff] at passed
  obtain ⟨_, _, refreshed, done, rfl⟩ := passed
  have same := refresh_selected done
  exact same

theorem take_selected (taken : take settings loop t = .ok next) : next.selected = loop.selected ++ [t.id] := by
  simp only [take, ok_iff, map_error_ok_iff] at taken
  obtain ⟨_, _, _, _, rfl⟩ := taken
  rfl

theorem take_granted (mine : t.id ∈ granted)
    (taken : take settings loop t = .ok next) : next.selected ⊆ loop.selected ++ granted := by
  rw [take_selected taken]
  exact append_subset.mpr ⟨subset_append_left _ _, by simpa using Or.inr mine⟩

theorem lock_collected {verdict : Verdict} (reported : verdict = .locked → t.id ∈ granted)
    (answered : afterLock settings t verdict loop = .ok progress) : progress.collected ⊆ loop.selected ++ granted := by
  cases verdict with
  | locked =>
    simp only [afterLock, ok_iff] at answered
    obtain ⟨taken, done, rfl⟩ := answered
    have grown := take_granted (reported rfl) done
    rw [covered_collected]
    exact grown
  | rateLimited cause => cases answered
  | notSpendable | alreadyLocked | storeError =>
    cases answered
    exact subset_append_left _ _

section Batch

variable {outcome : BatchLockOutcome} {window : List UnspentToken} {wt : UnspentToken}

theorem harvest_selected (harvested : harvest settings outcome loop wt = .ok next) :
    next.selected ⊆ loop.selected ++ outcome.won := by
  unfold harvest at harvested
  split at harvested
  · rename_i won
    exact take_granted won harvested
  · cases harvested
    exact subset_append_left _ _

theorem classify_selected (classified : classify settings outcome loop wt = .ok next) :
    next.selected ⊆ loop.selected ++ outcome.won := by
  unfold classify at classified
  split at classified
  · rename_i won
    have grown := take_granted won classified
    exact grown
  · split at classified
    · cases classified
      exact subset_append_left _ _
    · cases classified
      exact subset_append_left _ _

theorem window_selected {step : Loop → UnspentToken → Except Failure Loop}
    (grows : ∀ {loop wt next}, step loop wt = .ok next → next.selected ⊆ loop.selected ++ outcome.won)
    (folded : window.foldlM step loop = .ok next) : next.selected ⊆ loop.selected ++ outcome.won := by
  refine foldlM_invariant (fun _ reached => reached.selected ⊆ loop.selected ++ outcome.won) ?_
    (subset_append_left _ _) folded
  intro _ reached wt following bound stepped id selected
  rcases mem_append.mp (grows stepped selected) with old | won
  · exact bound old
  · exact mem_append_right _ won

theorem batch_collected (answered : afterBatch settings query reload window outcome loop = .ok progress) :
    progress.collected ⊆ loop.selected ++ outcome.won := by
  unfold afterBatch at answered
  split at answered
  · cases answered
  · rw [bind_ok_iff] at answered
    obtain ⟨harvested, folded, answered⟩ := answered
    have grown := window_selected harvest_selected folded
    have same := covered_collected harvested
    split at answered
    · rename_i found
      cases answered
      rw [found] at same
      simpa only [Progress.collected, ← same] using grown
    · rename_i going
      rw [going] at same
      simp only [ok_iff] at answered
      obtain ⟨refreshed, done, rfl⟩ := answered
      have kept := refresh_selected done
      rw [Progress.collected, kept]
      simpa only [Progress.collected, ← same] using grown
  · simp only [ok_iff] at answered
    obtain ⟨classified, folded, rfl⟩ := answered
    rw [covered_collected]
    exact window_selected classify_selected folded

end Batch

theorem turned_ok {locks : TokenID → Option TxID} {answers : Answers}
    (done : turned settings locks query attempt answers loop = .ok (phase, granted)) :
    (∀ id ∈ granted, locks id = none) ∧ phase.claim ⊆ loop.selected ++ granted := by
  unfold turned at done
  cases outcome : propose settings query answers.roll loop with
  | mk proposed moved =>
    have same := propose_selected outcome
    rw [outcome] at done
    rw [← same]
    cases proposed with
    | error failure =>
      cases done
      exact ⟨by simp, nil_subset _⟩
    | ok proposal =>
      cases proposal with
      | exhausted =>
        cases done
        refine ⟨by simp, progressed_claim ?_⟩
        intro progress went
        obtain ⟨next, passed, rfl⟩ := map_ok_iff.mp went
        have kept := exhausted_selected passed
        simp [Progress.collected, kept]
      | skipped =>
        cases done
        exact ⟨by simp, by simp [Phase.claim, Phase.collected, Phase.tokens]⟩
      | single t =>
        simp only [ok_iff, Prod.mk.injEq] at done
        obtain ⟨_, _, _, free, _, reported, rfl, rfl⟩ := done
        exact ⟨free, progressed_claim fun _ answered => lock_collected reported answered⟩
      | batch window =>
        simp only [ok_iff, Prod.mk.injEq] at done
        obtain ⟨_, _, _, free, _, reported, rfl, rfl⟩ := done
        refine ⟨free, progressed_claim fun _ answered => ?_⟩
        have won : answers.outcome.won ⊆ moved.selected ++ answers.granted :=
          List.Subset.trans reported (subset_append_right _ _)
        exact List.Subset.trans (batch_collected answered) (append_subset.mpr ⟨subset_append_left _ _, won⟩)

theorem started_claim {candidates : Candidates} : (started settings query attempt candidates).claim = [] := by
  simp only [started]
  split
  · refine subset_nil.mp (progressed_claim ?_)
    intro progress begun
    obtain ⟨loop, opened, rfl⟩ := map_ok_iff.mp begun
    simp only [begin, ok_iff] at opened
    obtain ⟨_, _, _, _, rfl⟩ := opened
    exact refl _
  · rfl

theorem released_claim {failure : Failure} : (released settings attempt failure).claim = [] := by
  unfold released
  split <;> rfl

end Turn

def Call.tokens (call : Call) : List TokenID := if call.settled then [] else call.phase.tokens

def Call.claim (call : Call) : List TokenID := call.phase.collected ++ call.tokens

def Phase.ended : Phase → Bool
  | .failed _ _ | .cancelled _ => true
  | _ => false

open Call

def System.cleanedUp (s : System) : Event → Option TxID
  | .cleanUp k false => (s.calls[k]?.filter fun call => call.phase.ended).map tx
  | _ => none

def System.dropped (s : System) : Event → Option TxID
  | .unlock tx false => some tx
  | e => s.cleanedUp e

open Sherdlock.System

structure Exclusive (s : System) : Prop where
  held : ∀ call ∈ s.calls, ∀ id ∈ call.tokens, s.locks id = some call.tx
  apart : s.calls.Pairwise fun one other => one.tokens.Disjoint other.tokens

inductive Change (s : System) : Event → System → Prop
  | moved {e : Event} {k : Nat} {call : Call} {phase : Phase} {granted : List TokenID} (found : s.calls[k]? = some call)
      (free : ∀ id ∈ granted, s.locks id = none) (grown : phase.claim ⊆ call.phase.collected ++ granted) :
      Change s e { s.move k call phase with locks := grant s.locks call.tx granted }
  | called {tx : TxID} {query : Query} :
      Change s (.select tx query) { s with calls := s.calls ++ [{ tx, query, phase := .starting 0, settled := false }] }
  | cleaned {k : Nat} {call : Call} {phase : Phase} (found : s.calls[k]? = some call) (ended : call.phase.ended)
      (empty : phase.claim = []) :
      Change s (.cleanUp k false) { s.move k call phase with locks := drop s.locks call.tx }
  | unlocked {tx : TxID} :
      Change s (.unlock tx false) { locks := drop s.locks tx, calls := s.calls.map (settle tx) }
  | stayed {tx : TxID} : Change s (.unlock tx true) s

section Run

variable {settings : Settings} {s next : System} {e : Event} {k : Nat} {call : Call} {calls : List Call} {tx : TxID}

theorem change_without_grant (found : s.calls[k]? = some call)
    (grown : phase.claim ⊆ call.phase.collected) : Change s e (s.move k call phase) := by
  have same : s.move k call phase = { s.move k call phase with locks := grant s.locks call.tx [] } := by
    rfl
  rw [same]
  exact .moved found (by simp) (by simpa using grown)

theorem change_clean_up {fails : Bool} (found : s.calls[k]? = some call) (ended : call.phase.ended) (empty : phase.claim = []) :
    Change s (.cleanUp k fails) ((s.unlockByTxID call.tx fails).move k call phase) := by
  cases fails with
  | true => exact change_without_grant found (by simp [empty])
  | false => exact .cleaned found ended empty

theorem step_change (stepped : s.step settings e = .ok next) : Change s e next := by
  cases e with simp only [step, ok_iff] at stepped
  | select tx query =>
    subst stepped
    exact .called
  | start k candidates =>
    obtain ⟨call, found, stepped⟩ := stepped
    split at stepped
    · cases stepped
      exact change_without_grant found (by simp [started_claim])
    · cases stepped
  | disturb k candidates =>
    obtain ⟨call, found, stepped⟩ := stepped
    split at stepped
    · rename_i selecting
      cases stepped
      exact change_without_grant found (by simp [selecting, Phase.claim, Phase.collected, Phase.tokens])
    · cases stepped
  | turn k answers =>
    obtain ⟨call, found, stepped⟩ := stepped
    split at stepped
    · rename_i selecting
      obtain ⟨⟨phase, granted⟩, done, stepped⟩ := bind_ok_iff.mp stepped
      cases stepped
      obtain ⟨free, grown⟩ := turned_ok done
      exact .moved found free (by simpa only [selecting, Phase.collected] using grown)
    · cases stepped
  | cleanUp k fails =>
    obtain ⟨call, found, stepped⟩ := stepped
    split at stepped
    · rename_i failed
      cases stepped
      exact change_clean_up found (by rw [failed, Phase.ended]) released_claim
    · rename_i cancelled
      cases stepped
      exact change_clean_up found (by rw [cancelled, Phase.ended]) rfl
    · cases stepped
  | wake k | cancel k cause =>
    obtain ⟨call, found, stepped⟩ := stepped
    split at stepped
    · cases stepped
      exact change_without_grant found (nil_subset _)
    · cases stepped
  | unlock tx fails =>
    cases fails with
    | true =>
      cases stepped
      exact .stayed
    | false =>
      cases stepped
      exact .unlocked

def holderAt (calls : List Call) (k : Nat) : TxID := (calls[k]?.map Call.tx).getD []

def claimAt (calls : List Call) (k : Nat) : List TokenID := (calls[k]?.map claim).getD []

theorem holder_at (found : calls[k]? = some call) : holderAt calls k = call.tx := by
  rw [holderAt, found]
  rfl

theorem claim_at (found : calls[k]? = some call) : claimAt calls k = call.claim := by
  rw [claimAt, found]
  rfl

theorem claim_nowhere (missing : calls[k]? = none) : claimAt calls k = [] := by
  rw [claimAt, missing]
  rfl

abbrev Accounted (s : System) : Prop := Kept s.locks (holderAt s.calls) (claimAt s.calls)

theorem accounted_empty : Accounted empty := by
  constructor
  · intro k id claimed
    cases claimed
  · intro k j different id claimed
    cases claimed

theorem exclusive_of_accounted (accounted : Accounted s) : Exclusive s := by
  have tokensAt : ∀ k call, s.calls[k]? = some call → call.tokens ⊆ claimAt s.calls k := by
    intro k call found
    rw [claim_at found]
    exact subset_append_right _ _
  constructor
  · intro call member id token
    obtain ⟨k, found⟩ := mem_iff_getElem?.mp member
    rw [← holder_at found]
    exact accounted.held k id (tokensAt k call found token)
  · rw [pairwise_iff_getElem]
    intro i j before after order id first second
    have one := tokensAt i _ (getElem?_eq_getElem before)
    have other := tokensAt j _ (getElem?_eq_getElem after)
    exact accounted.apart i j (Nat.ne_of_lt order) (one first) (other second)

-- Nothing of a transaction is unlocked while a Select of it has tokens in hand.
def Undisturbed (s : System) (e : Event) : Prop :=
  ∀ tx ∈ s.dropped e, ∀ call ∈ s.calls, call.tx = tx → call.phase.collected = []

-- No Select of a transaction cleans up while the transaction has tokens that were returned to its client.
def Sparing (s : System) (e : Event) : Prop :=
  ∀ tx ∈ s.cleanedUp e, ∀ call ∈ s.calls, call.tx = tx → call.tokens = []

instance undisturbedDecidable (s : System) (e : Event) : Decidable (Undisturbed s e) :=
  inferInstanceAs (Decidable (∀ tx ∈ s.dropped e, ∀ call ∈ s.calls, call.tx = tx → call.phase.collected = []))

instance sparingDecidable (s : System) (e : Event) : Decidable (Sparing s e) :=
  inferInstanceAs (Decidable (∀ tx ∈ s.cleanedUp e, ∀ call ∈ s.calls, call.tx = tx → call.tokens = []))

theorem clean_up_iff : s.cleanedUp e = some tx ↔
    ∃ k call, e = .cleanUp k false ∧ s.calls[k]? = some call ∧ call.phase.ended ∧ call.tx = tx := by
  constructor
  · intro cleans
    unfold cleanedUp at cleans
    split at cleans
    · rename_i k
      obtain ⟨call, found, rfl⟩ := Option.map_eq_some_iff.mp cleans
      obtain ⟨found, ended⟩ := Option.filter_eq_some_iff.mp found
      exact ⟨k, call, rfl, found, ended, rfl⟩
    · cases cleans
  · rintro ⟨k, call, rfl, found, ended, rfl⟩
    simp [cleanedUp, found, ended]

section Moved

variable {k : Nat} {call : Call} {phase : Phase}

theorem claim_subset (call : Call) (phase : Phase) : claim { call with phase } ⊆ phase.claim := by
  unfold claim tokens Phase.claim
  split
  · simp
  · exact refl _

theorem holder_moved (found : s.calls[k]? = some call) (j : Nat) :
    holderAt (s.move k call phase).calls j = holderAt s.calls j := by
  by_cases same : k = j
  · subst same
    simp [holderAt, move, getElem?_set_self', found]
  · simp [holderAt, move, getElem?_set_ne same]

theorem claim_moved (found : s.calls[k]? = some call) :
    claimAt (s.move k call phase).calls k = claim { call with phase } := by
  simp [claimAt, move, getElem?_set_self', found]

theorem claim_unmoved {j : Nat} (different : j ≠ k) : claimAt (s.move k call phase).calls j = claimAt s.calls j := by
  simp [claimAt, move, getElem?_set_ne different.symm]

theorem accounted_moved (accounted : Accounted s) (found : s.calls[k]? = some call)
    (free : ∀ id ∈ granted, s.locks id = none) (grown : phase.claim ⊆ call.phase.collected ++ granted) :
    Accounted { s.move k call phase with locks := grant s.locks call.tx granted } := by
  rw [← holder_at found]
  refine kept_grant accounted free ?_ ?_ fun j _ => holder_moved found j
  · rw [claim_moved found, claim_at found]
    intro id claimed
    have grows := grown (claim_subset call phase claimed)
    simp only [mem_append, claim] at grows ⊢
    tauto
  · intro j different
    rw [claim_unmoved different]
    exact refl _

theorem accounted_cleaned (accounted : Accounted s) (undisturbed : Undisturbed s (.cleanUp k false))
    (sparing : Sparing s (.cleanUp k false)) (found : s.calls[k]? = some call) (ended : call.phase.ended)
    (empty : phase.claim = []) : Accounted { s.move k call phase with locks := drop s.locks call.tx } := by
  have cleans : s.cleanedUp (.cleanUp k false) = some call.tx := clean_up_iff.mpr ⟨k, call, rfl, found, ended, rfl⟩
  have cleaned : claimAt (s.move k call phase).calls k = [] := by
    rw [claim_moved found]
    exact subset_nil.mp (empty ▸ claim_subset call phase)
  refine kept_drop accounted ?_ ?_ fun j _ => holder_moved found j
  · intro j
    by_cases same : j = k
    · rw [same, cleaned]
      exact nil_subset _
    · rw [claim_unmoved same]
      exact refl _
  · intro j mine
    by_cases same : j = k
    · rw [same, cleaned]
    · rw [claim_unmoved same]
      cases present : s.calls[j]? with
      | none => exact claim_nowhere present
      | some other =>
        have member := mem_of_getElem? present
        rw [holder_at present] at mine
        have nothing := undisturbed call.tx cleans other member mine
        have returned := sparing call.tx cleans other member mine
        rw [claim_at present, claim, nothing, returned]
        rfl

end Moved

theorem settle_tx (tx : TxID) (call : Call) : (call.settle tx).tx = call.tx := by
  unfold Call.settle
  split
  · split <;> rfl
  · rfl

theorem settle_claim_subset (tx : TxID) (call : Call) : (call.settle tx).claim ⊆ call.claim := by
  unfold Call.settle
  split
  · split
    · simp [claim, tokens]
    · exact refl _
  · exact refl _

theorem running_tokens (running : ∀ result, phase ≠ .returned result) : phase.tokens = [] := by
  cases phase with
  | returned result => exact absurd rfl (running result)
  | _ => rfl

theorem settle_claim_nil (mine : call.tx = tx) (nothing : call.phase.collected = []) : (call.settle tx).claim = [] := by
  unfold Call.settle
  split
  · rw [if_pos mine]
    simpa [claim, tokens] using nothing
  · rename_i running
    simp [claim, tokens, nothing, running_tokens running]

theorem accounted_unlocked (accounted : Accounted s) (undisturbed : Undisturbed s (.unlock tx false)) :
    Accounted { locks := drop s.locks tx, calls := s.calls.map (settle tx) } := by
  have settled : ∀ (j : Nat) (call : Call), s.calls[j]? = some call → (s.calls.map (settle tx))[j]? = some (call.settle tx) := by
    intro j call found
    rw [getElem?_map, found]
    rfl
  have missing : ∀ j : Nat, s.calls[j]? = none → (s.calls.map (settle tx))[j]? = none := by
    intro j absent
    rw [getElem?_map, absent]
    rfl
  refine kept_drop accounted ?_ ?_ ?_
  · intro j
    cases found : s.calls[j]? with
    | none =>
      rw [claim_nowhere (missing j found)]
      exact nil_subset _
    | some call =>
      rw [claim_at (settled j call found), claim_at found]
      exact settle_claim_subset tx call
  · intro j mine
    cases found : s.calls[j]? with
    | none => exact claim_nowhere (missing j found)
    | some call =>
      rw [holder_at found] at mine
      rw [claim_at (settled j call found)]
      exact settle_claim_nil mine (undisturbed tx rfl call (mem_of_getElem? found) mine)
  · intro j claims
    cases found : s.calls[j]? with
    | none => exact absurd (claim_nowhere (missing j found)) claims
    | some call => rw [holder_at (settled j call found), holder_at found, settle_tx]

theorem accounted_called (accounted : Accounted s) (nothing : call.claim = []) :
    Accounted { s with calls := s.calls ++ [call] } := by
  have within : ∀ j, claimAt (s.calls ++ [call]) j ≠ [] → (s.calls ++ [call])[j]? = s.calls[j]? := by
    intro j claims
    rcases Nat.lt_or_ge j s.calls.length with inside | outside
    · exact getElem?_append_left inside
    · exfalso
      apply claims
      rw [claimAt, getElem?_append_right outside]
      cases position : j - s.calls.length with
      | zero => exact nothing
      | succ n => rfl
  refine kept_mono accounted ?_ ?_
  · intro j id claimed
    have same := within j (ne_nil_of_mem claimed)
    rwa [claimAt, same] at claimed
  · intro j claims
    rw [holderAt, within j claims, holderAt]

theorem accounted_step (accounted : Accounted s) (undisturbed : Undisturbed s e) (sparing : Sparing s e)
    (stepped : s.step settings e = .ok next) : Accounted next := by
  cases step_change stepped with
  | moved found free grown => exact accounted_moved accounted found free grown
  | called => exact accounted_called accounted rfl
  | cleaned found ended empty => exact accounted_cleaned accounted undisturbed sparing found ended empty
  | unlocked => exact accounted_unlocked accounted undisturbed
  | stayed => exact accounted

theorem clean_up_ok (settings : Settings) (found : s.calls[k]? = some call) (ended : call.phase.ended) :
    ∃ phase, s.step settings (.cleanUp k false) = .ok { s.move k call phase with locks := drop s.locks call.tx } := by
  simp only [step, found, required, bind, Except.bind]
  cases shape : call.phase with
  | failed attempt failure => exact ⟨released settings attempt failure, rfl⟩
  | cancelled cause => exact ⟨.returned (.error (plain cause)), rfl⟩
  | _ =>
    rw [shape] at ended
    cases ended

theorem ended_tokens (ended : call.phase.ended) : call.tokens = [] := by
  have running : call.phase.tokens = [] := by
    apply running_tokens
    intro result returned
    rw [returned] at ended
    cases ended
  simp [tokens, running]

theorem sparing_of_exclusive (exclusive : Exclusive (Attempts.settle (step settings) s e)) : Sparing s e := by
  intro tx cleans other member mine
  obtain ⟨k, call, rfl, found, ended, rfl⟩ := clean_up_iff.mp cleans
  obtain ⟨phase, cleaned⟩ := clean_up_ok settings found ended
  rw [settle_ok cleaned] at exclusive
  rw [eq_nil_iff_forall_not_mem]
  intro id token
  obtain ⟨j, present⟩ := mem_iff_getElem?.mp member
  have different : k ≠ j := by
    rintro rfl
    rw [found] at present
    cases present
    rw [ended_tokens ended] at token
    cases token
  have kept : other ∈ (s.move k call phase).calls :=
    mem_of_getElem? ((getElem?_set_ne different).trans present)
  have locked := exclusive.held other kept id token
  rw [mine] at locked
  exact drop_ne s.locks call.tx id locked

end Run

theorem selected_exclusive_iff (settings : Settings) (events : List Event)
    (undisturbed : Along (step settings) Undisturbed empty events) :
    Throughout (step settings) Exclusive empty events ↔ Along (step settings) Sparing empty events := by
  constructor
  · intro exclusive
    exact along_of_throughout (fun _ _ after => sparing_of_exclusive after) exclusive
  · intro sparing
    have accounted : Throughout (step settings) Accounted empty events :=
      throughout_of_along
        (fun _ _ _ before checked stepped => accounted_step before checked.1 checked.2 stepped)
        accounted_empty ((along_and _ _).mpr ⟨undisturbed, sparing⟩)
    exact throughout_mono (fun _ => exclusive_of_accounted) accounted

namespace TwoTransfers

open Text

def settings : Settings :=
  { precision := 64
    tuning := Tuning.normalize { sufficiencyWindow := 0, maxSufficiencyRatio := 0, maxImmediateRetries := 0, maxBatchWindow := 0 }
    supportsBatch := false
    maxRetriesAfterBackoff := none }

def query : Query := { walletID := ascii "alice", quantity := ascii "1", tokenType := ascii "USD" }

def coin : UnspentToken := { id := { txId := ascii "issue", index := 0 }, quantity := ascii "1" }

def note : UnspentToken := { id := { txId := ascii "issue", index := 1 }, quantity := ascii "1" }

def listing (tokens : List UnspentToken) : Candidates := { cache := some (tokens.map .ok), pending := [] }

-- A token that is listed is locked. Nothing else is free, and the balance is too low.
def answers (tokens : List UnspentToken) : Answers :=
  { roll := 0, hasEnough := .ok false, reload := .ok [], verdict := .locked, granted := tokens.map UnspentToken.id
    outcome := { won := [], stale := [], fault := none } }

def selecting (k : Nat) (tx : TxID) (tokens : List UnspentToken) : List Event :=
  [.select tx query, .start k (listing tokens), .turn k (answers tokens)]

-- The second of two transfers of one request finds no funds; then another request selects.
def request : List Event :=
  selecting 0 (ascii "a") [coin] ++ selecting 1 (ascii "a") [] ++ [.turn 1 (answers []), .cleanUp 1 false] ++
    selecting 2 (ascii "b") [coin]

-- Both transfers find a token, and the request is unlocked before the other one selects.
def served : List Event :=
  selecting 0 (ascii "a") [coin] ++ selecting 1 (ascii "a") [note] ++ [.unlock (ascii "a") false] ++
    selecting 2 (ascii "b") [coin]

theorem coin_selected_twice :
    (run (step settings) empty request).calls.map tokens = [[coin.id], [], [coin.id]] ∧
      ¬ Throughout (step settings) Exclusive empty request := by
  have returned : (run (step settings) empty request).calls.map tokens = [[coin.id], [], [coin.id]] := by
    decide +kernel
  refine ⟨returned, fun exclusive => ?_⟩
  have apart := List.pairwise_map.mpr (throughout_run exclusive).apart
  rw [returned] at apart
  simp at apart

theorem served_exclusive :
    (run (step settings) empty served).calls.map tokens = [[], [], [coin.id]] ∧
      Throughout (step settings) Exclusive empty served :=
  ⟨by decide +kernel, (selected_exclusive_iff settings served (by decide +kernel)).mpr (by decide +kernel)⟩

end TwoTransfers

end Panurus.Sherdlock
