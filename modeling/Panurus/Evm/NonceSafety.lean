import Mathlib.Data.List.Nodup
import Mathlib.Data.List.Perm.Subperm
import Panurus.Lib.Attempts
import Panurus.Lib.Outcome

namespace Panurus.Evm

open Lib Outcome Attempts

-- The transactions of the submitter: those below the count are mined, the others wait in the pool.
structure Account where
  mined : Nat
  pool : List Nat
deriving DecidableEq, Repr

namespace Account

def Taken (account : Account) (nonce : Nat) : Prop := nonce < account.mined ∨ nonce ∈ account.pool

instance (account : Account) : DecidablePred account.Taken := fun nonce =>
  inferInstanceAs (Decidable (nonce < account.mined ∨ nonce ∈ account.pool))

def pendingNonceAt (account : Account) : Nat :=
  account.mined + ((List.range (account.pool.length + 1)).find? fun offset => account.mined + offset ∉ account.pool).getD 0

def accept (account : Account) (nonce : Nat) : Account := { account with pool := nonce :: account.pool }

def mine (account : Account) : Account :=
  if account.mined ∈ account.pool then
    { mined := account.mined + 1, pool := account.pool.filter fun nonce => decide (nonce ≠ account.mined) }
  else account

def drop (account : Account) (nonce : Nat) : Account := { account with pool := account.pool.filter fun other => decide (other ≠ nonce) }

end Account

-- The settings are those of the manager; times are in nanoseconds, and a time that is zero is none. The lock is held while
-- a nonce is in use.
structure NonceManager where
  gapGrace : Int
  gapCheckEvery : Int
  inUse : Bool
  next : UInt64
  initialized : Bool
  lastRead : Int
  behind : UInt64
  behindSince : Option Int
  refill : Bool
deriving DecidableEq, Repr

def defaultNonceGapGrace : Int := 30000000000

def defaultNonceGapCheckInterval : Int := 10000000000

def NonceManager.new : NonceManager :=
  { gapGrace := defaultNonceGapGrace
    gapCheckEvery := defaultNonceGapCheckInterval
    inUse := false
    next := 0
    initialized := false
    lastRead := 0
    behind := 0
    behindSince := none
    refill := false }

structure Readings where
  interval : Int
  read : Int
  after : Int

namespace NonceManager

def checkGap (n : NonceManager) (now : Readings) (pending : Outcome UInt64) : NonceManager :=
  if now.interval - n.lastRead < n.gapCheckEvery then n
  else
    let n := { n with lastRead := now.read }
    match pending with
    | .error _ => n
    | .ok pending =>
      if pending ≥ n.next then { n with behindSince := none }
      else match n.behindSince with
        | none => { n with behind := pending, behindSince := some now.after }
        | some since =>
          if n.behind ≠ pending then { n with behind := pending, behindSince := some now.after }
          else if now.after - since < n.gapGrace then n
          else { n with next := pending, behindSince := none, refill := true }

def allocate (n : NonceManager) (now : Readings) (pending : Outcome UInt64) : Outcome NonceManager :=
  if n.initialized then .ok { n.checkGap now pending with inUse := true }
  else do
    let pending ← wrap "failed to recover the nonce for submitter" pending
    return { n with
      inUse := true, next := pending, initialized := true, lastRead := now.read, behind := 0, behindSince := none, refill := false }

end NonceManager

-- What becomes of the broadcast in use. A refusal may be marked as one that may have consumed the nonce; a lost reply is.
inductive Broadcast where
  | accepted
  | refused (mayBeConsumed : Bool)
  | replyLost
deriving DecidableEq, Repr

def NonceManager.settle (n : NonceManager) : Broadcast → NonceManager
  | .accepted =>
    if n.refill then { n with inUse := false, next := n.next + 1, refill := false, initialized := false }
    else { n with inUse := false, next := n.next + 1 }
  | .refused false => { n with inUse := false }
  | .refused true | .replyLost => { n with inUse := false, initialized := false }

open NonceManager

structure Submitter where
  account : Account
  manager : NonceManager
deriving DecidableEq, Repr

inductive SubmitterEvent where
  | allocate (now : Readings) (read : Outcome Unit)
  | use (broadcast : Broadcast)
  | mine
  | drop (nonce : Nat)

def broadcast (account : Account) (nonce : Nat) : Broadcast → Account
  | .accepted | .replyLost => account.accept nonce
  | .refused _ => account

def Submitter.attempt (s : Submitter) : SubmitterEvent → Outcome Submitter
  | .allocate now read => do
    ensure (s.manager.inUse = false) "the lock is held"
    let manager ← s.manager.allocate now (read.map fun _ => UInt64.ofNat s.account.pendingNonceAt)
    return { s with manager }
  | .use result => do
    ensure (s.manager.inUse = true) "not in use"
    return { account := broadcast s.account s.manager.next.toNat result, manager := s.manager.settle result }
  | .mine => .ok { s with account := s.account.mine }
  | .drop nonce => .ok { s with account := s.account.drop nonce }

open List

namespace Account

variable {account : Account}

theorem exists_pending (account : Account) : ∃ offset < account.pool.length + 1, account.mined + offset ∉ account.pool := by
  by_contra all
  push Not at all
  have distinct : ((range (account.pool.length + 1)).map (account.mined + ·)).Nodup :=
    List.Nodup.map (fun _ _ same => Nat.add_left_cancel same) nodup_range
  have inside : (range (account.pool.length + 1)).map (account.mined + ·) ⊆ account.pool := by
    intro nonce mem
    obtain ⟨offset, small, rfl⟩ := mem_map.mp mem
    exact all offset (mem_range.mp small)
  have long := (distinct.subperm inside).length_le
  rw [length_map, length_range] at long
  omega

theorem pending_spec (account : Account) : account.mined ≤ account.pendingNonceAt ∧ account.pendingNonceAt ∉ account.pool ∧
    ∀ nonce, account.mined ≤ nonce → nonce < account.pendingNonceAt → nonce ∈ account.pool := by
  obtain ⟨offset, small, free⟩ := exists_pending account
  unfold pendingNonceAt
  cases found : (range (account.pool.length + 1)).find? fun offset => account.mined + offset ∉ account.pool with
  | none =>
    have wrong := find?_eq_none.mp found offset (mem_range.mpr small)
    simp [free] at wrong
  | some least =>
    obtain ⟨outside, _, before⟩ := find?_range_eq_some.mp found
    refine ⟨Nat.le_add_right _ _, by simpa using outside, fun nonce above below => ?_⟩
    have earlier := before (nonce - account.mined) (by simp only [Option.getD_some] at below; omega)
    rw [Nat.add_sub_cancel' above] at earlier
    simpa using earlier

theorem pending_not_taken (account : Account) : ¬ account.Taken account.pendingNonceAt :=
  not_or.mpr ⟨Nat.not_lt.mpr account.pending_spec.1, account.pending_spec.2.1⟩

theorem taken_mine {nonce : Nat} (taken : account.mine.Taken nonce) : account.Taken nonce := by
  unfold mine at taken
  split at taken
  · rename_i here
    rcases taken with below | inside
    · rcases Nat.lt_succ_iff_lt_or_eq.mp below with below | rfl
      · exact .inl below
      · exact .inr here
    · exact .inr (mem_filter.mp inside).1
  · exact taken

theorem taken_drop {nonce other : Nat} (taken : (account.drop other).Taken nonce) : account.Taken nonce :=
  taken.imp id fun inside => (mem_filter.mp inside).1

theorem taken_accept {nonce other : Nat} (taken : (account.accept other).Taken nonce) : nonce = other ∨ account.Taken nonce := by
  rcases taken with below | inside
  · exact .inr (.inl below)
  · exact (mem_cons.mp inside).imp id .inr

end Account

def lastNonce : Nat := 0xFFFFFFFFFFFFFFFF

-- No transaction has the last nonce: a node refuses it, so that the count of the mined ones still fits.
structure Account.Fits (account : Account) : Prop where
  mined : account.mined ≤ lastNonce
  pool : ∀ nonce ∈ account.pool, nonce < lastNonce

theorem pending_fits {account : Account} (fits : account.Fits) : account.pendingNonceAt ≤ lastNonce := by
  by_contra large
  exact absurd (fits.pool _ (account.pending_spec.2.2 lastNonce fits.mined (by omega))) (Nat.lt_irrefl _)

theorem pending_read {account : Account} (fits : account.Fits) :
    (UInt64.ofNat account.pendingNonceAt).toNat = account.pendingNonceAt := by
  have small : account.pendingNonceAt < UInt64.size := Nat.lt_of_le_of_lt (pending_fits fits) (by decide)
  exact UInt64.toNat_ofNat_of_lt' small

def Account.Gapless (account : Account) : Prop := ∀ nonce ∈ account.pool, nonce < account.pendingNonceAt

def ReadsGapless (s : Submitter) : SubmitterEvent → Prop
  | .allocate _ _ => s.manager.initialized = false → s.account.Gapless
  | _ => True

def RefusesLast (s : Submitter) : SubmitterEvent → Prop
  | .use .accepted | .use .replyLost => s.manager.next.toNat ≠ lastNonce
  | _ => True

instance (account : Account) : Decidable account.Gapless :=
  inferInstanceAs (Decidable (∀ nonce ∈ account.pool, nonce < account.pendingNonceAt))

instance (s : Submitter) : DecidablePred (ReadsGapless s)
  | .allocate _ _ => inferInstanceAs (Decidable (s.manager.initialized = false → s.account.Gapless))
  | .use _ | .mine | .drop _ => .isTrue trivial

instance (s : Submitter) : DecidablePred (RefusesLast s)
  | .use .accepted | .use .replyLost => inferInstanceAs (Decidable (s.manager.next.toNat ≠ lastNonce))
  | .use (.refused _) | .allocate _ _ | .mine | .drop _ => .isTrue trivial

def Unused (s : Submitter) : Prop := s.manager.inUse = true → ¬ s.account.Taken s.manager.next.toNat

structure Sequenced (s : Submitter) : Prop where
  fits : s.account.Fits
  free : s.manager.initialized = true → ¬ s.account.Taken s.manager.next.toNat
  above : s.manager.initialized = true → s.manager.refill = false → ∀ nonce ≥ s.manager.next.toNat, ¬ s.account.Taken nonce
  held : s.manager.inUse = true → s.manager.initialized = true

open Submitter

section Steps

variable {account : Account} {manager : NonceManager} {s next : Submitter}

theorem fewer_sequenced {other : Account} (sequenced : Sequenced { account, manager }) (fits : other.Fits)
    (fewer : ∀ {nonce}, other.Taken nonce → account.Taken nonce) : Sequenced { account := other, manager } where
  fits := fits
  free initialized := mt fewer (sequenced.free initialized)
  above initialized whole nonce later := mt fewer (sequenced.above initialized whole nonce later)
  held := sequenced.held

theorem dropped_sequenced (fits : s.account.Fits) (dropped : s.manager.initialized = false) (free : s.manager.inUse = false) :
    Sequenced s :=
  ⟨fits, by simp [dropped], by simp [dropped], by simp [free]⟩

theorem mine_fits (fits : account.Fits) : account.mine.Fits := by
  unfold Account.mine
  split
  · rename_i here
    exact ⟨fits.pool _ here, fun nonce inside => fits.pool nonce (mem_filter.mp inside).1⟩
  · exact fits

theorem accept_fits (fits : account.Fits) {nonce : UInt64} (early : nonce.toNat ≠ lastNonce) :
    (account.accept nonce.toNat).Fits := by
  refine ⟨fits.mined, forall_mem_cons.mpr ⟨?_, fits.pool⟩⟩
  have small := nonce.toNat_lt
  rw [lastNonce] at early ⊢
  omega

theorem check_gap_cases (manager : NonceManager) (now : Readings) (pending : Outcome UInt64) :
    (manager.checkGap now pending).initialized = manager.initialized ∧
      (((manager.checkGap now pending).next = manager.next ∧ (manager.checkGap now pending).refill = manager.refill) ∨
        (.ok (manager.checkGap now pending).next = pending ∧ (manager.checkGap now pending).refill = true)) := by
  unfold checkGap
  split
  · simp
  · cases pending with
    | error reason => simp
    | ok pending =>
      dsimp only
      split
      · simp
      · split
        · simp
        · split
          · simp
          · split <;> simp

theorem allocate_sequenced {now : Readings} {read : Outcome Unit} (sequenced : Sequenced s)
    (gapless : ReadsGapless s (.allocate now read))
    (done : s.attempt (.allocate now read) = .ok next) : Sequenced next := by
  simp only [attempt, ok_iff, exists_const] at done
  obtain ⟨_, manager, allocated, rfl⟩ := done
  by_cases initialized : s.manager.initialized = true
  · rw [allocate, if_pos initialized] at allocated
    obtain rfl := Except.ok.inj allocated
    obtain ⟨still, ⟨same, refill⟩ | ⟨moved, refill⟩⟩ :=
      check_gap_cases s.manager now (read.map fun _ => UInt64.ofNat s.account.pendingNonceAt)
    · exact
        { fits := sequenced.fits
          free := fun _ => by simpa only [same] using sequenced.free initialized
          above := fun _ whole => by simpa only [same] using sequenced.above initialized (refill.symm.trans whole)
          held := fun _ => still.trans initialized }
    · obtain ⟨_, _, pending⟩ := map_ok_iff.mp moved.symm
      exact
        { fits := sequenced.fits
          free := fun _ => by simpa only [← pending, pending_read sequenced.fits] using s.account.pending_not_taken
          above := fun _ whole => absurd (refill.symm.trans whole) (by decide)
          held := fun _ => still.trans initialized }
  · rw [allocate, if_neg initialized] at allocated
    simp only [ok_iff, map_ok_iff] at allocated
    obtain ⟨_, ⟨_, _, rfl⟩, rfl⟩ := allocated
    have behind := gapless (by simpa using initialized)
    have read := pending_read sequenced.fits
    exact
      { fits := sequenced.fits
        free := fun _ => by simpa only [read] using s.account.pending_not_taken
        above := by
          simp only [read]
          rintro _ _ nonce later (below | inside)
          · exact absurd (Nat.lt_of_lt_of_le below s.account.pending_spec.1) (Nat.not_lt.mpr later)
          · exact absurd (behind nonce inside) (Nat.not_lt.mpr later)
        held := fun _ => rfl }

theorem settle_sequenced {result : Broadcast} (sequenced : Sequenced s) (refuses : RefusesLast s (.use result))
    (done : s.attempt (.use result) = .ok next) : Sequenced next := by
  simp only [attempt, ok_iff, exists_const] at done
  obtain ⟨inUse, rfl⟩ := done
  have initialized := sequenced.held inUse
  cases result with
  | accepted =>
    have fits := accept_fits sequenced.fits refuses
    by_cases refill : s.manager.refill = true
    · exact dropped_sequenced fits (by simp [NonceManager.settle, refill]) (by simp [NonceManager.settle, refill])
    · have whole : s.manager.refill = false := by simpa using refill
      have counted : (s.manager.next + 1).toNat = s.manager.next.toNat + 1 := by
        have small := s.manager.next.toNat_lt
        rw [RefusesLast, lastNonce] at refuses
        rw [UInt64.toNat_add]
        exact Nat.mod_eq_of_lt (by simp; omega)
      have later : ∀ nonce ≥ s.manager.next.toNat + 1, ¬ (s.account.accept s.manager.next.toNat).Taken nonce := by
        intro nonce after taken
        rcases Account.taken_accept taken with rfl | taken
        · omega
        · exact sequenced.above initialized whole nonce (by omega) taken
      refine ⟨fits, ?_, ?_, by simp [NonceManager.settle, whole]⟩
      · simpa [NonceManager.settle, whole, broadcast, initialized, counted] using later _ (Nat.le_refl _)
      · simpa [NonceManager.settle, whole, broadcast, initialized, counted] using later
  | refused mayBeConsumed =>
    cases mayBeConsumed with
    | true => exact dropped_sequenced sequenced.fits rfl rfl
    | false => exact ⟨sequenced.fits, sequenced.free, sequenced.above, by simp [NonceManager.settle]⟩
  | replyLost => exact dropped_sequenced (accept_fits sequenced.fits refuses) rfl rfl

theorem attempt_sequenced {event : SubmitterEvent} (sequenced : Sequenced s)
    (allowed : ReadsGapless s event ∧ RefusesLast s event) (done : s.attempt event = .ok next) : Sequenced next := by
  cases event with
  | allocate now read => exact allocate_sequenced sequenced allowed.1 done
  | use result => exact settle_sequenced sequenced allowed.2 done
  | mine =>
    obtain rfl := Except.ok.inj done
    exact fewer_sequenced sequenced (mine_fits sequenced.fits) Account.taken_mine
  | drop nonce =>
    obtain rfl := Except.ok.inj done
    exact fewer_sequenced sequenced ⟨sequenced.fits.mined, fun other inside => sequenced.fits.pool other (mem_filter.mp inside).1⟩
      Account.taken_drop

end Steps

theorem nonces_unused (account : Account) (fits : account.Fits) (events : List SubmitterEvent)
    (gapless : Along attempt ReadsGapless { account, manager := new } events)
    (refuses : Along attempt RefusesLast { account, manager := new } events) :
    Throughout attempt Unused { account, manager := new } events := by
  have start : Sequenced { account, manager := new } := dropped_sequenced fits rfl rfl
  have all := throughout_of_along (fun _ _ _ => attempt_sequenced) start ((along_and _ events).mpr ⟨gapless, refuses⟩)
  exact throughout_mono (fun s sequenced inUse => sequenced.free (sequenced.held inUse)) all

namespace Queued

def now : Readings := { interval := 0, read := 0, after := 0 }

def call (result : Broadcast) : List SubmitterEvent := [.allocate now (.ok ()), .use result]

def fresh : Submitter := { account := { mined := 0, pool := [] }, manager := new }

-- The reply to the third transaction is lost; the sequence is read again with two transactions in the pool.
def readAgain : List SubmitterEvent := call .accepted ++ call .accepted ++ .mine :: call .replyLost ++ call .accepted

theorem read_again_unused : Throughout attempt Unused fresh readAgain :=
  nonces_unused { mined := 0, pool := [] } ⟨by decide, by decide⟩ readAgain (by decide) (by decide)

-- The second of three transactions leaves the pool, and the reply to the fourth is lost. The sequence is read again and
-- fills the gap; the nonce after it is that of the third transaction, which is still in the pool.
def passedOver : Submitter :=
  run attempt fresh
    (call .accepted ++ call .accepted ++ call .accepted ++ .drop 1 :: call .replyLost ++ call .accepted ++
      [.allocate now (.ok ())])

theorem nonce_in_pool_used : passedOver.manager.inUse = true ∧ passedOver.account.Taken passedOver.manager.next.toNat := by
  decide

end Queued

end Panurus.Evm
