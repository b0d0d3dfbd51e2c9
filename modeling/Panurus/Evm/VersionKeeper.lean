import Panurus.Evm.AbiDecode

namespace Panurus.Evm.VersionKeeper

open List Lib Outcome Attempts

-- A version, and how many invalidations came before its read, which no step looks at.
structure Reading where
  version : UInt64
  invalidations : Nat
deriving DecidableEq, Repr

structure Keeper where
  version : Reading
  initialized : Bool

-- Where a call of Sync or GetVersion is: before the lookup in the cache, before the read of the chain, before the store.
inductive Phase where
  | checking
  | reading
  | storing (found : Reading)
  | returned (result : Outcome Reading)

-- A call, and how many invalidations were over when it started.
structure Call where
  invalidations : Nat
  phase : Phase

structure System where
  keeper : Keeper
  calls : List Call
  invalidations : Nat

inductive Event where
  | sync
  | getVersion
  | check (k : Nat)
  | read (k : Nat) (answer : Outcome Bytes)
  | store (k : Nat)
  | invalidate

def disabled : String := "disabled"

def readVersion (answer : Outcome Bytes) : Outcome UInt64 := do
  let raw ← wrap "failed to read the public parameters version" answer
  match Abi.decodeUint64 raw with
  | .ok version => return version
  | .error (.error text) => .error s!"failed to decode the public parameters version: {text}"
  | .error (.panic text) => .error s!"panic: {text}"

namespace System

def new : System := { keeper := { version := ⟨0, 0⟩, initialized := false }, calls := [], invalidations := 0 }

def start (s : System) (phase : Phase) : System := { s with calls := s.calls ++ [{ invalidations := s.invalidations, phase }] }

def move (s : System) (k : Nat) (call : Call) (phase : Phase) : System := { s with calls := s.calls.set k { call with phase } }

def step (s : System) : Event → Outcome System
  | .sync => return s.start .reading
  | .getVersion => return s.start .checking
  | .check k => do
    let call ← required s.calls[k]? disabled
    match call.phase with
    | .checking => return s.move k call (if s.keeper.initialized then .returned (.ok s.keeper.version) else .reading)
    | _ => .error disabled
  | .read k answer => do
    let call ← required s.calls[k]? disabled
    match call.phase, readVersion answer with
    | .reading, .ok version => return s.move k call (.storing ⟨version, s.invalidations⟩)
    | .reading, .error cause => return s.move k call (.returned (.error cause))
    | _, _ => .error disabled
  | .store k => do
    let call ← required s.calls[k]? disabled
    match call.phase with
    | .storing found => return { s.move k call (.returned (.ok found)) with keeper := { version := found, initialized := true } }
    | _ => .error disabled
  | .invalidate => return { s with
      keeper := { s.keeper with initialized := false }, invalidations := s.invalidations + 1 }

end System

-- What a call returned was read after every invalidation that was over when the call started.
def Justified (s : System) : Prop :=
  ∀ call ∈ s.calls, ∀ found, call.phase = .returned (.ok found) → call.invalidations ≤ found.invalidations

-- No call is between its read and its store when the cache is invalidated.
def Apart (s : System) (event : Event) : Prop :=
  event = .invalidate → ∀ call ∈ s.calls, ∀ found, call.phase ≠ .storing found

def Call.Fresh (invalidations : Nat) (call : Call) : Prop :=
  call.invalidations ≤ invalidations ∧ match call.phase with
    | .storing found => found.invalidations = invalidations
    | .returned (.ok found) => call.invalidations ≤ found.invalidations
    | _ => True

structure Fresh (s : System) : Prop where
  cached : s.keeper.initialized → s.keeper.version.invalidations = s.invalidations
  calls : ∀ call ∈ s.calls, call.Fresh s.invalidations

open VersionKeeper.System

section

variable {s next : System} {k : Nat} {call : Call} {phase : Phase} {event : Event} (fresh : Fresh s)
include fresh

theorem start_fresh (new : Call.Fresh s.invalidations { invalidations := s.invalidations, phase }) : Fresh (s.start phase) := by
  refine ⟨fresh.cached, fun call mem => ?_⟩
  rcases mem_append.mp mem with old | last
  · exact fresh.calls call old
  · exact mem_singleton.mp last ▸ new

theorem move_fresh (found : s.calls[k]? = some call)
    (moved : call.Fresh s.invalidations → Call.Fresh s.invalidations { call with phase }) : Fresh (s.move k call phase) := by
  refine ⟨fresh.cached, fun other mem => ?_⟩
  rcases mem_or_eq_of_mem_set mem with old | rfl
  · exact fresh.calls other old
  · exact moved (fresh.calls call (mem_of_getElem? found))

theorem invalidate_fresh (apart : Apart s .invalidate) (mem : call ∈ s.calls) : call.Fresh (s.invalidations + 1) := by
  obtain ⟨begun, phase⟩ := fresh.calls call mem
  refine ⟨Nat.le_succ_of_le begun, ?_⟩
  split
  · rename_i found storing
    exact absurd storing (apart rfl call mem found)
  · rename_i found returned
    rwa [returned] at phase
  · trivial

theorem step_fresh (apart : Apart s event) (stepped : s.step event = .ok next) : Fresh next := by
  cases event with simp only [step, ok_iff] at stepped
  | sync | getVersion =>
    subst stepped
    exact start_fresh fresh ⟨le_refl _, trivial⟩
  | check k =>
    obtain ⟨call, found, stepped⟩ := stepped
    split at stepped
    · cases stepped
      refine move_fresh fresh found fun before => ⟨before.1, ?_⟩
      split_ifs with initialized
      · exact before.1.trans_eq (fresh.cached initialized).symm
      · trivial
    · cases stepped
  | read k answer =>
    obtain ⟨call, found, stepped⟩ := stepped
    split at stepped
    · cases stepped
      exact move_fresh fresh found fun before => ⟨before.1, rfl⟩
    · cases stepped
      exact move_fresh fresh found fun before => ⟨before.1, trivial⟩
    · cases stepped
  | store k =>
    obtain ⟨call, found, stepped⟩ := stepped
    split at stepped
    · rename_i value storing
      cases stepped
      obtain ⟨begun, current⟩ := fresh.calls call (mem_of_getElem? found)
      rw [storing] at current
      have moved : Fresh (s.move k call (.returned (.ok value))) :=
        move_fresh fresh found fun _ => ⟨begun, begun.trans_eq current.symm⟩
      exact ⟨fun _ => current, moved.calls⟩
    · cases stepped
  | invalidate =>
    subst stepped
    exact ⟨by simp, fun call mem => invalidate_fresh fresh apart mem⟩

end

theorem version_keeper_fresh (events : List Event) (apart : Along step Apart .new events) : Justified (run step .new events) := by
  have initial : Fresh .new := ⟨by simp [new], by simp [new]⟩
  have all := throughout_of_along (fun _ _ _ fresh apart stepped => step_fresh fresh apart stepped) initial apart
  intro call mem found returned
  obtain ⟨-, served⟩ := (throughout_run all).calls call mem
  rwa [returned] at served

def answer (version : UInt8) : Outcome Bytes := .ok (replicate 31 0 ++ [version])

def refreshing : List Event :=
  [.sync, .read 0 (answer 7), .store 0, .invalidate, .getVersion, .check 1, .read 1 (answer 8), .store 1]

theorem refreshed_version_served : Along step Apart .new refreshing ∧ Justified (run step .new refreshing) := by
  have apart : Along step Apart .new refreshing := by
    refine ⟨by simp [Apart], by simp [Apart], by simp [Apart], fun _ call mem found held => ?_, by simp [Apart], by simp [Apart],
      by simp [Apart], by simp [Apart], trivial⟩
    rw [mem_singleton.mp mem] at held
    cases held
  exact ⟨apart, version_keeper_fresh refreshing apart⟩

-- The read of a Sync comes before an invalidation, and its store after it.
theorem stale_version_served :
    ¬ Justified (run step .new [.sync, .read 0 (answer 7), .invalidate, .store 0, .getVersion, .check 1]) := by
  intro justified
  have served := justified ⟨1, .returned (.ok ⟨7, 0⟩)⟩ (mem_cons_of_mem _ mem_cons_self) ⟨7, 0⟩ rfl
  exact absurd served (by decide)

end Panurus.Evm.VersionKeeper
