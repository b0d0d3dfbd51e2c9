import Panurus.Cleanup.Manager

namespace Panurus.Cleanup

open List Lib Outcome Attempts

-- A worker takes a token, deletes its keys and marks it, unless a key could not be deleted.
inductive Duty where
  | idle
  | started (token : DeletedToken)
  | deleting (token : DeletedToken) (skis : List Bytes) (failed : Bool)
  | exited
deriving DecidableEq, Repr

structure Worker where
  sweep : Nat
  duty : Duty
deriving DecidableEq, Repr

-- Where cleanupLoop is, with the tokens of a sweep that are still to be handed out.
inductive Loop where
  | waiting
  | leading
  | dispatching (tokens : List DeletedToken)
  | joining
  | releasing
  | ended
deriving DecidableEq, Repr

-- A deletion of a key or a MarkTokenCleaned: whether the leadership of its sweep was held, and whether Stop had returned.
structure Effect where
  led : Bool
  stopped : Bool
deriving DecidableEq, Repr

structure Sweeps where
  workerCount : Nat
  loop : Loop
  sweep : Nat
  workers : List Worker
  cancelled : Bool
  stopped : Bool
  effects : List Effect
deriving DecidableEq, Repr

inductive Action where
  | acquire (acquired : Bool)
  | query (tokens : List DeletedToken)
  | send (k : Nat)
  | giveUp
  | close
  | join
  | release
  | leave
  | exit (k : Nat)
  | derive (k : Nat) (skis : Outcome (List Bytes))
  | delete (k : Nat) (deleted : Bool)
  | finish (k : Nat)
  | stop
  | stopped
deriving Repr

def disabled : String := "disabled"

def Loop.led : Loop → Bool
  | .waiting | .ended => false
  | _ => true

namespace Sweeps

def new (workerCount : Nat) : Sweeps :=
  { workerCount, loop := .waiting, sweep := 0, workers := [], cancelled := false, stopped := false, effects := [] }

def assign (s : Sweeps) (k : Nat) (w : Worker) (duty : Duty) : Sweeps := { s with workers := s.workers.set k { w with duty } }

def act (s : Sweeps) (w : Worker) : Sweeps :=
  { s with effects := s.effects ++ [{ led := w.sweep = s.sweep ∧ s.loop.led, stopped := s.stopped }] }

-- A ticker may start one more sweep when the context is cancelled already. A query that fails ends the sweep like one
-- that finds nothing. A dispatcher that is cancelled waits for no worker, and does not close the channel of the tokens.
def step (s : Sweeps) : Action → Outcome Sweeps
  | .acquire acquired => do
    ensure (s.loop = .waiting) disabled
    return if acquired then { s with loop := .leading, sweep := s.sweep + 1 } else s
  | .query tokens => do
    ensure (s.loop = .leading) disabled
    if tokens = [] then return { s with loop := .releasing }
    else
      let started := replicate s.workerCount { sweep := s.sweep, duty := .idle }
      return { s with loop := .dispatching tokens, workers := s.workers ++ started }
  | .send k => do
    let w ← required s.workers[k]? disabled
    ensure (w.sweep = s.sweep ∧ w.duty = .idle) disabled
    match s.loop with
    | .dispatching (token :: tokens) => return { s.assign k w (.started token) with loop := .dispatching tokens }
    | _ => .error disabled
  | .giveUp => do
    ensure (s.cancelled) disabled
    match s.loop with
    | .dispatching (_ :: _) => return { s with loop := .releasing }
    | _ => .error disabled
  | .close => do
    ensure (s.loop = .dispatching []) disabled
    return { s with loop := .joining }
  | .join => do
    ensure (s.loop = .joining ∧ ∀ w ∈ s.workers, w.sweep = s.sweep → w.duty = .exited) disabled
    return { s with loop := .releasing }
  | .release => do
    ensure (s.loop = .releasing) disabled
    return { s with loop := .waiting }
  | .leave => do
    ensure (s.loop = .waiting ∧ s.cancelled) disabled
    return { s with loop := .ended }
  | .exit k => do
    let w ← required s.workers[k]? disabled
    ensure (w.duty = .idle ∧ (s.cancelled ∨ s.loop = .joining ∧ w.sweep = s.sweep)) disabled
    return s.assign k w .exited
  | .derive k skis => do
    let w ← required s.workers[k]? disabled
    match w.duty, skis with
    | .started token, .ok skis => return s.assign k w (.deleting token skis false)
    | .started _, .error _ => return s.assign k w .idle
    | _, _ => .error disabled
  | .delete k deleted => do
    let w ← required s.workers[k]? disabled
    match w.duty with
    | .deleting token (_ :: skis) failed => return (s.act w).assign k w (.deleting token skis (failed || ! deleted))
    | _ => .error disabled
  | .finish k => do
    let w ← required s.workers[k]? disabled
    match w.duty with
    | .deleting _ [] failed => return (if failed then s else s.act w).assign k w .idle
    | _ => .error disabled
  | .stop => return { s with cancelled := true }
  | .stopped => do
    ensure (s.cancelled ∧ s.loop = .ended) disabled
    return { s with stopped := true }

end Sweeps

open Sweeps

def Duty.busy : Duty → Bool
  | .idle | .exited => false
  | _ => true

def Loop.handsOut : Loop → Bool
  | .dispatching _ | .joining => true
  | _ => false

-- When a dispatcher is cancelled, no worker has a token in hand.
def Calm (s : Sweeps) (action : Action) : Prop := action = .giveUp → ∀ w ∈ s.workers, w.duty.busy = false

structure Orderly (s : Sweeps) : Prop where
  busy : ∀ w ∈ s.workers, w.duty.busy → w.sweep = s.sweep ∧ s.loop.handsOut
  ended : s.stopped → s.loop = .ended
  effects : ∀ e ∈ s.effects, e.led ∧ e.stopped = false

variable {s next : Sweeps} {k : Nat} {w : Worker} {action : Action}

section

variable (orderly : Orderly s)
include orderly

theorem assign_orderly {duty : Duty} (busy : duty.busy → w.sweep = s.sweep ∧ s.loop.handsOut) : Orderly (s.assign k w duty) := by
  refine ⟨fun other mem working => ?_, orderly.ended, orderly.effects⟩
  rcases mem_or_eq_of_mem_set mem with old | rfl
  · exact orderly.busy other old working
  · exact busy working

theorem act_orderly (found : s.workers[k]? = some w) (busy : w.duty.busy) : Orderly (s.act w) := by
  obtain ⟨same, handsOut⟩ := orderly.busy w (mem_of_getElem? found) busy
  have led : s.loop.led := by
    revert handsOut
    cases s.loop <;> simp [Loop.handsOut, Loop.led]
  have going : s.stopped = false := by
    by_contra stopped
    rw [orderly.ended (by simpa using stopped)] at handsOut
    cases handsOut
  refine ⟨orderly.busy, orderly.ended, fun e mem => ?_⟩
  rcases mem_append.mp mem with old | new
  · exact orderly.effects e old
  · simp [mem_singleton.mp new, same, led, going]

theorem resume_orderly {loop : Loop} (before : s.loop.handsOut) (after : loop.handsOut) : Orderly { s with loop } := by
  refine ⟨fun w mem busy => ⟨(orderly.busy w mem busy).1, after⟩, fun stopped => ?_, orderly.effects⟩
  rw [orderly.ended stopped] at before
  cases before

theorem quiet_orderly {loop : Loop} {sweep : Nat} {workers : List Worker} (going : s.loop ≠ .ended)
    (idle : ∀ w ∈ workers, w.duty.busy = false) : Orderly { s with loop, sweep, workers } := by
  refine ⟨fun w mem busy => ?_, fun stopped => absurd (orderly.ended stopped) going, orderly.effects⟩
  rw [idle w mem] at busy
  cases busy

theorem nobody_busy (kept : s.loop.handsOut = false) : ∀ w ∈ s.workers, w.duty.busy = false := by
  intro w mem
  by_contra busy
  have handsOut := (orderly.busy w mem (by simpa using busy)).2
  simp [kept] at handsOut

theorem step_orderly (calm : Calm s action) (stepped : s.step action = .ok next) : Orderly next := by
  cases action with simp only [step, ok_iff] at stepped
  | acquire acquired =>
    obtain ⟨_, waiting, rfl⟩ := stepped
    split
    · exact quiet_orderly orderly (by simp [waiting]) (nobody_busy orderly (by rw [waiting]; rfl))
    · exact orderly
  | query tokens =>
    obtain ⟨_, leading, stepped⟩ := stepped
    have idle := nobody_busy orderly (by rw [leading]; rfl)
    split at stepped
    · cases stepped
      exact quiet_orderly orderly (by simp [leading]) idle
    · cases stepped
      refine quiet_orderly orderly (by simp [leading]) fun w mem => ?_
      rcases mem_append.mp mem with old | new
      · exact idle w old
      · rw [eq_of_mem_replicate new]
        rfl
  | send k =>
    obtain ⟨w, found, _, own, stepped⟩ := stepped
    split at stepped
    · rename_i token tokens dispatching
      cases stepped
      have before : s.loop.handsOut := by rw [dispatching]; rfl
      exact resume_orderly (assign_orderly orderly fun _ => ⟨own.1, before⟩) before rfl
    · cases stepped
  | giveUp =>
    obtain ⟨_, _, stepped⟩ := stepped
    split at stepped
    · rename_i dispatching
      cases stepped
      exact quiet_orderly orderly (by simp [dispatching]) (calm rfl)
    · cases stepped
  | close =>
    obtain ⟨_, dispatching, rfl⟩ := stepped
    exact resume_orderly orderly (by rw [dispatching]; rfl) rfl
  | join =>
    obtain ⟨_, ⟨joining, exited⟩, rfl⟩ := stepped
    refine quiet_orderly orderly (by simp [joining]) fun w mem => ?_
    by_contra busy
    have working : w.duty.busy := by simpa using busy
    rw [exited w mem (orderly.busy w mem working).1] at working
    cases working
  | release =>
    obtain ⟨_, releasing, rfl⟩ := stepped
    exact quiet_orderly orderly (by simp [releasing]) (nobody_busy orderly (by rw [releasing]; rfl))
  | leave =>
    obtain ⟨_, ⟨waiting, _⟩, rfl⟩ := stepped
    exact quiet_orderly orderly (by simp [waiting]) (nobody_busy orderly (by rw [waiting]; rfl))
  | exit k =>
    obtain ⟨w, _, _, _, rfl⟩ := stepped
    exact assign_orderly orderly (by simp [Duty.busy])
  | derive k skis =>
    obtain ⟨w, found, stepped⟩ := stepped
    have working := orderly.busy w (mem_of_getElem? found)
    split at stepped
    · rename_i token skis started
      cases stepped
      exact assign_orderly orderly fun _ => working (by rw [started]; rfl)
    · cases stepped
      exact assign_orderly orderly (by simp [Duty.busy])
    · cases stepped
  | delete k deleted =>
    obtain ⟨w, found, stepped⟩ := stepped
    split at stepped
    · rename_i token ski skis failed deleting
      cases stepped
      have busy : w.duty.busy := by rw [deleting]; rfl
      exact assign_orderly (act_orderly orderly found busy) fun _ => orderly.busy w (mem_of_getElem? found) busy
    · cases stepped
  | finish k =>
    obtain ⟨w, found, stepped⟩ := stepped
    split at stepped
    · rename_i token failed deleting
      cases stepped
      refine assign_orderly ?_ (by simp [Duty.busy])
      split
      · exact orderly
      · exact act_orderly orderly found (by rw [deleting]; rfl)
    · cases stepped
  | stop =>
    subst stepped
    exact ⟨orderly.busy, orderly.ended, orderly.effects⟩
  | stopped =>
    obtain ⟨_, ⟨_, ended⟩, rfl⟩ := stepped
    exact ⟨orderly.busy, fun _ => ended, orderly.effects⟩

end

theorem cleanup_under_leadership (workerCount : Nat) (actions : List Action) (calm : Along step Calm (.new workerCount) actions) :
    ∀ e ∈ (run step (.new workerCount) actions).effects, e.led ∧ e.stopped = false := by
  have initial : Orderly (.new workerCount) := ⟨by simp [new], by simp [new], by simp [new]⟩
  have all := throughout_of_along (fun _ _ _ orderly calm stepped => step_orderly orderly calm stepped) initial calm
  exact (throughout_run all).effects

namespace TwoTokens

def token (index : UInt64) : DeletedToken :=
  { id := { txId := [9], index }, ownerIdentity := [1], ownerType := [2], deletedAt := none }

def cleaning : List Action := [.derive 0 (.ok [[7]]), .delete 0 true, .finish 0]

-- Stop comes when the first of two tokens is cleaned: the dispatcher gives up the second, and the worker is idle.
def interrupted : List Action :=
  [.acquire true, .query [token 0, token 1], .send 0] ++ cleaning ++ [.stop, .giveUp, .exit 0, .release, .leave, .stopped]

theorem idle_worker_led : Along step Calm (.new 1) interrupted ∧
    (run step (.new 1) interrupted).effects = [{ led := true, stopped := false }, { led := true, stopped := false }] ∧
    ∀ e ∈ (run step (.new 1) interrupted).effects, e.led ∧ e.stopped = false := by
  have calm : Along step Calm (.new 1) interrupted := by
    simp [interrupted, cleaning, Along, Calm]
    decide
  exact ⟨calm, by decide, cleanup_under_leadership 1 interrupted calm⟩

-- Stop comes while the worker has the first of two tokens: the key goes when the leadership is closed and Stop is over.
theorem key_deleted_after_stop :
    (run step (.new 1) ([.acquire true, .query [token 0, token 1], .send 0, .stop, .giveUp, .release, .leave, .stopped] ++
      cleaning)).effects = [{ led := false, stopped := true }, { led := false, stopped := true }] := by
  decide

end TwoTokens

end Panurus.Cleanup
