import Mathlib.Data.List.Perm.Basic
import Mathlib.Data.List.Nodup

namespace Lib

open List

-- What a semaphore with a queue keeps when its requests are for one permit each. A waiter is ready when the permit has
-- been set aside for it and it has not noticed yet.
structure Semaphore (W : Type) where
  cur : Nat
  waiters : List W
  ready : List W

namespace Semaphore

variable {W : Type} (size : Nat)

def new : Semaphore W := { cur := 0, waiters := [], ready := [] }

def queue (s : Semaphore W) : List W := s.waiters ++ s.ready

def serve (cur : Nat) (ready : List W) : List W → Semaphore W
  | [] => { cur, waiters := [], ready }
  | w :: rest => if cur < size then serve (cur + 1) (ready ++ [w]) rest else { cur, waiters := w :: rest, ready }

def notifyWaiters (s : Semaphore W) : Semaphore W := serve size s.cur s.ready s.waiters

def tryAcquire (s : Semaphore W) : Option (Semaphore W) :=
  if s.cur < size ∧ s.waiters = [] then some { s with cur := s.cur + 1 } else none

def enqueue (s : Semaphore W) (w : W) : Semaphore W := { s with waiters := s.waiters ++ [w] }

def release (s : Semaphore W) : Option (Semaphore W) :=
  if s.cur = 0 then none else some (notifyWaiters size { s with cur := s.cur - 1 })

structure Sound (s : Semaphore W) (inHand : Nat) : Prop where
  counts : s.cur = inHand + s.ready.length
  bounded : s.cur ≤ size
  distinct : s.queue.Nodup

variable {size} {s next : Semaphore W} {inHand : Nat} {w : W}

theorem serve_spec (cur : Nat) (ready waiters : List W) (bounded : cur ≤ size) :
    (serve size cur ready waiters).cur + ready.length = cur + (serve size cur ready waiters).ready.length ∧
      (serve size cur ready waiters).cur ≤ size ∧ (serve size cur ready waiters).queue.Perm (waiters ++ ready) := by
  induction waiters generalizing cur ready with
  | nil => exact ⟨rfl, bounded, .refl _⟩
  | cons w rest ih =>
    unfold serve
    split
    · rename_i free
      obtain ⟨counts, within, same⟩ := ih (cur + 1) (ready ++ [w]) free
      refine ⟨?_, within, same.trans ?_⟩
      · simp only [length_append, length_singleton] at counts
        omega
      · rw [← append_assoc]
        exact perm_append_comm
    · exact ⟨rfl, bounded, .refl _⟩

theorem notify_sound (sound : Sound size s inHand) :
    Sound size (notifyWaiters size s) inHand ∧ (notifyWaiters size s).queue.Perm s.queue := by
  obtain ⟨moved, within, same⟩ := serve_spec s.cur s.ready s.waiters sound.bounded
  refine ⟨⟨?_, within, same.nodup_iff.mpr sound.distinct⟩, same⟩
  have counts := sound.counts
  unfold notifyWaiters
  omega

theorem new_sound : Sound size (new : Semaphore W) 0 := ⟨rfl, Nat.zero_le _, nodup_nil⟩

theorem try_acquire_sound (sound : Sound size s inHand) (taken : tryAcquire size s = some next) :
    Sound size next (inHand + 1) ∧ next.queue = s.queue := by
  unfold tryAcquire at taken
  split at taken
  · rename_i free
    cases taken
    have counts := sound.counts
    exact ⟨⟨by dsimp only; omega, free.1, sound.distinct⟩, rfl⟩
  · cases taken

theorem enqueue_sound (sound : Sound size s inHand) (fresh : w ∉ s.queue) :
    Sound size (enqueue s w) inHand ∧ ∀ v, v ∈ (enqueue s w).queue ↔ v = w ∨ v ∈ s.queue := by
  have order : (enqueue s w).queue.Perm (w :: s.queue) := by
    simp only [queue, enqueue, append_assoc, singleton_append]
    exact perm_middle
  refine ⟨⟨sound.counts, sound.bounded, ?_⟩, fun v => ?_⟩
  · rw [order.nodup_iff, nodup_cons]
    exact ⟨fresh, sound.distinct⟩
  · rw [order.mem_iff, mem_cons]

theorem put_back_sound (sound : Sound size s (inHand + 1)) : Sound size { s with cur := s.cur - 1 } inHand := by
  have counts := sound.counts
  have bounded := sound.bounded
  exact ⟨by dsimp only; omega, by dsimp only; omega, sound.distinct⟩

theorem release_sound (sound : Sound size s (inHand + 1)) :
    ∃ next, release size s = some next ∧ Sound size next inHand ∧ next.queue.Perm s.queue := by
  obtain ⟨notified, same⟩ := notify_sound (put_back_sound sound)
  have some : s.cur ≠ 0 := by
    rw [sound.counts]
    omega
  exact ⟨_, if_neg some, notified, same⟩

variable [DecidableEq W]

def accept (s : Semaphore W) (w : W) : Option (Semaphore W) :=
  if w ∈ s.ready then some { s with ready := s.ready.erase w } else none

variable (size) in
-- A waiter that gives up hands on the permit if it was already set aside.
def abandon (s : Semaphore W) (w : W) : Semaphore W :=
  if w ∈ s.ready then notifyWaiters size { s with cur := s.cur - 1, ready := s.ready.erase w }
  else if s.waiters.head? = some w ∧ s.cur < size then notifyWaiters size { s with waiters := s.waiters.erase w }
  else { s with waiters := s.waiters.erase w }

theorem accept_sound (sound : Sound size s inHand) (accepted : accept s w = some next) :
    Sound size next (inHand + 1) ∧ ∀ v, v ∈ next.queue ↔ v ≠ w ∧ v ∈ s.queue := by
  unfold accept at accepted
  split at accepted
  · rename_i granted
    cases accepted
    obtain ⟨waiting, set_aside, apart⟩ := nodup_append.mp sound.distinct
    have counts := sound.counts
    have shorter := length_erase_of_mem granted
    have some := length_pos_of_mem granted
    refine ⟨⟨by dsimp only; omega, sound.bounded, ?_⟩, fun v => ?_⟩
    · exact nodup_append.mpr ⟨waiting, set_aside.erase w, fun v first u second => apart v first u (mem_of_mem_erase second)⟩
    · simp only [queue, mem_append, set_aside.mem_erase_iff]
      tauto
  · cases accepted

theorem leave_sound (sound : Sound size s inHand) (aside : w ∉ s.ready) :
    Sound size { s with waiters := s.waiters.erase w } inHand ∧
      ∀ v, v ∈ queue { s with waiters := s.waiters.erase w } ↔ v ≠ w ∧ v ∈ s.queue := by
  obtain ⟨waiting, set_aside, apart⟩ := nodup_append.mp sound.distinct
  refine ⟨⟨sound.counts, sound.bounded, ?_⟩, fun v => ?_⟩
  · exact nodup_append.mpr
      ⟨waiting.erase w, set_aside, fun v first u second => apart v (mem_of_mem_erase first) u second⟩
  · simp only [queue, mem_append, waiting.mem_erase_iff]
    have other : v ∈ s.ready → v ≠ w := fun granted same => aside (same ▸ granted)
    tauto

theorem abandon_sound (sound : Sound size s inHand) :
    Sound size (abandon size s w) inHand ∧ ∀ v, v ∈ (abandon size s w).queue ↔ v ≠ w ∧ v ∈ s.queue := by
  unfold abandon
  split
  · rename_i granted
    obtain ⟨accepted, members⟩ := accept_sound sound (if_pos granted)
    obtain ⟨notified, same⟩ := notify_sound (put_back_sound accepted)
    exact ⟨notified, fun v => same.mem_iff.trans (members v)⟩
  · rename_i aside
    obtain ⟨left, members⟩ := leave_sound sound aside
    split
    · obtain ⟨notified, same⟩ := notify_sound left
      exact ⟨notified, fun v => same.mem_iff.trans (members v)⟩
    · exact ⟨left, members⟩

end Semaphore

open Semaphore

-- A semaphore that is known by its operations and their laws alone. To release more than is held is a panic.
class Weighted (size : outParam Nat) (W : outParam Type) (S : Type) where
  view : S → Semaphore W
  new : S
  tryAcquire : S → Option S
  enqueue : S → W → S
  accept : S → W → Option S
  abandon : S → W → S
  release : S → Option S
  new_view : view new = Semaphore.new
  try_acquire_sound {s next : S} {inHand : Nat} : Sound size (view s) inHand → tryAcquire s = some next →
    Sound size (view next) (inHand + 1) ∧ (view next).queue = (view s).queue
  enqueue_sound {s : S} {inHand : Nat} {w : W} : Sound size (view s) inHand → w ∉ (view s).queue →
    Sound size (view (enqueue s w)) inHand ∧ ∀ v, v ∈ (view (enqueue s w)).queue ↔ v = w ∨ v ∈ (view s).queue
  accept_sound {s next : S} {inHand : Nat} {w : W} : Sound size (view s) inHand → accept s w = some next →
    Sound size (view next) (inHand + 1) ∧ ∀ v, v ∈ (view next).queue ↔ v ≠ w ∧ v ∈ (view s).queue
  abandon_sound {s : S} {inHand : Nat} {w : W} : Sound size (view s) inHand →
    Sound size (view (abandon s w)) inHand ∧ ∀ v, v ∈ (view (abandon s w)).queue ↔ v ≠ w ∧ v ∈ (view s).queue
  release_sound {s : S} {inHand : Nat} : Sound size (view s) (inHand + 1) →
    ∃ next, release s = some next ∧ Sound size (view next) inHand ∧ (view next).queue.Perm (view s).queue

def Queued (_size : Nat) (W : Type) : Type := Semaphore W

instance {size : Nat} {W : Type} [DecidableEq W] : Weighted size W (Queued size W) where
  view := id
  new := new
  tryAcquire := tryAcquire size
  enqueue := enqueue
  accept := accept
  abandon := abandon size
  release := release size
  new_view := rfl
  try_acquire_sound := try_acquire_sound
  enqueue_sound := enqueue_sound
  accept_sound := accept_sound
  abandon_sound := abandon_sound
  release_sound := release_sound

end Lib
