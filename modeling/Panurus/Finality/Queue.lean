import Panurus.Lib.Attempts
import Panurus.Lib.Outcome
import Panurus.Lib.Pointwise
import Panurus.Lib.Tally

namespace Panurus.Finality

open List Lib Outcome Attempts Tally

variable {E : Type}

inductive EnqueueError where
  | queueClosed
  | queueFull
  | context
  deriving DecidableEq, Repr

-- A call has the read lock from the second stage on until it returns, with no error or with one.
inductive Sending where
  | called
  | locked
  | selecting
  | lowering (err : EnqueueError)
  | returned (err : Option EnqueueError)
  deriving DecidableEq, Repr

-- A call of Enqueue, or of EnqueueBlocking, and whether the queue was closed when it began.
structure Sender (E : Type) where
  event : E
  blocking : Bool
  late : Bool
  stage : Sending

-- A worker that has received an event lowers the gauge, and then gives the event to Process.
inductive Working (E : Type) where
  | waiting
  | received (event : E)
  | lowered (event : E)
  | processing (event : E)
  | stopped
  deriving DecidableEq, Repr

-- What Shutdown has done last. A writer that has announced itself keeps out new readers, and waits for the old ones.
inductive Stopping where
  | running
  | called
  | announced
  | flagged
  | unlocked
  | cancelled
  | announcedAgain
  | lockedAgain
  | channelClosed
  | returned
  deriving DecidableEq, Repr

namespace Stopping

def next : Stopping → Stopping
  | .running => .called
  | .called => .announced
  | .announced => .flagged
  | .flagged => .unlocked
  | .unlocked => .cancelled
  | .cancelled => .announcedAgain
  | .announcedAgain => .lockedAgain
  | .lockedAgain => .channelClosed
  | .channelClosed | .returned => .returned

-- Nobody else closes the queue or the channel, or cancels the context.
def isClosed (s : Stopping) : Bool := s ∉ [.running, .called, .announced]

def isCancelled (s : Stopping) : Bool := s ∈ [.cancelled, .announcedAgain, .lockedAgain, .channelClosed, .returned]

def isChannelClosed (s : Stopping) : Bool := s ∈ [.channelClosed, .returned]

def holds (s : Stopping) : Bool := s ∈ [.flagged, .lockedAgain, .channelClosed]

def waits (s : Stopping) : Bool := s ∈ [.announced, .announcedAgain]

end Stopping

def Sending.reading : Sending → Bool
  | .called | .returned _ => false
  | _ => true

def Sending.raised : Sending → Bool
  | .selecting | .lowering _ => true
  | _ => false

def Working.inHand : Working E → Option E
  | .received event => some event
  | _ => none

def Working.toGive : Working E → Option E
  | .lowered event => some event
  | _ => none

def Working.held (w : Working E) : Option E := w.inHand.or w.toGive

-- The last three fields are for the proofs: the events accepted, taken and given to Process, in their order.
structure EventQueue (E : Type) where
  capacity : Nat
  room : 0 < capacity
  events : List E
  pending : Int
  panicked : Bool
  senders : List (Sender E)
  workers : List (Working E)
  shutdown : Stopping
  accepted : List E
  taken : List E
  processed : List E

-- Where several cases of a select are ready, which one is taken.
inductive Way where
  | go
  | context
  | done
  deriving DecidableEq, Repr

inductive Action (E : Type) where
  | call (event : E) (blocking : Bool)
  | sender (k : Nat) (way : Way)
  | worker (k : Nat) (way : Way)
  | shutdown

def disabled : String := "disabled"

namespace EventQueue

def new (E : Type) (capacity workers : Nat) (room : 0 < capacity) : EventQueue E :=
  { capacity, room, events := [], pending := 0, panicked := false, senders := [], workers := replicate workers .waiting,
    shutdown := .running, accepted := [], taken := [], processed := [] }

def moveSender (q : EventQueue E) (k : Nat) (s : Sender E) (stage : Sending) : EventQueue E :=
  { q with senders := q.senders.set k { s with stage } }

def moveWorker (q : EventQueue E) (k : Nat) (w : Working E) : EventQueue E := { q with workers := q.workers.set k w }

-- Sending on a closed channel panics. A call that is not blocking gives up when there is no room.
def enqueue (q : EventQueue E) (k : Nat) (s : Sender E) : Sending → Way → Outcome (EventQueue E)
  | .called, .go => do
    ensure (¬ (q.shutdown.waits ∨ q.shutdown.holds)) disabled
    return q.moveSender k s .locked
  | .called, .context => do
    ensure (s.blocking) disabled
    return q.moveSender k s (.returned (some .context))
  | .locked, .go =>
    if q.shutdown.isClosed then return q.moveSender k s (.returned (some .queueClosed))
    else return { q.moveSender k s .selecting with pending := q.pending + 1 }
  | .selecting, .go =>
    if q.shutdown.isChannelClosed then return { q with panicked := true }
    else if q.events.length < q.capacity then
      return { q.moveSender k s (.returned none) with
        events := q.events ++ [s.event], accepted := q.accepted ++ [s.event] }
    else do
      ensure (¬ s.blocking) disabled
      return q.moveSender k s (.lowering .queueFull)
  | .selecting, .context => do
    ensure (s.blocking) disabled
    return q.moveSender k s (.lowering .context)
  | .selecting, .done => do
    ensure (s.blocking ∧ q.shutdown.isCancelled) disabled
    return q.moveSender k s (.lowering .queueClosed)
  | .lowering err, .go => return { q.moveSender k s (.returned (some err)) with pending := q.pending - 1 }
  | _, _ => .error disabled

-- Process returns when its context is cancelled, and for some events before that. A panic in it is recovered from, and
-- the worker starts again.
def runWorker (returns : E → Bool) (q : EventQueue E) (k : Nat) : Working E → Way → Outcome (EventQueue E)
  | .waiting, .go =>
    match q.events with
    | event :: rest => return { q.moveWorker k (.received event) with events := rest, taken := q.taken ++ [event] }
    | [] => do
      ensure (q.shutdown.isChannelClosed) disabled
      return q.moveWorker k .stopped
  | .waiting, .done => do
    ensure (q.shutdown.isCancelled) disabled
    return q.moveWorker k .stopped
  | .received event, .go => return { q.moveWorker k (.lowered event) with pending := q.pending - 1 }
  | .lowered event, .go => return { q.moveWorker k (.processing event) with processed := q.processed ++ [event] }
  | .processing event, .go => do
    ensure (returns event ∨ q.shutdown.isCancelled) disabled
    return q.moveWorker k .waiting
  | _, _ => .error disabled

-- A further call of Shutdown waits for the first one and does nothing. The wait for the workers may end by a timeout.
def step (returns : E → Bool) (q : EventQueue E) : Action E → Outcome (EventQueue E)
  | .call event blocking =>
    return { q with senders := q.senders ++ [{ event, blocking, late := q.shutdown.isClosed, stage := .called }] }
  | .sender k way => do
    let s ← required q.senders[k]? disabled
    q.enqueue k s s.stage way
  | .worker k way => do
    let w ← required q.workers[k]? disabled
    q.runWorker returns k w way
  | .shutdown => do
    ensure (q.shutdown ≠ .returned ∧ (q.shutdown.waits → ∀ s ∈ q.senders, ¬ s.stage.reading)) disabled
    return { q with shutdown := q.shutdown.next }

end EventQueue

open EventQueue Working

-- A call that began after the queue was closed: it can only be refused, or give up before it looks.
def Sender.Refused (s : Sender E) : Prop :=
  s.stage = .called ∨ s.stage = .locked ∨ s.stage = .returned (some .queueClosed) ∨
    s.blocking ∧ s.stage = .returned (some .context)

open Sending

theorem Sender.not_refused {s : Sender E} (raised : s.stage.raised) : ¬ s.Refused := by
  rintro (called | locked | closed | ⟨_, context⟩)
  · simp [called, Sending.raised] at raised
  · simp [locked, Sending.raised] at raised
  · simp [closed, Sending.raised] at raised
  · simp [context, Sending.raised] at raised

variable {q next : EventQueue E} {k : Nat} {s : Sender E} {w : Working E} {stage : Sending} {way : Way} {returns : E → Bool}

section Enabled

-- Shutdown waits for senders, every one of these for room, and every worker for the cancellation.
structure EventQueue.Jammed (returns : E → Bool) (q : EventQueue E) : Prop where
  opened : q.shutdown = .announced
  full : q.capacity ≤ q.events.length
  kept : ∃ s ∈ q.senders, s.stage.reading
  blocked : ∀ s ∈ q.senders, s.stage.reading → s.blocking ∧ s.stage = .selecting
  busy : ∀ w ∈ q.workers, ∃ e, w = .processing e ∧ returns e = false

-- The steps of calls that have begun, with contexts that are never cancelled.
def Action.Own : Action E → Prop
  | .call _ _ | .sender _ .context => False
  | _ => True

def EventQueue.Enabled (returns : E → Bool) (q : EventQueue E) : Prop :=
  ∃ action : Action E, action.Own ∧ ∃ next, q.step returns action = .ok next

theorem sender_enabled (found : q.senders[k]? = some s) (way : Way) (own : Action.Own (.sender k way : Action E))
    (moves : ∃ next, q.enqueue k s s.stage way = .ok next) : q.Enabled returns :=
  ⟨.sender k way, own, by simpa [step, found, required, bind, Except.bind] using moves⟩

theorem worker_enabled (found : q.workers[k]? = some w) (way : Way)
    (moves : ∃ next, q.runWorker returns k w way = .ok next) : q.Enabled returns :=
  ⟨.worker k way, trivial, by simpa [step, found, required, bind, Except.bind] using moves⟩

theorem ensured {condition : Prop} [Decidable condition] (holds : condition) (result : EventQueue E) :
    ∃ next, (do ensure condition disabled; return result) = Except.ok next := by
  simp only [ok_iff]
  exact ⟨result, (), holds, rfl⟩

theorem ensured_only {condition : Prop} [Decidable condition] {result next : EventQueue E}
    (stepped : (do ensure condition disabled; return result) = Except.ok next) : condition := by
  simp only [ok_iff] at stepped
  obtain ⟨_, holds, _⟩ := stepped
  exact holds

-- A sender that keeps Shutdown waiting moves on, unless it waits for room and nothing has been cancelled.
theorem reader_progress (found : q.senders[k]? = some s) (reading : s.stage.reading)
    (free : s.stage = .selecting → s.blocking → q.shutdown.isCancelled ∨ q.events.length < q.capacity) : q.Enabled returns := by
  cases now : s.stage with
  | called | returned err => simp [now, Sending.reading] at reading
  | lowering err => exact sender_enabled found .go trivial ⟨_, by rw [now]; rfl⟩
  | locked =>
    refine sender_enabled found .go trivial ?_
    rw [now, enqueue]
    split <;> exact ⟨_, rfl⟩
  | selecting =>
    cases blocking : s.blocking with
    | false =>
      refine sender_enabled found .go trivial ?_
      rw [now, enqueue]
      split
      · exact ⟨_, rfl⟩
      · split
        · exact ⟨_, rfl⟩
        · exact ensured (by simp [blocking]) _
    | true =>
      rcases free now blocking with cancelled | room
      · exact sender_enabled found .done trivial (by rw [now]; exact ensured ⟨blocking, cancelled⟩ _)
      · refine sender_enabled found .go trivial ?_
        rw [now, enqueue]
        split <;> exact ⟨_, rfl⟩

theorem shutdown_enabled (going : q.shutdown ≠ .returned)
    (free : q.shutdown.waits → ∀ s ∈ q.senders, ¬ s.stage.reading) : q.Enabled returns :=
  ⟨.shutdown, trivial, ensured ⟨going, free⟩ _⟩

theorem jammed_stuck (jammed : q.Jammed returns) : ¬ q.Enabled returns := by
  rintro ⟨action, own, next, stepped⟩
  cases action with
  | call event blocking => exact own
  | sender k way =>
    simp only [step, ok_iff] at stepped
    obtain ⟨s, found, stepped⟩ := stepped
    have blocked := jammed.blocked s (mem_of_getElem? found)
    generalize now : s.stage = stage at stepped
    unfold enqueue at stepped
    split at stepped
    · exact ensured_only stepped (.inl (by rw [jammed.opened]; rfl))
    · exact own
    · simp [now, reading] at blocked
    · rw [if_neg (by rw [jammed.opened]; decide), if_neg (Nat.not_lt.mpr jammed.full)] at stepped
      exact ensured_only stepped (blocked (by simp [now, reading])).1
    · exact own
    · have cancelled := (ensured_only stepped).2
      rw [jammed.opened] at cancelled
      cases cancelled
    · simp [now, reading] at blocked
    · cases stepped
  | worker k way =>
    simp only [step, ok_iff] at stepped
    obtain ⟨w, found, stepped⟩ := stepped
    obtain ⟨e, rfl, stays⟩ := jammed.busy w (mem_of_getElem? found)
    cases way with
    | go =>
      have moves := ensured_only stepped
      rw [stays, jammed.opened] at moves
      revert moves
      decide
    | context | done => cases stepped
  | shutdown =>
    simp only [step, ok_iff] at stepped
    obtain ⟨_, ⟨_, free⟩, _⟩ := stepped
    obtain ⟨s, mem, reading⟩ := jammed.kept
    exact free (by rw [jammed.opened]; rfl) s mem reading

end Enabled

variable [DecidableEq E]

structure Invariant (q : EventQueue E) : Prop where
  sound : q.panicked = false
  order : q.accepted = q.taken ++ q.events
  counted : q.pending = q.events.length + tally (fun s => s.stage.raised.toNat) q.senders +
    tally (fun w => w.inHand.isSome.toNat) q.workers
  once : ∀ e, q.taken.count e = q.processed.count e + tally (fun w => if w.held = some e then 1 else 0) q.workers
  readers : q.shutdown.holds → ∀ s ∈ q.senders, ¬ s.stage.reading
  unsent : q.shutdown.isChannelClosed → ∀ s ∈ q.senders, s.stage ≠ .selecting
  late : ∀ s ∈ q.senders, s.late → q.shutdown.isClosed ∧ s.Refused
  stopped : .stopped ∈ q.workers → q.shutdown.isCancelled

theorem new_invariant {capacity : Nat} (workers : Nat) (room : 0 < capacity) : Invariant (new E capacity workers room) := by
  have idle : ∀ weight : Working E → Nat, weight .waiting = 0 → tally weight (replicate workers .waiting) = 0 :=
    fun weight none => tally_eq_zero fun k w found => by rw [eq_of_mem_replicate (mem_of_getElem? found), none]
  refine ⟨rfl, rfl, ?_, fun e => ?_, by simp [new], by simp [new], by simp [new], ?_⟩
  · simp [new, idle, inHand]
  · simp [new, idle, held, inHand, toGive]
  · simp [new]

section

variable (invariant : Invariant q) (found : q.senders[k]? = some s)
include invariant found

theorem sender_moved (stage : Sending) (sent : List E) (change : Int)
    (gauge : change + s.stage.raised.toNat = sent.length + stage.raised.toNat) (apart : stage.reading → ¬ q.shutdown.holds)
    (quiet : stage = .selecting → ¬ q.shutdown.isChannelClosed)
    (refused : q.shutdown.isClosed → s.Refused → Sender.Refused { s with stage }) :
    Invariant { q.moveSender k s stage with
      events := q.events ++ sent, accepted := q.accepted ++ sent, pending := q.pending + change } := by
  refine ⟨invariant.sound, ?_, ?_, invariant.once, fun holds other mem => ?_, fun closed other mem => ?_,
    fun other mem late => ?_, invariant.stopped⟩
  · simp [moveSender, invariant.order]
  · have moved := tally_set (fun s : Sender E => s.stage.raised.toNat) found { s with stage }
    have counted := invariant.counted
    simp only [moveSender, length_append] at moved ⊢
    omega
  · rcases mem_or_eq_of_mem_set mem with old | rfl
    · exact invariant.readers holds other old
    · exact fun reading => apart reading holds
  · rcases mem_or_eq_of_mem_set mem with old | rfl
    · exact invariant.unsent closed other old
    · exact fun selecting => quiet selecting closed
  · rcases mem_or_eq_of_mem_set mem with old | rfl
    · exact invariant.late other old late
    · obtain ⟨closed, before⟩ := invariant.late s (mem_of_getElem? found) late
      exact ⟨closed, refused closed before⟩

theorem sender_returned (quiet : s.stage.raised = false) {err : EnqueueError}
    (refused : Sender.Refused { s with stage := .returned (some err) }) :
    Invariant (q.moveSender k s (.returned (some err))) := by
  have moved := sender_moved invariant found (.returned (some err)) [] 0 (by rw [quiet]; rfl)
    (by simp [reading]) (by simp) fun _ _ => refused
  simpa [moveSender] using moved

theorem reads_apart (reading : s.stage.reading) :
    ¬ q.shutdown.holds := fun holds => invariant.readers holds s (mem_of_getElem? found) reading

theorem sender_lowers (now : s.stage = .selecting) (err : EnqueueError) : Invariant (q.moveSender k s (.lowering err)) := by
  have moved := sender_moved invariant found (.lowering err) [] 0 (by simp [now, raised])
    (fun _ => reads_apart invariant found (by simp [now, reading])) (by simp)
    fun _ refused => absurd refused (Sender.not_refused (by simp [now, raised]))
  simpa [moveSender] using moved

theorem enqueue_invariant (stepped : q.enqueue k s s.stage way = .ok next) : Invariant next := by
  generalize now : s.stage = stage at stepped
  unfold enqueue at stepped
  split at stepped
  · simp only [ok_iff, not_or] at stepped
    obtain ⟨_, free, rfl⟩ := stepped
    have moved := sender_moved invariant found .locked [] 0 (by simp [now, raised]) (fun _ => free.2) (by simp)
      fun _ _ => .inr (.inl rfl)
    simpa [moveSender] using moved
  · simp only [ok_iff] at stepped
    obtain ⟨_, blocking, rfl⟩ := stepped
    exact sender_returned invariant found (by simp [now, raised]) (.inr (.inr (.inr ⟨blocking, rfl⟩)))
  · split at stepped
    · cases stepped
      exact sender_returned invariant found (by simp [now, raised]) (.inr (.inr (.inl rfl)))
    · rename_i opened
      cases stepped
      have moved := sender_moved invariant found .selecting [] 1 (by simp [now, raised])
        (fun _ => reads_apart invariant found (by simp [now, reading])) (fun _ closed => ?_)
        fun closed => absurd closed opened
      · simpa [moveSender] using moved
      · revert opened closed
        cases q.shutdown <;> decide
  · split at stepped
    · rename_i closed
      exact absurd now (invariant.unsent closed s (mem_of_getElem? found))
    · split at stepped
      · cases stepped
        have moved := sender_moved invariant found (.returned none) [s.event] 0 (by simp [now, raised])
          (by simp [reading]) (by simp)
          fun _ refused => absurd refused (Sender.not_refused (by simp [now, raised]))
        simpa [moveSender] using moved
      · simp only [ok_iff] at stepped
        obtain ⟨_, _, rfl⟩ := stepped
        exact sender_lowers invariant found now .queueFull
  · simp only [ok_iff] at stepped
    obtain ⟨_, _, rfl⟩ := stepped
    exact sender_lowers invariant found now .context
  · simp only [ok_iff] at stepped
    obtain ⟨_, _, rfl⟩ := stepped
    exact sender_lowers invariant found now .queueClosed
  · rename_i err
    cases stepped
    have moved := sender_moved invariant found (.returned (some err)) [] (-1) (by simp [now, raised])
      (by simp [reading]) (by simp)
      fun _ refused => absurd refused (Sender.not_refused (by simp [now, raised]))
    simpa [moveSender, Int.sub_eq_add_neg] using moved
  · cases stepped

end

theorem worker_moved (invariant : Invariant q) (found : q.workers[k]? = some w) (new : Working E) (took made : List E)
    (lowers : Nat) {rest : List E} (split : q.events = took ++ rest)
    (hand : ∀ e, made.count e + (if new.held = some e then 1 else 0) = took.count e + if w.held = some e then 1 else 0)
    (gauge : lowers + new.inHand.isSome.toNat = took.length + w.inHand.isSome.toNat)
    (stops : new = .stopped → q.shutdown.isCancelled) :
    Invariant { q.moveWorker k new with
      events := rest, taken := q.taken ++ took, processed := q.processed ++ made, pending := q.pending - lowers } := by
  refine ⟨invariant.sound, ?_, ?_, fun e => ?_, invariant.readers, invariant.unsent, invariant.late, fun mem => ?_⟩
  · simp [moveWorker, invariant.order, split]
  · have moved := tally_set (fun w : Working E => w.inHand.isSome.toNat) found new
    have counted := invariant.counted
    simp only [moveWorker, split, length_append] at moved counted ⊢
    omega
  · have moved := tally_set (fun w : Working E => if w.held = some e then 1 else 0) found new
    have once := invariant.once e
    have hand := hand e
    simp only [moveWorker, count_append] at moved ⊢
    omega
  · rcases mem_or_eq_of_mem_set mem with old | same
    · exact invariant.stopped old
    · exact stops same.symm

theorem run_worker_invariant (invariant : Invariant q) (found : q.workers[k]? = some w)
    (stepped : q.runWorker returns k w way = .ok next) : Invariant next := by
  have idle : w.held = none → ∀ new : Working E, new.held = none → (new = .stopped → q.shutdown.isCancelled) →
      Invariant (q.moveWorker k new) := by
    intro empty new none stops
    have moved := worker_moved invariant found new [] [] 0 rfl (by simp [empty, none])
      (by simp [(Option.or_eq_none_iff.mp empty).1, (Option.or_eq_none_iff.mp none).1]) stops
    simpa [moveWorker] using moved
  unfold runWorker at stepped
  split at stepped
  · split at stepped
    · rename_i event rest channel
      cases stepped
      have moved := worker_moved invariant found (.received event) [event] [] 0 channel
        (by simp [held, inHand, toGive, count_singleton]) rfl (by simp)
      simpa [moveWorker] using moved
    · simp only [ok_iff] at stepped
      obtain ⟨_, closed, rfl⟩ := stepped
      refine idle rfl _ rfl fun _ => ?_
      revert closed
      cases q.shutdown <;> decide
  · simp only [ok_iff] at stepped
    obtain ⟨_, cancelled, rfl⟩ := stepped
    exact idle rfl _ rfl fun _ => cancelled
  · rename_i event
    cases stepped
    have moved := worker_moved invariant found (.lowered event) [] [] 1 rfl
      (by simp [held, inHand, toGive]) rfl (by simp)
    simpa [moveWorker] using moved
  · rename_i event
    cases stepped
    have moved := worker_moved invariant found (.processing event) [] [event] 0 rfl
      (by simp [held, inHand, toGive, count_singleton]) rfl (by simp)
    simpa [moveWorker] using moved
  · simp only [ok_iff] at stepped
    obtain ⟨_, _, rfl⟩ := stepped
    exact idle rfl _ rfl (by simp)
  · cases stepped

theorem shutdown_invariant (invariant : Invariant q) (free : q.shutdown.waits → ∀ s ∈ q.senders, ¬ s.stage.reading) :
    Invariant { q with shutdown := q.shutdown.next } := by
  have closed : q.shutdown.isClosed → q.shutdown.next.isClosed := by cases q.shutdown <;> decide
  have cancelled : q.shutdown.isCancelled → q.shutdown.next.isCancelled := by cases q.shutdown <;> decide
  have taken : q.shutdown.next.holds → q.shutdown.waits ∨ q.shutdown.holds := by cases q.shutdown <;> decide
  have shut : q.shutdown.next.isChannelClosed → q.shutdown.holds ∨ q.shutdown.isChannelClosed := by
    cases q.shutdown <;> decide
  refine ⟨invariant.sound, invariant.order, invariant.counted, invariant.once, fun holds => ?_, fun gone s mem now => ?_,
    fun s mem late => ?_, fun mem => cancelled (invariant.stopped mem)⟩
  · exact (taken holds).elim free invariant.readers
  · rcases shut gone with holds | before
    · exact invariant.readers holds s mem (by simp [now, reading])
    · exact invariant.unsent before s mem now
  · obtain ⟨before, refused⟩ := invariant.late s mem late
    exact ⟨closed before, refused⟩

theorem step_invariant {action : Action E} (invariant : Invariant q) (stepped : q.step returns action = .ok next) :
    Invariant next := by
  cases action with
  | call event blocking =>
    cases stepped
    refine ⟨invariant.sound, invariant.order, ?_, invariant.once, fun holds s mem => ?_, fun closed s mem => ?_,
      fun s mem late => ?_, invariant.stopped⟩
    · simpa [raised] using invariant.counted
    · rcases mem_append.mp mem with old | new
      · exact invariant.readers holds s old
      · simp [mem_singleton.mp new, reading]
    · rcases mem_append.mp mem with old | new
      · exact invariant.unsent closed s old
      · simp [mem_singleton.mp new]
    · rcases mem_append.mp mem with old | new
      · exact invariant.late s old late
      · cases mem_singleton.mp new
        exact ⟨late, .inl rfl⟩
  | sender k way =>
    simp only [step, ok_iff] at stepped
    obtain ⟨s, found, stepped⟩ := stepped
    exact enqueue_invariant invariant found stepped
  | worker k way =>
    simp only [step, ok_iff] at stepped
    obtain ⟨w, found, stepped⟩ := stepped
    exact run_worker_invariant invariant found stepped
  | shutdown =>
    simp only [step, ok_iff] at stepped
    obtain ⟨_, free, rfl⟩ := stepped
    exact shutdown_invariant invariant free.2

theorem run_keeps {capacity : Nat} (workers : Nat) (room : 0 < capacity) (returns : E → Bool) (actions : List (Action E)) :
    Invariant (run (step returns) (.new E capacity workers room) actions) :=
  run_invariant (fun _ => Invariant) _ actions (fun _ _ _ _ _ before stepped => step_invariant before stepped)
    (new_invariant workers room)

-- What was accepted and not taken is in the channel. A worker that has taken an event lowers the gauge next.
structure Delivered (q : EventQueue E) : Prop where
  sound : q.panicked = false
  order : q.accepted = q.taken ++ q.events
  once : ∀ e, q.processed.count e ≤ q.taken.count e
  refused : ∀ s ∈ q.senders, s.late → ∀ err, s.stage = .returned err →
    err = some .queueClosed ∨ s.blocking ∧ err = some .context
  gauge : (∀ s ∈ q.senders, ∃ err, s.stage = .returned err) →
    q.pending = q.events.length + tally (fun w => w.inHand.isSome.toNat) q.workers

theorem queue_delivers (capacity workers : Nat) (room : 0 < capacity) (returns : E → Bool) (actions : List (Action E)) :
    Delivered (run (step returns) (.new E capacity workers room) actions) := by
  have invariant := run_keeps workers room returns actions
  generalize run (step returns) (.new E capacity workers room) actions = q at invariant
  refine ⟨invariant.sound, invariant.order, fun e => ?_, fun s mem late err now => ?_, fun done => ?_⟩
  · rw [invariant.once e]
    exact Nat.le_add_right _ _
  · obtain ⟨_, called | locked | closed | ⟨blocking, context⟩⟩ := invariant.late s mem late
    · cases now.symm.trans called
    · cases now.symm.trans locked
    · cases now.symm.trans closed
      exact .inl rfl
    · cases now.symm.trans context
      exact .inr ⟨blocking, rfl⟩
  · have none : tally (fun s : Sender E => s.stage.raised.toNat) q.senders = 0 := by
      refine tally_eq_zero fun k s found => ?_
      obtain ⟨err, now⟩ := done s (mem_of_getElem? found)
      rw [now]
      rfl
    simpa [none] using invariant.counted

namespace OneWorker

def after (returns : Bool) (actions : List (Action Nat)) : EventQueue Nat :=
  run (step fun _ => returns) (.new Nat 1 1 Nat.one_pos) actions

def sent (k : Nat) : List (Action Nat) := [.call 5 true, .sender k .go, .sender k .go, .sender k .go]

def taken : EventQueue Nat := after true (sent 0 ++ [.worker 0 .go])

def closed : EventQueue Nat := after true [.shutdown, .shutdown, .shutdown, .call 5 true, .sender 0 .context]

theorem taken_delivered : taken.accepted = [5] ∧ Delivered taken :=
  ⟨by decide, queue_delivers 1 1 Nat.one_pos (fun _ => true) _⟩

-- An event that is taken is still counted, and a call with a cancelled context does not see that the queue is closed.
theorem taken_still_pending :
    (∀ s ∈ taken.senders, s.stage = .returned none) ∧ taken.accepted = taken.taken ∧ taken.pending = 1 ∧
      closed.shutdown.isClosed ∧ ∀ s ∈ closed.senders, s.late ∧ s.stage = .returned (some .context) := by
  decide

end OneWorker

-- With the gauge at zero nothing waits in the channel or in the hands of a worker that has yet to lower it: what was accepted
-- was given to Process, or is about to be by a worker that has lowered the gauge for it.
theorem gauge_zero_all_given (capacity workers : Nat) (room : 0 < capacity) (returns : E → Bool) (actions : List (Action E))
    (q : EventQueue E) (reached : run (step returns) (.new E capacity workers room) actions = q)
    (quiet : ∀ s ∈ q.senders, s.stage.raised = false) (zero : q.pending = 0) :
    (q.processed ++ q.workers.filterMap toGive).Perm q.accepted := by
  have invariant := reached ▸ run_keeps workers room returns actions
  have unsent : tally (fun s : Sender E => s.stage.raised.toNat) q.senders = 0 :=
    tally_eq_zero fun k s found => by rw [quiet s (mem_of_getElem? found), Bool.toNat_false]
  have gauge := invariant.counted
  have empty : q.events = [] := length_eq_zero_iff.mp (by omega)
  have unheld : ∀ w ∈ q.workers, w.inHand = none := by
    intro w mem
    obtain ⟨k, found⟩ := mem_iff_getElem?.mp mem
    have one := le_tally (fun w : Working E => w.inHand.isSome.toNat) found
    cases held : w.inHand with
    | none => rfl
    | some event =>
      simp only [held, Option.isSome_some, Bool.toNat_true] at one
      omega
  rw [perm_iff_count, invariant.order, empty, append_nil]
  intro e
  rw [invariant.once e, count_append, ← tally_eq_count]
  congr 1
  refine tally_congr fun w mem => ?_
  rw [held, unheld w mem, Option.none_or]

namespace OneWorker

-- One event has been given to Process; of the second the worker has only lowered the gauge.
theorem second_event_given :
    let q := after true (sent 0 ++ [.worker 0 .go, .worker 0 .go, .worker 0 .go, .worker 0 .go] ++ sent 1 ++
      [.worker 0 .go, .worker 0 .go])
    q.processed = [5] ∧ q.pending = 0 ∧ (q.processed ++ q.workers.filterMap toGive).Perm [5, 5] :=
  ⟨by decide, by decide, gauge_zero_all_given 1 1 Nat.one_pos (fun _ => true) _ _ rfl (by decide) (by decide)⟩

end OneWorker

section Progress

theorem worker_progress (invariant : Invariant q) (opened : q.shutdown = .announced) (filled : q.events ≠ [])
    (found : q.workers[k]? = some w) (moves : ∀ e, w = .processing e → returns e) : q.Enabled returns := by
  cases w with
  | waiting =>
    obtain ⟨event, rest, channel⟩ := exists_cons_of_ne_nil filled
    exact worker_enabled found .go (by simp [runWorker, channel])
  | received event | lowered event => exact worker_enabled found .go ⟨_, rfl⟩
  | processing event => exact worker_enabled found .go (ensured (.inl (moves event rfl)) _)
  | stopped =>
    have cancelled := invariant.stopped (mem_of_getElem? found)
    rw [opened] at cancelled
    cases cancelled

theorem shutdown_not_stuck (capacity workers : Nat) (room : 0 < capacity) (returns : E → Bool) (actions : List (Action E))
    (q : EventQueue E) (reached : run (step returns) (.new E capacity workers room) actions = q)
    (going : q.shutdown ≠ .running ∧ q.shutdown ≠ .returned) : q.Enabled returns ↔ ¬ q.Jammed returns := by
  refine ⟨fun enabled jammed => jammed_stuck jammed enabled, fun free => ?_⟩
  have invariant := reached ▸ run_keeps workers room returns actions
  by_cases kept : q.shutdown.waits ∧ ∃ s ∈ q.senders, s.stage.reading
  · obtain ⟨waits, reader⟩ := kept
    by_cases moves : ∃ s ∈ q.senders, s.stage.reading ∧
        (s.stage = .selecting → s.blocking → q.shutdown.isCancelled ∨ q.events.length < q.capacity)
    · obtain ⟨s, mem, reading, moves⟩ := moves
      obtain ⟨k, found⟩ := mem_iff_getElem?.mp mem
      exact reader_progress found reading moves
    · have stays : ∀ s ∈ q.senders, s.stage.reading →
          (s.blocking ∧ s.stage = .selecting) ∧ ¬ q.shutdown.isCancelled ∧ q.capacity ≤ q.events.length := by
        intro s mem reading
        by_contra free
        exact moves ⟨s, mem, reading, by grind⟩
      obtain ⟨s, mem, reading⟩ := reader
      obtain ⟨_, uncancelled, full⟩ := stays s mem reading
      have opened : q.shutdown = .announced := by
        revert waits uncancelled
        cases q.shutdown <;> decide
      have filled : q.events ≠ [] := ne_nil_of_length_pos (Nat.lt_of_lt_of_le q.room full)
      have idle : ∃ w ∈ q.workers, ∀ e, w = .processing e → returns e := by
        by_contra none
        push Not at none
        exact free ⟨opened, full, ⟨s, mem, reading⟩, fun s mem reading => (stays s mem reading).1,
          fun w mem => by simpa using none w mem⟩
      obtain ⟨w, mem, moves⟩ := idle
      obtain ⟨k, found⟩ := mem_iff_getElem?.mp mem
      exact worker_progress invariant opened filled found moves
  · exact shutdown_enabled going.2 fun waits s mem reading => kept ⟨waits, s, mem, reading⟩

namespace OneWorker

-- Two events fill the worker and the channel, and a third call waits for room.
def filled : List (Action Nat) :=
  sent 0 ++ [.worker 0 .go, .worker 0 .go, .worker 0 .go] ++ sent 1 ++ sent 2 ++ [.shutdown, .shutdown]

theorem full_queue_stops : Enabled (fun _ => true) (after true filled) := by
  apply (shutdown_not_stuck 1 1 Nat.one_pos (fun _ => true) filled _ rfl (by decide)).mpr
  intro jammed
  obtain ⟨e, _, waits⟩ := jammed.busy (.processing 5) (by decide)
  cases waits

theorem shutdown_deadlock : (after false filled).shutdown = .announced ∧ ¬ (after false filled).Enabled fun _ => false := by
  have busy : ∀ w ∈ (after false filled).workers, w = .processing 5 := by decide
  exact ⟨by decide, jammed_stuck ⟨by decide, by decide, by decide, by decide, fun w mem => ⟨5, busy w mem, rfl⟩⟩⟩

end OneWorker

end Progress

end Panurus.Finality
