import Panurus.Lib.Pointwise
import Panurus.Lib.Tally
import Panurus.Lib.Attempts
import Panurus.Lib.Outcome
import Panurus.Lib.Semaphore
import Panurus.Lib.Text

namespace Panurus.Auditdb

open List Lib Outcome Text Weighted Function

abbrev EnrollmentID := Bytes

abbrev Anchor := Bytes

def andSort (source : List EnrollmentID) : List EnrollmentID := source.dedup.insertionSort (· ≤ ·)

def added (want held : List EnrollmentID) : List EnrollmentID := want.filter fun id => id ∉ held

def dropped (held want : List EnrollmentID) : List EnrollmentID := held.filter fun id => id ∉ want

inductive ContextError where
  | canceled
  | deadlineExceeded
deriving DecidableEq, Repr

def ContextError.text : ContextError → String
  | .canceled => "context canceled"
  | .deadlineExceeded => "context deadline exceeded"

inductive Sentinel where
  | lockContention
  | lockAcquireTimeout
  | lockSetWidened
deriving DecidableEq, Repr

def Sentinel.text : Sentinel → String
  | .lockContention => "auditor enrollment id lock contention"
  | .lockAcquireTimeout => "auditor enrollment id lock acquire timeout"
  | .lockSetWidened => "auditor enrollment id lock set cannot grow under a live anchor"

structure Failure where
  sentinels : List Sentinel
  text : String
deriving DecidableEq, Repr

def listed (ids : List EnrollmentID) : String := "[" ++ " ".intercalate (ids.map render) ++ "]"

def errWidened (anchor : Anchor) (held more : List EnrollmentID) : Failure :=
  { sentinels := [.lockSetWidened]
    text := s!"anchor [{render anchor}] holds {listed held} and cannot also take {listed more}: " ++ Sentinel.lockSetWidened.text }

def acquireError (err : ContextError) (eID : EnrollmentID) (contended : Bool) : Failure :=
  let sentinels :=
    if contended then
      if err = .deadlineExceeded then [Sentinel.lockContention, .lockAcquireTimeout] else [.lockContention]
    else []
  { sentinels
    text := s!"failed to acquire lock for enrollment ID [{render eID}]: " ++
      "\n".intercalate (sentinels.map Sentinel.text ++ [err.text]) }

abbrev Result := Except Failure Unit

structure AnchorState where
  refs : Nat
  eIDs : List EnrollmentID
  locked : Bool
deriving DecidableEq, Repr

inductive Operation where
  | acquireLocks (eIDs : List EnrollmentID)
  | releaseLocks
deriving DecidableEq, Repr

-- How far acquireOne is with the next id: its permit is to be tried, has been taken at the first try, was not free, or
-- is waited for in the queue of its semaphore.
inductive Stage where
  | trying
  | taken
  | contended
  | waiting
deriving DecidableEq, Repr

-- A call refers to its state by the address. Releasing comes before leaving, also when there is nothing to release.
inductive Phase where
  | entering
  | queued (st : Nat)
  | acquiring (st : Nat) (deduped acquired todo : List EnrollmentID) (stage : Stage)
  | releasing (st : Nat) (ids : List EnrollmentID) (result : Result)
  | unlocking (st : Nat) (result : Result)
  | returned (result : Result)

structure Call where
  anchor : Anchor
  operation : Operation
  phase : Phase

-- The states live in a heap: one that was evicted from the table may still be in use by a caller.
structure System (S : Type) where
  sems : EnrollmentID → Option S
  heap : List AnchorState
  anchors : Anchor → Option Nat
  calls : List Call

inductive Event where
  | call (anchor : Anchor) (operation : Operation)
  | advance (k : Nat) (done : Option ContextError)

def disabled : String := "not enabled"

def releasedMore : String := "panic: semaphore: released more than held"

def entered (anchor : Anchor) (st : Nat) (state : AnchorState) : Operation → AnchorState × Phase
  | .releaseLocks => ({ state with eIDs := [] }, .releasing st state.eIDs (.ok ()))
  | .acquireLocks eIDs =>
    let deduped := andSort eIDs
    let more := added deduped state.eIDs
    if deduped = [] then (state, .releasing st [] (.ok ()))
    else if state.eIDs ≠ [] ∧ more ≠ [] then (state, .releasing st [] (.error (errWidened anchor state.eIDs more)))
    else (state, .acquiring st deduped [] more .trying)

inductive Attempted where
  | went (stage : Stage)
  | acquired
  | failed (failure : Failure)

section Steps

variable {S : Type} [Weighted 1 Nat S]

def acquireOne (k : Nat) (done : Option ContextError) (eID : EnrollmentID) (sem : S) : Stage → Outcome (S × Attempted)
  | .trying =>
    match tryAcquire sem with
    | some sem => .ok (sem, .went .taken)
    | none => .ok (sem, .went .contended)
  | .taken =>
    match done with
    | none => .ok (sem, .acquired)
    | some err => do
      let sem ← required (release sem) releasedMore
      return (sem, .failed (acquireError err eID false))
  | .contended =>
    match done with
    | some err => .ok (sem, .failed (acquireError err eID true))
    | none =>
      match tryAcquire sem with
      | some sem => .ok (sem, .acquired)
      | none => .ok (enqueue sem k, .went .waiting)
  | .waiting =>
    match done with
    | some err => .ok (abandon sem k, .failed (acquireError err eID true))
    | none => do
      let sem ← required (accept sem k) disabled
      return (sem, .acquired)

def Attempted.phase (st : Nat) (deduped acquired : List EnrollmentID) (eID : EnrollmentID) (todo : List EnrollmentID) :
    Attempted → Phase
  | .went stage => .acquiring st deduped acquired (eID :: todo) stage
  | .acquired => .acquiring st deduped (acquired ++ [eID]) todo .trying
  | .failed failure => .releasing st acquired (.error failure)

namespace System

def semaphoreFor (s : System S) (eID : EnrollmentID) : S := (s.sems eID).getD new

def permits (s : System S) (eID : EnrollmentID) : Semaphore Nat := view (s.semaphoreFor eID)

def putSemaphore (s : System S) (eID : EnrollmentID) (sem : S) : System S :=
  { s with sems := update s.sems eID (some sem) }

def putState (s : System S) (st : Nat) (state : AnchorState) : System S := { s with heap := s.heap.set st state }

def move (s : System S) (k : Nat) (call : Call) (phase : Phase) : System S :=
  { s with calls := s.calls.set k { call with phase } }

def releaseOne (s : System S) (id : EnrollmentID) : Outcome (System S) :=
  match s.sems id with
  | none => .ok s
  | some sem => do
    let sem ← required (release sem) releasedMore
    return s.putSemaphore id sem

def lookUp (s : System S) (anchor : Anchor) : Nat × System S :=
  match s.anchors anchor with
  | none =>
    (s.heap.length,
      { s with
        heap := s.heap ++ [{ refs := 1, eIDs := [], locked := false }]
        anchors := update s.anchors anchor (some s.heap.length) })
  | some st => (st, { s with heap := s.heap.modify st fun state => { state with refs := state.refs + 1 } })

def leave (s : System S) (anchor : Anchor) (st : Nat) (state : AnchorState) : System S :=
  let state := { state with refs := state.refs - 1 }
  let s := s.putState st state
  if state.refs = 0 ∧ state.eIDs = [] then { s with anchors := update s.anchors anchor none } else s

def advance (s : System S) (k : Nat) (done : Option ContextError) : Outcome (System S) := do
  let call ← required s.calls[k]? disabled
  match call.phase with
  | .entering =>
    let (st, s) := s.lookUp call.anchor
    return s.move k call (.queued st)
  | .queued st => do
    let state ← required s.heap[st]? disabled
    ensure (state.locked = false) disabled
    let (state, phase) := entered call.anchor st { state with locked := true } call.operation
    return (s.putState st state).move k call phase
  | .acquiring st deduped _ [] _ => do
    let state ← required s.heap[st]? disabled
    return (s.putState st { state with eIDs := deduped }).move k call (.releasing st (dropped state.eIDs deduped) (.ok ()))
  | .acquiring st deduped acquired (eID :: todo) stage => do
    let (sem, attempted) ← acquireOne k done eID (s.semaphoreFor eID) stage
    return (s.putSemaphore eID sem).move k call (attempted.phase st deduped acquired eID todo)
  | .releasing st (id :: rest) result => do
    let s ← s.releaseOne id
    return s.move k call (.releasing st rest result)
  | .releasing st [] result => do
    let state ← required s.heap[st]? disabled
    return (s.leave call.anchor st state).move k call (.unlocking st result)
  | .unlocking st result => do
    let state ← required s.heap[st]? disabled
    return (s.putState st { state with locked := false }).move k call (.returned result)
  | .returned _ => .error disabled

def step (s : System S) : Event → Outcome (System S)
  | .call anchor operation => .ok { s with calls := s.calls ++ [{ anchor, operation, phase := .entering }] }
  | .advance k done => s.advance k done

def empty : System S := { sems := fun _ => none, heap := [], anchors := fun _ => none, calls := [] }

end System

end Steps

open Pointwise Tally

namespace Phase

def address : Phase → Option Nat
  | .queued st | .acquiring st _ _ _ _ | .releasing st _ _ => some st
  | _ => none

def critical : Phase → Option Nat
  | .acquiring st _ _ _ _ | .releasing st _ _ | .unlocking st _ => some st
  | _ => none

def inHand : Phase → List EnrollmentID
  | .acquiring _ _ acquired todo stage => acquired ++ if stage = .taken then todo.take 1 else []
  | .releasing _ ids _ => ids
  | _ => []

def waitsFor : Phase → Option EnrollmentID
  | .acquiring _ _ _ (eID :: _) .waiting => some eID
  | _ => none

def refersTo (phase : Phase) (st : Nat) : Nat := if phase.address = some st then 1 else 0

def occupies (phase : Phase) (st : Nat) : Nat := if phase.critical = some st then 1 else 0

def Planned (heap : List AnchorState) : Phase → Prop
  | .acquiring st deduped acquired todo _ => deduped.Pairwise (· < ·) ∧ ∀ state, heap[st]? = some state →
      acquired ++ todo = added deduped state.eIDs ∧ (state.eIDs = [] ∨ added deduped state.eIDs = [])
  | _ => True

end Phase

variable {S : Type}

def taken (s : System S) (id : EnrollmentID) : Nat :=
  tally (fun state => state.eIDs.count id) s.heap + tally (fun call => call.phase.inHand.count id) s.calls

structure Tabled (s : System S) : Prop where
  refs : ∀ st state, s.heap[st]? = some state → state.refs = tally (fun call => call.phase.refersTo st) s.calls
  locked : ∀ st state, s.heap[st]? = some state → state.locked.toNat = tally (fun call => call.phase.occupies st) s.calls
  live : ∀ (k : Nat) call st, s.calls[k]? = some call → call.phase.address = some st → s.anchors call.anchor = some st
  within : ∀ anchor st, s.anchors anchor = some st → st < s.heap.length
  inside : ∀ (k : Nat) call st, s.calls[k]? = some call → call.phase.critical = some st → st < s.heap.length
  apart : ∀ one other st, s.anchors one = some st → s.anchors other = some st → one = other
  kept : ∀ (st : Nat) state, s.heap[st]? = some state → state.eIDs ≠ [] → ∃ anchor, s.anchors anchor = some st

structure Permitted [Weighted 1 Nat S] (s : System S) : Prop where
  sound : ∀ id, Semaphore.Sound 1 (s.permits id) (taken s id)
  queues : ∀ id k, k ∈ (s.permits id).queue ↔ ∃ call, s.calls[k]? = some call ∧ call.phase.waitsFor = some id

structure Sorted (s : System S) : Prop where
  records : ∀ (st : Nat) state, s.heap[st]? = some state → state.eIDs.Pairwise (· < ·)
  plans : ∀ (k : Nat) call, s.calls[k]? = some call → call.phase.Planned s.heap

structure Invariant [Weighted 1 Nat S] (s : System S) : Prop where
  tabled : Tabled s
  permitted : Permitted s
  sorted : Sorted s

open Phase Auditdb.System

section Updated

variable {s : System S} {k st x j : Nat} {call other : Call} {phase : Phase} {old new : AnchorState}

def Phase.Within (st : Nat) : Phase → Prop
  | .queued x | .acquiring x _ _ _ _ | .releasing x _ _ | .unlocking x _ => x = st
  | _ => True

structure Phase.Works (phase : Phase) (st : Nat) : Prop where
  within : phase.Within st
  address : phase.address = some st
  critical : phase.critical = some st

theorem within_address (within : phase.Within st) (address : phase.address = some x) : x = st := by
  cases phase with
  | queued | acquiring | releasing =>
    cases address
    exact within
  | _ => cases address

theorem within_critical (within : phase.Within st) (critical : phase.critical = some x) : x = st := by
  cases phase with
  | acquiring | releasing | unlocking =>
    cases critical
    exact within
  | _ => cases critical

theorem refers_here (address : phase.address = some st) : phase.refersTo st = 1 := if_pos address

theorem refers_nowhere (address : phase.address = none) : phase.refersTo st = 0 := by
  simp [refersTo, address]

theorem occupies_here (critical : phase.critical = some st) : phase.occupies st = 1 := if_pos critical

theorem occupies_nowhere (critical : phase.critical = none) : phase.occupies st = 0 := by
  simp [occupies, critical]

theorem refers_elsewhere (within : phase.Within st) (different : x ≠ st) : phase.refersTo x = 0 :=
  if_neg fun here => different (within_address within here)

theorem occupies_elsewhere (within : phase.Within st) (different : x ≠ st) : phase.occupies x = 0 :=
  if_neg fun here => different (within_critical within here)

theorem tally_moved (measure : Phase → Nat) {calls : List Call} (found : calls[k]? = some call) (phase : Phase) :
    tally (fun call => measure call.phase) (calls.set k { call with phase }) + measure call.phase =
      tally (fun call => measure call.phase) calls + measure phase :=
  tally_set (fun call => measure call.phase) found { call with phase }

theorem tabled_updated (tabled : Tabled s) (found : s.calls[k]? = some call) (present : s.heap[st]? = some old)
    (before : call.phase.Within st) (after : phase.Within st)
    (refs : new.refs + call.phase.refersTo st = old.refs + phase.refersTo st)
    (locks : new.locked.toNat + call.phase.occupies st = old.locked.toNat + phase.occupies st)
    (live : phase.address = some st → s.anchors call.anchor = some st)
    (kept : new.eIDs ≠ [] → ∃ anchor, s.anchors anchor = some st) : Tabled ((s.putState st new).move k call phase) := by
  constructor
  · intro x state there
    have moved := tally_moved (fun phase => phase.refersTo x) found phase
    rcases set_cases present there with ⟨rfl, rfl⟩ | ⟨different, there⟩
    · have count := tabled.refs x old present
      simp only [move, putState]
      omega
    · have count := tabled.refs x state there
      rw [refers_elsewhere before different, refers_elsewhere after different] at moved
      simp only [move, putState]
      omega
  · intro x state there
    have moved := tally_moved (fun phase => phase.occupies x) found phase
    rcases set_cases present there with ⟨rfl, rfl⟩ | ⟨different, there⟩
    · have count := tabled.locked x old present
      simp only [move, putState]
      omega
    · have count := tabled.locked x state there
      rw [occupies_elsewhere before different, occupies_elsewhere after different] at moved
      simp only [move, putState]
      omega
  · intro j other x there address
    rcases set_cases found there with ⟨rfl, rfl⟩ | ⟨different, there⟩
    · obtain rfl := within_address after address
      exact live address
    · exact tabled.live j other x there address
  · intro anchor x entry
    have inside := tabled.within anchor x entry
    simpa only [move, putState, length_set] using inside
  · intro j other x there critical
    simp only [move, putState, List.length_set]
    rcases set_cases found there with ⟨rfl, rfl⟩ | ⟨different, there⟩
    · obtain rfl := within_critical after critical
      exact (List.getElem?_eq_some_iff.mp present).1
    · exact tabled.inside j other x there critical
  · exact tabled.apart
  · intro x state there nonempty
    rcases set_cases present there with ⟨rfl, rfl⟩ | ⟨different, there⟩
    · exact kept nonempty
    · exact tabled.kept x state there nonempty

theorem waits_moved (found : s.calls[k]? = some call) (j : Nat) (id : EnrollmentID) :
    (∃ other, (s.calls.set k { call with phase })[j]? = some other ∧ other.phase.waitsFor = some id) ↔
      if j = k then phase.waitsFor = some id else ∃ other, s.calls[j]? = some other ∧ other.phase.waitsFor = some id := by
  split
  · rename_i same
    subst same
    have inside := (List.getElem?_eq_some_iff.mp found).1
    simp [List.getElem?_set_self inside]
  · rename_i different
    simp [List.getElem?_set_ne (Ne.symm different)]

theorem free_of_unlocked (tabled : Tabled s) (present : s.heap[st]? = some old) (free : old.locked = false)
    (there : s.calls[j]? = some other) : other.phase.critical ≠ some st := by
  intro critical
  have none := tabled.locked st old present
  have some := le_tally (fun call : Call => call.phase.occupies st) there
  simp only [occupies, critical, if_true] at some
  rw [free] at none
  simp only [Bool.toNat_false, occupies] at none
  omega

theorem alone_of_critical (tabled : Tabled s) (present : s.heap[st]? = some old) (found : s.calls[k]? = some call)
    (critical : call.phase.critical = some st) (different : j ≠ k) (there : s.calls[j]? = some other) :
    other.phase.critical ≠ some st := by
  intro both
  have one := tabled.locked st old present
  have two := add_le_tally (fun call : Call => call.phase.occupies st) there found different
  have most := Bool.toNat_le old.locked
  simp only [occupies, critical, both, if_true] at two one
  omega

theorem planned_put {heap : List AnchorState} (present : heap[st]? = some old)
    (steady : new.eIDs = old.eIDs ∨ phase.critical ≠ some st) (planned : phase.Planned heap) :
    phase.Planned (heap.set st new) := by
  cases phase with
  | acquiring x deduped acquired todo stage =>
    refine ⟨planned.1, fun state there => ?_⟩
    rcases set_cases present there with ⟨rfl, rfl⟩ | ⟨_, there⟩
    · rcases steady with same | elsewhere
      · rw [same]
        exact planned.2 old present
      · exact absurd rfl elsewhere
    · exact planned.2 state there
  | _ => trivial

theorem sorted_updated (sorted : Sorted s) (found : s.calls[k]? = some call) (present : s.heap[st]? = some old)
    (record : new.eIDs.Pairwise (· < ·)) (plan : phase.Planned (s.heap.set st new))
    (steady : new.eIDs = old.eIDs ∨ ∀ j other, j ≠ k → s.calls[j]? = some other → other.phase.critical ≠ some st) :
    Sorted ((s.putState st new).move k call phase) := by
  constructor
  · intro x state there
    rcases set_cases present there with ⟨rfl, rfl⟩ | ⟨_, there⟩
    · exact record
    · exact sorted.records x state there
  · intro j other there
    rcases set_cases found there with ⟨rfl, rfl⟩ | ⟨different, there⟩
    · exact plan
    · exact planned_put present (steady.imp id fun alone => alone j other different there) (sorted.plans j other there)

variable [Weighted 1 Nat S]

theorem permitted_updated (permitted : Permitted s) (found : s.calls[k]? = some call) (present : s.heap[st]? = some old)
    (conserved : ∀ id, new.eIDs.count id + phase.inHand.count id = old.eIDs.count id + call.phase.inHand.count id)
    (before : call.phase.waitsFor = none) (after : phase.waitsFor = none) :
    Permitted ((s.putState st new).move k call phase) := by
  constructor
  · intro id
    have same : taken ((s.putState st new).move k call phase) id = taken s id := by
      have recorded := tally_set (fun state : AnchorState => state.eIDs.count id) present new
      have moved := tally_moved (fun phase => phase.inHand.count id) found phase
      have total := conserved id
      simp only [taken, move, putState]
      omega
    rw [same]
    exact permitted.sound id
  · intro id j
    refine (permitted.queues id j).trans (Iff.trans ?_ (waits_moved found j id).symm)
    split
    · rename_i same
      subst same
      simp [found, before, after]
    · exact Iff.rfl

-- A call goes from one phase to another and changes the state it works on.
theorem updated_invariant (invariant : Invariant s) (found : s.calls[k]? = some call) (present : s.heap[st]? = some old)
    {was : Phase} (phased : call.phase = was) (before : was.Within st) (after : phase.Within st)
    (refs : new.refs + was.refersTo st = old.refs + phase.refersTo st)
    (locks : new.locked.toNat + was.occupies st = old.locked.toNat + phase.occupies st)
    (live : phase.address = some st → s.anchors call.anchor = some st)
    (kept : new.eIDs ≠ [] → ∃ anchor, s.anchors anchor = some st)
    (conserved : ∀ id, new.eIDs.count id + phase.inHand.count id = old.eIDs.count id + was.inHand.count id)
    (quiet : was.waitsFor = none ∧ phase.waitsFor = none) (record : new.eIDs.Pairwise (· < ·))
    (plan : phase.Planned (s.heap.set st new))
    (steady : new.eIDs = old.eIDs ∨ ∀ j other, j ≠ k → s.calls[j]? = some other → other.phase.critical ≠ some st) :
    Invariant ((s.putState st new).move k call phase) := by
  subst phased
  exact ⟨tabled_updated invariant.tabled found present before after refs locks live kept,
    permitted_updated invariant.permitted found present conserved quiet.1 quiet.2,
    sorted_updated invariant.sorted found present record plan steady⟩

end Updated

section Table

variable {s : System S} {anchor other : Anchor} {st k : Nat} {call : Call}

def System.create (s : System S) (anchor : Anchor) : System S :=
  { s with
    heap := s.heap ++ [{ refs := 0, eIDs := [], locked := false }]
    anchors := update s.anchors anchor (some s.heap.length) }

def System.evict (s : System S) (anchor : Anchor) : System S := { s with anchors := update s.anchors anchor none }

def System.append (s : System S) (call : Call) : System S := { s with calls := s.calls ++ [call] }

@[simp] theorem create_self : (s.create anchor).anchors anchor = some s.heap.length := update_self ..

theorem create_other (different : other ≠ anchor) : (s.create anchor).anchors other = s.anchors other :=
  update_of_ne different ..

@[simp] theorem evict_self : (s.evict anchor).anchors anchor = none := update_self ..

theorem evict_other (different : other ≠ anchor) : (s.evict anchor).anchors other = s.anchors other :=
  update_of_ne different ..

theorem look_up_existing {old : AnchorState} (entry : s.anchors anchor = some st) (present : s.heap[st]? = some old) :
    s.lookUp anchor = (st, s.putState st { old with refs := old.refs + 1 }) := by
  have same : s.heap.modify st (fun state => { state with refs := state.refs + 1 }) =
      s.heap.set st { old with refs := old.refs + 1 } := by
    rw [modify_eq_set_getElem?, present]
    rfl
  simp [lookUp, entry, same, putState]

theorem look_up_missing (missing : s.anchors anchor = none) :
    s.lookUp anchor = (s.heap.length, (s.create anchor).putState s.heap.length { refs := 1, eIDs := [], locked := false }) := by
  simp [lookUp, missing, create, putState]

theorem tabled_create (tabled : Tabled s) (missing : s.anchors anchor = none) : Tabled (s.create anchor) := by
  have entries : ∀ other st, (s.create anchor).anchors other = some st →
      (other = anchor ∧ st = s.heap.length) ∨ (other ≠ anchor ∧ s.anchors other = some st) := by
    intro other st entry
    by_cases same : other = anchor
    · subst same
      rw [create_self] at entry
      exact .inl ⟨rfl, (Option.some.inj entry).symm⟩
    · rw [create_other same] at entry
      exact .inr ⟨same, entry⟩
  have unaddressed : ∀ (k : Nat) call, s.calls[k]? = some call → call.phase.address ≠ some s.heap.length :=
    fun k call found address => Nat.lt_irrefl _ (tabled.within _ _ (tabled.live k call _ found address))
  constructor
  · intro st state there
    rcases append_cases there with there | ⟨rfl, rfl⟩
    · exact tabled.refs st state there
    · exact (tally_eq_zero fun k call found => if_neg (unaddressed k call found)).symm
  · intro st state there
    rcases append_cases there with there | ⟨rfl, rfl⟩
    · exact tabled.locked st state there
    · refine (tally_eq_zero fun k call found => if_neg fun critical => ?_).symm
      exact Nat.lt_irrefl _ (tabled.inside k call _ found critical)
  · intro k call st found address
    have entry := tabled.live k call st found address
    have other : call.anchor ≠ anchor := by
      rintro same
      rw [same, missing] at entry
      cases entry
    rw [create_other other]
    exact entry
  · intro other st entry
    simp only [create, length_append, length_singleton]
    rcases entries other st entry with ⟨_, rfl⟩ | ⟨_, entry⟩
    · exact Nat.lt_succ_self _
    · exact Nat.lt_succ_of_lt (tabled.within other st entry)
  · intro k call st found critical
    simp only [create, length_append, length_singleton]
    exact Nat.lt_succ_of_lt (tabled.inside k call st found critical)
  · intro one other st first second
    rcases entries one st first with ⟨rfl, rfl⟩ | ⟨_, first⟩
    · rcases entries other _ second with ⟨rfl, _⟩ | ⟨_, second⟩
      · rfl
      · exact absurd (tabled.within other _ second) (Nat.lt_irrefl _)
    · rcases entries other st second with ⟨_, rfl⟩ | ⟨_, second⟩
      · exact absurd (tabled.within one _ first) (Nat.lt_irrefl _)
      · exact tabled.apart one other st first second
  · intro st state there nonempty
    rcases append_cases there with there | ⟨_, rfl⟩
    · obtain ⟨other, entry⟩ := tabled.kept st state there nonempty
      have different : other ≠ anchor := by
        rintro rfl
        rw [missing] at entry
        cases entry
      exact ⟨other, (create_other different).trans entry⟩
    · exact absurd rfl nonempty

theorem tabled_evict {state : AnchorState} (tabled : Tabled s) (present : s.heap[st]? = some state)
    (entry : s.anchors anchor = some st) (unused : state.refs = 0) (nothing : state.eIDs = []) : Tabled (s.evict anchor) := by
  have entries : ∀ other x, (s.evict anchor).anchors other = some x → other ≠ anchor ∧ s.anchors other = some x := by
    intro other x found
    by_cases same : other = anchor
    · subst same
      rw [evict_self] at found
      cases found
    · rw [evict_other same] at found
      exact ⟨same, found⟩
  have others : ∀ other x, s.anchors other = some x → x ≠ st → (s.evict anchor).anchors other = some x := by
    intro other x found different
    have distinct : other ≠ anchor := by
      rintro rfl
      rw [entry] at found
      exact different (Option.some.inj found).symm
    exact (evict_other distinct).trans found
  refine ⟨tabled.refs, tabled.locked, ?_, ?_, tabled.inside, ?_, ?_⟩
  · intro k call x (found : s.calls[k]? = some call) address
    refine others _ _ (tabled.live k call x found address) ?_
    rintro rfl
    have none := tabled.refs x state present
    have some := le_tally (fun call : Call => call.phase.refersTo x) found
    simp only [refersTo, address, if_true] at some none
    omega
  · intro other x found
    exact tabled.within other x (entries other x found).2
  · intro one other x first second
    exact tabled.apart one other x (entries one x first).2 (entries other x second).2
  · intro x record (there : s.heap[x]? = some record) nonempty
    obtain ⟨other, found⟩ := tabled.kept x record there nonempty
    refine ⟨other, others other x found ?_⟩
    rintro rfl
    rw [present] at there
    exact nonempty (Option.some.inj there ▸ nothing)

theorem planned_create {phase : Phase} (inside : ∀ st, phase.critical = some st → st < s.heap.length)
    (planned : phase.Planned s.heap) : phase.Planned (s.create anchor).heap := by
  cases phase with
  | acquiring st deduped acquired todo stage =>
    refine ⟨planned.1, fun state there => ?_⟩
    rw [create, getElem?_append_left (inside st rfl)] at there
    exact planned.2 state there
  | _ => trivial

theorem sorted_create (tabled : Tabled s) (sorted : Sorted s) : Sorted (s.create anchor) := by
  constructor
  · intro st state there
    rcases append_cases there with there | ⟨_, rfl⟩
    · exact sorted.records st state there
    · exact List.Pairwise.nil
  · intro k call found
    exact planned_create (fun st critical => tabled.inside k call st found critical) (sorted.plans k call found)

variable [Weighted 1 Nat S]

theorem permitted_create (permitted : Permitted s) : Permitted (s.create anchor) := by
  refine ⟨fun id => ?_, permitted.queues⟩
  have same : taken (s.create anchor) id = taken s id := by
    simp [taken, create]
  rw [same]
  exact permitted.sound id

theorem invariant_create (invariant : Invariant s) (missing : s.anchors anchor = none) : Invariant (s.create anchor) :=
  ⟨tabled_create invariant.tabled missing, permitted_create invariant.permitted,
    sorted_create invariant.tabled invariant.sorted⟩

theorem invariant_append (invariant : Invariant s) (fresh : call.phase = .entering) : Invariant (s.append call) := by
  have old : ∀ (k : Nat) other, (s.append call).calls[k]? = some other → s.calls[k]? = some other ∨ other.phase = .entering := by
    intro k other found
    rcases append_cases found with found | ⟨_, rfl⟩
    · exact .inl found
    · exact .inr fresh
  refine ⟨⟨?_, ?_, ?_, invariant.tabled.within, ?_, invariant.tabled.apart, invariant.tabled.kept⟩, ⟨?_, ?_⟩,
    ⟨invariant.sorted.records, ?_⟩⟩
  · intro st state there
    simpa [append, fresh, refersTo, address] using invariant.tabled.refs st state there
  · intro st state there
    simpa [append, fresh, occupies, critical] using invariant.tabled.locked st state there
  · intro k other st found address
    rcases old k other found with found | entering
    · exact invariant.tabled.live k other st found address
    · rw [entering] at address
      cases address
  · intro k other st found critical
    rcases old k other found with found | entering
    · exact invariant.tabled.inside k other st found critical
    · rw [entering] at critical
      cases critical
  · intro id
    have same : taken (s.append call) id = taken s id := by
      simp [taken, append, fresh, inHand]
    rw [same]
    exact invariant.permitted.sound id
  · intro id k
    refine (invariant.permitted.queues id k).trans ⟨?_, ?_⟩
    · rintro ⟨other, found, waits⟩
      have inside := (List.getElem?_eq_some_iff.mp found).1
      exact ⟨other, (List.getElem?_append_left inside).trans found, waits⟩
    · rintro ⟨other, found, waits⟩
      rcases old k other found with found | entering
      · exact ⟨other, found, waits⟩
      · rw [entering] at waits
        cases waits
  · intro k other found
    rcases old k other found with found | entering
    · exact invariant.sorted.plans k other found
    · rw [entering]
      trivial

end Table

section Worked

variable {s : System S} {k : Nat} {call : Call} {phase : Phase} {eID : EnrollmentID} {sem : S}

theorem taken_worked (eID : EnrollmentID) (sem : S) (phase : Phase) (found : s.calls[k]? = some call) (id : EnrollmentID) :
    taken ((s.putSemaphore eID sem).move k call phase) id + call.phase.inHand.count id = taken s id + phase.inHand.count id := by
  have moved := tally_moved (fun phase => phase.inHand.count id) found phase
  simp only [taken, move, putSemaphore]
  omega

variable [Weighted 1 Nat S]

theorem permits_put (id : EnrollmentID) : (s.putSemaphore eID sem).permits id = if id = eID then view sem else s.permits id := by
  by_cases same : id = eID
  · subst same
    simp [permits, semaphoreFor, putSemaphore]
  · simp [permits, semaphoreFor, putSemaphore, same]

theorem permitted_worked {inHand : Nat} (permitted : Permitted s) (found : s.calls[k]? = some call)
    (sound : Semaphore.Sound 1 (view sem) inHand) (here : inHand + call.phase.inHand.count eID = taken s eID + phase.inHand.count eID)
    (elsewhere : ∀ id, id ≠ eID → phase.inHand.count id = call.phase.inHand.count id)
    (queue : ∀ j, j ∈ (view sem).queue ↔ if j = k then phase.waitsFor = some eID else j ∈ (s.permits eID).queue)
    (before : ∀ id, id ≠ eID → call.phase.waitsFor ≠ some id) (after : ∀ id, id ≠ eID → phase.waitsFor ≠ some id) :
    Permitted ((s.putSemaphore eID sem).move k call phase) := by
  have semaphores : ∀ id, ((s.putSemaphore eID sem).move k call phase).permits id =
      if id = eID then view sem else s.permits id := fun id => permits_put id
  constructor
  · intro id
    have count := taken_worked eID sem phase found id
    rw [semaphores]
    split
    · rename_i same
      subst same
      have exact : taken ((s.putSemaphore id sem).move k call phase) id = inHand := by omega
      rw [exact]
      exact sound
    · rename_i different
      have same : taken ((s.putSemaphore eID sem).move k call phase) id = taken s id := by
        have level := elsewhere id different
        omega
      rw [same]
      exact permitted.sound id
  · intro id j
    refine Iff.trans ?_ (waits_moved (s := s) found j id).symm
    rw [semaphores]
    split
    · rename_i same
      subst same
      rw [queue, permitted.queues]
    · rename_i different
      rw [permitted.queues]
      split
      · rename_i same
        subst same
        simp [found, before id different, after id different]
      · exact Iff.rfl

end Worked

end Panurus.Auditdb
