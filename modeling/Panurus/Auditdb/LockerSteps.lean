import Panurus.Auditdb.LockerInvariant

namespace Panurus.Auditdb

open List Lib Outcome Pointwise Tally Phase Weighted Auditdb.System

variable {S : Type}

section AcquireOne

variable [Weighted 1 Nat S] {k : Nat} {done : Option ContextError} {eID : EnrollmentID} {sem next : S} {stage : Stage}
  {attempted : Attempted} {inHand : Nat}

def Stage.hand (stage : Stage) : Nat := if stage = .taken then 1 else 0

def Attempted.hand : Attempted → Nat
  | .went stage => stage.hand
  | .acquired => 1
  | .failed _ => 0

structure Worked (k : Nat) (sem : S) (inHand : Nat) (stage : Stage) (next : S) (attempted : Attempted) : Prop where
  sound : ∃ left, Semaphore.Sound 1 (view next) left ∧ left + stage.hand = inHand + attempted.hand
  queue : ∀ j, j ∈ (view next).queue ↔ if j = k then attempted = .went .waiting else j ∈ (view sem).queue

theorem worked_still {left : Nat} (outside : k ∉ (view sem).queue) (still : attempted ≠ .went .waiting)
    (sound : Semaphore.Sound 1 (view next) left) (count : left + stage.hand = inHand + attempted.hand)
    (same : (view next).queue.Perm (view sem).queue) : Worked k sem inHand stage next attempted := by
  refine ⟨⟨left, sound, count⟩, fun j => ?_⟩
  rw [same.mem_iff]
  split
  · rename_i here
    subst here
    exact iff_of_false outside still
  · exact Iff.rfl

theorem queue_left (still : attempted ≠ .went .waiting) (j : Nat) :
    (j ≠ k ∧ j ∈ (view sem).queue) ↔ if j = k then attempted = .went .waiting else j ∈ (view sem).queue := by
  split
  · rename_i same
    exact iff_of_false (fun both => both.1 same) still
  · rename_i different
    exact and_iff_right different

-- The permit that is given back is one that is held, so the release does not panic.
theorem acquire_one_outcome (eID : EnrollmentID) (sound : Semaphore.Sound 1 (view sem) inHand)
    (mine : stage = .taken → 0 < inHand) (queued : k ∈ (view sem).queue ↔ stage = .waiting) :
    acquireOne k done eID sem stage = .error disabled ∨
      ∃ next attempted, acquireOne k done eID sem stage = .ok (next, attempted) ∧ Worked k sem inHand stage next attempted := by
  have outside : stage ≠ .waiting → k ∉ (view sem).queue := fun other inside => other (queued.mp inside)
  cases stage with
  | trying =>
    refine .inr ?_
    simp only [acquireOne]
    split
    · rename_i free
      obtain ⟨sound, same⟩ := try_acquire_sound sound free
      exact ⟨_, _, rfl, worked_still (outside (by simp)) (by simp) sound rfl (.of_eq same)⟩
    · exact ⟨_, _, rfl, worked_still (outside (by simp)) (by simp) sound rfl (.refl _)⟩
  | taken =>
    cases done with
    | none => exact .inr ⟨_, _, rfl, worked_still (outside (by simp)) (by simp) sound rfl (.refl _)⟩
    | some err =>
      rw [← Nat.sub_add_cancel (mine rfl)] at sound
      obtain ⟨returned, released, left, same⟩ := release_sound sound
      refine .inr ⟨returned, .failed (acquireError err eID false), by rw [acquireOne, released]; rfl, ?_⟩
      exact worked_still (outside (by simp)) (by simp) left (Nat.sub_add_cancel (mine rfl)) same
  | contended =>
    cases done with
    | some err => exact .inr ⟨_, _, rfl, worked_still (outside (by simp)) (by simp) sound rfl (.refl _)⟩
    | none =>
      refine .inr ?_
      simp only [acquireOne]
      split
      · rename_i free
        obtain ⟨sound, same⟩ := try_acquire_sound sound free
        exact ⟨_, _, rfl, worked_still (outside (by simp)) (by simp) sound rfl (.of_eq same)⟩
      · obtain ⟨sound, members⟩ := enqueue_sound sound (outside (by simp))
        refine ⟨_, _, rfl, ⟨_, sound, rfl⟩, fun j => (members j).trans ?_⟩
        by_cases same : j = k
        · simp [same]
        · simp [same]
  | waiting =>
    cases done with
    | some err =>
      obtain ⟨sound, members⟩ := abandon_sound (w := k) sound
      exact .inr ⟨_, _, rfl, ⟨_, sound, rfl⟩, fun j => (members j).trans (queue_left (by simp) j)⟩
    | none =>
      cases granted : accept sem k with
      | none => exact .inl (by rw [acquireOne, granted]; rfl)
      | some accepted =>
        obtain ⟨sound, members⟩ := accept_sound sound granted
        exact .inr ⟨accepted, .acquired, by rw [acquireOne, granted]; rfl, ⟨_, sound, rfl⟩,
          fun j => (members j).trans (queue_left (by simp) j)⟩

end AcquireOne

variable {next s : System S}

open Attempted

section Advance

variable {s : System S} {k st : Nat} {call : Call} {old : AnchorState} {phase : Phase}
  {deduped acquired : List EnrollmentID} {stage : Stage} {result : Result} {eID id : EnrollmentID} {sem : S}
  {done : Option ContextError}

theorem refs_pos (tabled : Tabled s) (found : s.calls[k]? = some call) (present : s.heap[st]? = some old)
    (address : call.phase.address = some st) : 0 < old.refs := by
  have count := le_tally (fun call : Call => call.phase.refersTo st) found
  simp only [refersTo, address, if_true] at count
  rw [tabled.refs st old present]
  exact count

theorem locked_of_critical (tabled : Tabled s) (found : s.calls[k]? = some call) (present : s.heap[st]? = some old)
    (critical : call.phase.critical = some st) : old.locked = true := by
  have count := le_tally (fun call : Call => call.phase.occupies st) found
  have held := tabled.locked st old present
  cases free : old.locked with
  | true => rfl
  | false =>
    simp only [occupies, critical, if_true, free, Bool.toNat_false] at count held
    omega

theorem put_same (present : s.heap[st]? = some old) : s.putState st old = s := by
  obtain ⟨inside, rfl⟩ := List.getElem?_eq_some_iff.mp present
  simp [putState]

theorem tabled_worked (tabled : Tabled s)
    (found : s.calls[k]? = some call) (works : call.phase.Works st) (still : phase.Works st) :
    Tabled ((s.putSemaphore eID sem).move k call phase) := by
  have entry := tabled.live k call st found works.address
  have inside := tabled.within call.anchor st entry
  have present := getElem?_eq_getElem inside
  have moved : Tabled ((s.putState st s.heap[st]).move k call phase) := by
    refine tabled_updated tabled found present works.within still.within ?_ ?_ (fun _ => entry) (fun _ => ⟨_, entry⟩)
    · rw [refers_here works.address, refers_here still.address]
    · rw [occupies_here works.critical, occupies_here still.critical]
  rw [put_same present] at moved
  exact ⟨moved.refs, moved.locked, moved.live, moved.within, moved.inside, moved.apart, moved.kept⟩

theorem sorted_worked (sorted : Sorted s)
    (found : s.calls[k]? = some call) (plan : phase.Planned s.heap) : Sorted ((s.putSemaphore eID sem).move k call phase) := by
  refine ⟨sorted.records, fun j other there => ?_⟩
  rcases set_cases found there with ⟨_, rfl⟩ | ⟨_, there⟩
  · exact plan
  · exact sorted.plans j other there

theorem taken_pos (found : s.calls[k]? = some call) (mine : id ∈ call.phase.inHand) : 0 < taken s id := by
  have count := le_tally (fun call : Call => call.phase.inHand.count id) found
  have some := count_pos_iff.mpr mine
  simp only [taken]
  omega

theorem and_sort_sorted (source : List EnrollmentID) : (andSort source).Pairwise (· < ·) := by
  have nodup : (andSort source).Nodup := (perm_insertionSort _ _).nodup_iff.mpr (nodup_dedup source)
  have sorted : (andSort source).Pairwise (· ≤ ·) := pairwise_insertionSort _ _
  exact (sorted.and nodup).imp fun both => Std.lt_of_le_of_ne both.1 both.2

theorem commit_count {eIDs : List EnrollmentID} (plan : acquired = added deduped eIDs)
    (narrow : eIDs = [] ∨ added deduped eIDs = []) (sorted : deduped.Nodup) (record : eIDs.Nodup) (id : EnrollmentID) :
    deduped.count id + (dropped eIDs deduped).count id = eIDs.count id + acquired.count id := by
  rcases narrow with rfl | none
  · simp [plan, added, dropped]
  · have held : ∀ id ∈ deduped, id ∈ eIDs := by
      simpa [added, filter_eq_nil_iff] using none
    rw [plan, none]
    by_cases wanted : id ∈ deduped
    · have gone : id ∉ dropped eIDs deduped := by
        simp [dropped, wanted]
      rw [count_eq_one_of_mem sorted wanted, count_eq_one_of_mem record (held id wanted), count_eq_zero_of_not_mem gone]
      rfl
    · rw [dropped, count_filter (by simpa using wanted), count_eq_zero_of_not_mem wanted]
      simp

variable [Weighted 1 Nat S]

section Attempted

variable {deduped acquired todo : List EnrollmentID} {eID : EnrollmentID} {attempted : Attempted}

theorem attempted_works : (attempted.phase st deduped acquired eID todo).Works st := by
  cases attempted with
  | went | acquired | failed => exact ⟨rfl, rfl, rfl⟩

theorem attempted_in_hand (id : EnrollmentID) :
    (attempted.phase st deduped acquired eID todo).inHand.count id =
      acquired.count id + if id = eID then attempted.hand else 0 := by
  have single : count id [eID] = if id = eID then 1 else 0 := by
    by_cases same : id = eID
    · simp [same]
    · simp [same, Ne.symm same]
  cases attempted with
  | went stage =>
    cases stage with
    | taken => simpa [phase, inHand, hand, Stage.hand] using single
    | _ => simp [phase, inHand, hand, Stage.hand]
  | acquired => simpa [phase, inHand, hand] using single
  | failed failure => simp [phase, inHand, hand]

theorem attempted_waits (id : EnrollmentID) :
    (attempted.phase st deduped acquired eID todo).waitsFor = some id ↔ attempted = .went .waiting ∧ id = eID := by
  cases attempted with
  | went stage => cases stage <;> simp [phase, waitsFor, eq_comm]
  | acquired => cases todo <;> simp [phase, waitsFor]
  | failed failure => simp [phase, waitsFor]

theorem attempted_planned {heap : List AnchorState}
    (plan : Phase.Planned heap (.acquiring st deduped acquired (eID :: todo) stage)) :
    (attempted.phase st deduped acquired eID todo).Planned heap := by
  cases attempted with
  | went stage => exact plan
  | acquired => simpa [phase, Phase.Planned] using plan
  | failed failure => trivial

end Attempted

theorem semaphore_present (permitted : Permitted s) (some : 0 < taken s id) : s.sems id = Option.some (s.semaphoreFor id) := by
  cases entry : s.sems id with
  | some sem => simp [semaphoreFor, entry]
  | none =>
    have counts := (permitted.sound id).counts
    simp only [permits, semaphoreFor, entry, Option.getD_none, new_view, Semaphore.new, length_nil] at counts
    omega

theorem release_one_ok (permitted : Permitted s) (some : 0 < taken s id) :
    ∃ sem, s.releaseOne id = .ok (s.putSemaphore id sem) ∧ Semaphore.Sound 1 (view sem) (taken s id - 1) ∧
      (view sem).queue.Perm (s.permits id).queue := by
  have sound := permitted.sound id
  rw [← Nat.sub_add_cancel some] at sound
  obtain ⟨sem, released, sound, same⟩ := release_sound sound
  refine ⟨sem, ?_, sound, same⟩
  rw [releaseOne, semaphore_present permitted some]
  simp only [released]
  rfl

inductive Change (s : System S) (k : Nat) (done : Option ContextError) (call : Call) : System S → Prop
  | looked (phase : call.phase = .entering) :
      Change s k done call ((s.lookUp call.anchor).2.move k call (.queued (s.lookUp call.anchor).1))
  | locked {st : Nat} {old : AnchorState} (phase : call.phase = .queued st) (present : s.heap[st]? = some old)
      (free : old.locked = false) :
      Change s k done call ((s.putState st (entered call.anchor st { old with locked := true } call.operation).1).move k call
        (entered call.anchor st { old with locked := true } call.operation).2)
  | committed {st : Nat} {old : AnchorState} {deduped acquired : List EnrollmentID} {stage : Stage}
      (phase : call.phase = .acquiring st deduped acquired [] stage) (present : s.heap[st]? = some old) :
      Change s k done call ((s.putState st { old with eIDs := deduped }).move k call
        (.releasing st (dropped old.eIDs deduped) (.ok ())))
  | worked {st : Nat} {deduped acquired todo : List EnrollmentID} {eID : EnrollmentID} {stage : Stage} {sem : S}
      {attempted : Attempted} (phase : call.phase = .acquiring st deduped acquired (eID :: todo) stage)
      (worked : acquireOne k done eID (s.semaphoreFor eID) stage = .ok (sem, attempted)) :
      Change s k done call ((s.putSemaphore eID sem).move k call (attempted.phase st deduped acquired eID todo))
  | released {st : Nat} {id : EnrollmentID} {rest : List EnrollmentID} {result : Result} {after : System S}
      (phase : call.phase = .releasing st (id :: rest) result) (released : s.releaseOne id = .ok after) :
      Change s k done call (after.move k call (.releasing st rest result))
  | left {st : Nat} {old : AnchorState} {result : Result} (phase : call.phase = .releasing st [] result)
      (present : s.heap[st]? = some old) :
      Change s k done call ((s.leave call.anchor st old).move k call (.unlocking st result))
  | unlocked {st : Nat} {old : AnchorState} {result : Result} (phase : call.phase = .unlocking st result)
      (present : s.heap[st]? = some old) :
      Change s k done call ((s.putState st { old with locked := false }).move k call (.returned result))

theorem advance_change (stepped : s.advance k done = .ok next) : ∃ call, s.calls[k]? = some call ∧ Change s k done call next := by
  simp only [advance, ok_iff] at stepped
  obtain ⟨call, found, stepped⟩ := stepped
  refine ⟨call, found, ?_⟩
  split at stepped
  · rename_i phase
    cases stepped
    exact .looked phase
  · rename_i phase
    simp only [ok_iff] at stepped
    obtain ⟨old, present, _, free, rfl⟩ := stepped
    exact .locked phase present free
  · rename_i phase
    simp only [ok_iff] at stepped
    obtain ⟨old, present, rfl⟩ := stepped
    exact .committed phase present
  · rename_i phase
    simp only [ok_iff] at stepped
    obtain ⟨⟨sem, attempted⟩, worked, rfl⟩ := stepped
    exact .worked phase worked
  · rename_i phase
    simp only [ok_iff] at stepped
    obtain ⟨after, released, rfl⟩ := stepped
    exact .released phase released
  · rename_i phase
    simp only [ok_iff] at stepped
    obtain ⟨old, present, rfl⟩ := stepped
    exact .left phase present
  · rename_i phase
    simp only [ok_iff] at stepped
    obtain ⟨old, present, rfl⟩ := stepped
    exact .unlocked phase present
  · cases stepped

section

variable (invariant : Invariant s) (found : s.calls[k]? = some call)
include invariant found

theorem looked_invariant (phase : call.phase = .entering)
    (entry : s.anchors call.anchor = some st) (present : s.heap[st]? = some old) :
    Invariant ((s.putState st { old with refs := old.refs + 1 }).move k call (.queued st)) := by
  refine updated_invariant invariant found present phase trivial rfl ?_ rfl (fun _ => entry) (fun _ => ⟨_, entry⟩)
    (fun _ => rfl) ⟨rfl, rfl⟩ (invariant.sorted.records st old present) trivial (.inl rfl)
  rw [refers_nowhere rfl, refers_here rfl]

theorem entering_invariant (phase : call.phase = .entering) :
    Invariant ((s.lookUp call.anchor).2.move k call (.queued (s.lookUp call.anchor).1)) := by
  cases entry : s.anchors call.anchor with
  | none =>
    rw [look_up_missing entry]
    have created := invariant_create invariant entry
    have present : (s.create call.anchor).heap[s.heap.length]? = some { refs := 0, eIDs := [], locked := false } := by
      simp [create]
    exact looked_invariant created found phase create_self present
  | some st =>
    have inside := invariant.tabled.within call.anchor st entry
    have present := getElem?_eq_getElem inside
    rw [look_up_existing entry present]
    exact looked_invariant invariant found phase entry present

theorem taken_over_invariant {new : AnchorState} (queued : call.phase = .queued st) (present : s.heap[st]? = some old)
    (free : old.locked = false) (refs : new.refs = old.refs) (lock : new.locked = true) (works : phase.Works st)
    (conserved : ∀ id, new.eIDs.count id + phase.inHand.count id = old.eIDs.count id)
    (quiet : phase.waitsFor = none) (fewer : new.eIDs.Sublist old.eIDs) (plan : phase.Planned (s.heap.set st new)) :
    Invariant ((s.putState st new).move k call phase) := by
  have entry : s.anchors call.anchor = some st := invariant.tabled.live k call st found (by rw [queued]; rfl)
  refine updated_invariant invariant found present queued rfl works.within ?_ ?_ (fun _ => entry) (fun _ => ⟨_, entry⟩) conserved
    ⟨rfl, quiet⟩ ((invariant.sorted.records st old present).sublist fewer) plan
    (.inr fun j other _ there => free_of_unlocked invariant.tabled present free there)
  · rw [refs, refers_here works.address, refers_here rfl]
  · rw [lock, free, occupies_here works.critical, occupies_nowhere rfl]
    rfl

theorem queued_invariant (queued : call.phase = .queued st)
    (present : s.heap[st]? = some old) (free : old.locked = false) :
    Invariant ((s.putState st (entered call.anchor st { old with locked := true } call.operation).1).move k call
      (entered call.anchor st { old with locked := true } call.operation).2) := by
  cases operation : call.operation with
  | releaseLocks =>
    exact taken_over_invariant invariant found queued present free rfl rfl ⟨rfl, rfl, rfl⟩
      (fun id => by simp [entered, inHand]) rfl (nil_sublist _) trivial
  | acquireLocks eIDs =>
    simp only [entered]
    split
    · exact taken_over_invariant invariant found queued present free rfl rfl ⟨rfl, rfl, rfl⟩
        (fun id => by simp [inHand]) rfl (List.Sublist.refl _) trivial
    · split
      · exact taken_over_invariant invariant found queued present free rfl rfl ⟨rfl, rfl, rfl⟩
          (fun id => by simp [inHand]) rfl (List.Sublist.refl _) trivial
      · rename_i narrow
        refine taken_over_invariant invariant found queued present free rfl rfl ⟨rfl, rfl, rfl⟩
          (fun id => by simp [inHand]) ?_ (List.Sublist.refl _) ⟨and_sort_sorted eIDs, fun state there => ?_⟩
        · cases added (andSort eIDs) old.eIDs with
          | nil | cons eID todo => rfl
        · rcases set_cases present there with ⟨_, rfl⟩ | ⟨different, _⟩
          · refine ⟨rfl, ?_⟩
            tauto
          · exact absurd rfl different

theorem commit_invariant (phase : call.phase = .acquiring st deduped acquired [] stage) (present : s.heap[st]? = some old) :
    Invariant ((s.putState st { old with eIDs := deduped }).move k call (.releasing st (dropped old.eIDs deduped) (.ok ()))) := by
  have entry : s.anchors call.anchor = some st := invariant.tabled.live k call st found (by rw [phase]; rfl)
  have plan := invariant.sorted.plans k call found
  rw [phase] at plan
  obtain ⟨planned, narrow⟩ := plan.2 old present
  have critical : call.phase.critical = some st := by rw [phase]; rfl
  refine updated_invariant invariant found present phase rfl rfl ?_ ?_ (fun _ => entry) (fun _ => ⟨_, entry⟩) (fun id => ?_)
    ⟨rfl, rfl⟩ plan.1 trivial
    (.inr fun j other different there => alone_of_critical invariant.tabled present found critical different there)
  · rw [refers_here rfl, refers_here rfl]
  · rw [occupies_here rfl, occupies_here rfl]
  · have count := commit_count (by simpa using planned) narrow (plan.1.imp Std.ne_of_lt)
      ((invariant.sorted.records st old present).imp Std.ne_of_lt) id
    simpa [inHand] using count

theorem unlock_invariant (phase : call.phase = .unlocking st result) (present : s.heap[st]? = some old) :
    Invariant ((s.putState st { old with locked := false }).move k call (.returned result)) := by
  have held : old.locked = true := locked_of_critical invariant.tabled found present (by rw [phase]; rfl)
  refine updated_invariant invariant found present phase rfl trivial rfl ?_ (by simp [address])
    (invariant.tabled.kept st old present) (fun _ => rfl) ⟨rfl, rfl⟩ (invariant.sorted.records st old present) trivial (.inl rfl)
  rw [held, occupies_here rfl]
  rfl

theorem leave_invariant (phase : call.phase = .releasing st [] result) (present : s.heap[st]? = some old) :
    Invariant ((s.leave call.anchor st old).move k call (.unlocking st result)) := by
  have entry : s.anchors call.anchor = some st := invariant.tabled.live k call st found (by rw [phase]; rfl)
  have counted : 0 < old.refs := refs_pos invariant.tabled found present (by rw [phase]; rfl)
  have left : Invariant ((s.putState st { old with refs := old.refs - 1 }).move k call (.unlocking st result)) := by
    refine updated_invariant invariant found present phase rfl rfl ?_ ?_ (fun _ => entry) (fun _ => ⟨_, entry⟩) (fun _ => rfl)
      ⟨rfl, rfl⟩ (invariant.sorted.records st old present) trivial (.inl rfl)
    · rw [refers_here rfl, refers_nowhere rfl]
      exact Nat.sub_add_cancel counted
    · rw [occupies_here rfl, occupies_here rfl]
  simp only [leave]
  split
  · rename_i evicted
    have inside := (List.getElem?_eq_some_iff.mp present).1
    have there : ((s.putState st { old with refs := old.refs - 1 }).move k call (.unlocking st result)).heap[st]? =
        some { old with refs := old.refs - 1 } := List.getElem?_set_self inside
    exact ⟨tabled_evict left.tabled there entry evicted.1 evicted.2, ⟨left.permitted.sound, left.permitted.queues⟩,
      ⟨left.sorted.records, left.sorted.plans⟩⟩
  · exact left

theorem acquiring_outcome {todo : List EnrollmentID} (done : Option ContextError)
    (phase : call.phase = .acquiring st deduped acquired (eID :: todo) stage) :
    acquireOne k done eID (s.semaphoreFor eID) stage = .error disabled ∨
      ∃ sem attempted, acquireOne k done eID (s.semaphoreFor eID) stage = .ok (sem, attempted) ∧
        Worked k (s.semaphoreFor eID) (taken s eID) stage sem attempted := by
  refine acquire_one_outcome eID (invariant.permitted.sound eID) (fun taken => taken_pos found ?_) ?_
  · simp [phase, inHand, taken]
  · have began : call.phase = (went stage).phase st deduped acquired eID todo := phase
    change k ∈ (s.permits eID).queue ↔ _
    simp [invariant.permitted.queues, found, began, attempted_waits]

theorem acquiring_invariant {todo : List EnrollmentID} {attempted : Attempted}
    (phase : call.phase = .acquiring st deduped acquired (eID :: todo) stage)
    (worked : acquireOne k done eID (s.semaphoreFor eID) stage = .ok (sem, attempted)) :
    Invariant ((s.putSemaphore eID sem).move k call (attempted.phase st deduped acquired eID todo)) := by
  have began : call.phase = (went stage).phase st deduped acquired eID todo := phase
  have plan := invariant.sorted.plans k call found
  rw [phase] at plan
  obtain refused | ⟨_, _, made, ⟨left, sound, count⟩, members⟩ := acquiring_outcome invariant found done phase
  · cases worked.symm.trans refused
  cases worked.symm.trans made
  refine ⟨tabled_worked invariant.tabled found (by rw [began]; exact attempted_works) attempted_works,
    permitted_worked invariant.permitted found sound ?_ ?_ ?_ ?_ ?_, sorted_worked invariant.sorted found (attempted_planned plan)⟩
  · rw [began, attempted_in_hand, attempted_in_hand, if_pos rfl, if_pos rfl, hand]
    omega
  · intro id different
    rw [began, attempted_in_hand, attempted_in_hand, if_neg different, if_neg different]
  · intro j
    simpa only [attempted_waits, and_true, permits] using members j
  · intro id different
    simp [began, attempted_waits, different]
  · intro id different
    simp [attempted_waits, different]

theorem releasing_invariant {rest : List EnrollmentID} (phase : call.phase = .releasing st (id :: rest) result)
    (released : s.releaseOne id = .ok next) : Invariant (next.move k call (.releasing st rest result)) := by
  have mine : 0 < taken s id := taken_pos found (by simp [phase, inHand])
  obtain ⟨sem, done, sound, same⟩ := release_one_ok invariant.permitted mine
  cases done.symm.trans released
  refine ⟨tabled_worked invariant.tabled found (by rw [phase]; exact ⟨rfl, rfl, rfl⟩) ⟨rfl, rfl, rfl⟩,
    permitted_worked invariant.permitted found sound ?_ ?_ ?_ ?_ ?_, sorted_worked invariant.sorted found trivial⟩
  · simp only [phase, inHand, count_cons_self]
    omega
  · intro other different
    simp [phase, inHand, count_cons_of_ne (Ne.symm different)]
  · intro j
    rw [same.mem_iff]
    split
    · rename_i here
      subst here
      simp [invariant.permitted.queues, found, phase, waitsFor]
    · exact Iff.rfl
  · simp [phase, waitsFor]
  · simp [waitsFor]

theorem change_invariant (change : Change s k done call next) : Invariant next := by
  cases change with
  | looked phase => exact entering_invariant invariant found phase
  | locked phase present free => exact queued_invariant invariant found phase present free
  | committed phase present => exact commit_invariant invariant found phase present
  | worked phase worked => exact acquiring_invariant invariant found phase worked
  | released phase released => exact releasing_invariant invariant found phase released
  | left phase present => exact leave_invariant invariant found phase present
  | unlocked phase present => exact unlock_invariant invariant found phase present

end

end Advance

variable [Weighted 1 Nat S]

theorem empty_invariant : Invariant (empty : System S) :=
  ⟨⟨by simp [empty], by simp [empty], by simp [empty], by simp [empty], by simp [empty],
    by simp [empty], by simp [empty]⟩,
    ⟨fun id => by simpa [empty, taken, permits, semaphoreFor, new_view] using Semaphore.new_sound,
      by simp [empty, permits, semaphoreFor, new_view, Semaphore.new, Semaphore.queue]⟩,
    ⟨by simp [empty], by simp [empty]⟩⟩

theorem step_invariant {e : Event} (invariant : Invariant s) (stepped : s.step e = .ok next) : Invariant next := by
  cases e with
  | call anchor operation =>
    cases stepped
    exact invariant_append invariant rfl
  | advance k done =>
    obtain ⟨call, found, change⟩ := advance_change stepped
    exact change_invariant invariant found change

theorem run_keeps_invariant (invariant : Invariant s) (events : List Event) : Invariant (Attempts.run step s events) :=
  Attempts.run_invariant (fun _ s => Invariant s) s events
    (fun _ _ _ _ _ before stepped => step_invariant before stepped) invariant

end Panurus.Auditdb
