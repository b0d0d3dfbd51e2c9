import Panurus.Auditdb.LockerSteps

namespace Panurus.Auditdb

open List Lib Outcome Tally Attempts

variable {S : Type}

namespace System

def Recorded (s : System S) (anchor : Anchor) (id : EnrollmentID) : Prop :=
  ∃ st state, s.anchors anchor = some st ∧ s.heap[st]? = some state ∧ id ∈ state.eIDs

def recordAt (s : System S) (st : Nat) : Option (List EnrollmentID) := s.heap[st]?.map AnchorState.eIDs

end System

open Auditdb.System

variable {one other anchor : Anchor} {phase : Phase} {k : Nat} {call : Call} {id eID : EnrollmentID}

section Frames

variable {s next : System S} {st x : Nat} {old : AnchorState}

theorem recorded_count (recorded : s.Recorded anchor id) : 0 < tally (fun state => state.eIDs.count id) s.heap := by
  obtain ⟨st, state, _, present, member⟩ := recorded
  exact tally_pos_iff.mpr ⟨st, state, present, count_pos_iff.mpr member⟩

theorem works_once (tabled : Tabled s) {j st st' : Nat} {other : Call} (found : s.calls[k]? = some call)
    (present : s.calls[j]? = some other) (same : call.anchor = other.anchor) (works : call.phase.Works st)
    (works' : other.phase.Works st') : k = j := by
  have entry := tabled.live k call st found works.address
  have entry' := tabled.live j other st' present works'.address
  rw [← same] at entry'
  cases entry.symm.trans entry'
  have inside := tabled.within call.anchor st entry
  by_contra different
  exact alone_of_critical tabled (getElem?_eq_getElem inside) found works.critical (Ne.symm different) present
    works'.critical

theorem look_up_calls (anchor : Anchor) : (s.lookUp anchor).2.calls = s.calls := by
  unfold lookUp
  split <;> rfl

theorem leave_calls (anchor : Anchor) : (s.leave anchor x old).calls = s.calls := by
  simp only [leave]
  split <;> rfl

theorem own_phase (calls : next.calls = s.calls) (found : s.calls[k]? = some call) :
    (next.move k call phase).calls[k]? = some { call with phase } := by
  unfold move
  rw [calls]
  exact List.getElem?_set_self (List.getElem?_eq_some_iff.mp found).1

theorem record_put {new : AnchorState} (present : s.heap[x]? = some old)
    (steady : new.eIDs = old.eIDs ∨ x ≠ st) : (s.putState x new).recordAt st = s.recordAt st := by
  unfold recordAt putState
  by_cases same : x = st
  · subst same
    have inside := (List.getElem?_eq_some_iff.mp present).1
    rw [getElem?_set_self inside, present]
    exact congrArg some (steady.resolve_right fun different => different rfl)
  · rw [getElem?_set_ne same]

theorem record_leave (present : s.heap[x]? = some old) : (s.leave anchor x old).recordAt st = s.recordAt st := by
  have put : (s.putState x { old with refs := old.refs - 1 }).recordAt st = s.recordAt st := record_put present (.inl rfl)
  simp only [leave]
  split <;> exact put

theorem record_look_up (tabled : Tabled s) (inside : st < s.heap.length) : (s.lookUp anchor).2.recordAt st = s.recordAt st := by
  cases entry : s.anchors anchor with
  | none =>
    rw [look_up_missing entry]
    simp [recordAt, putState, create, getElem?_append_left inside]
  | some x =>
    have present := getElem?_eq_getElem (tabled.within anchor x entry)
    rw [look_up_existing entry present]
    exact record_put present (.inl rfl)

end Frames

variable [Weighted 1 Nat S]

namespace System

def InHand (s : System S) (anchor : Anchor) (id : EnrollmentID) : Prop :=
  ∃ k call, s.calls[k]? = some call ∧ call.anchor = anchor ∧
    (id ∈ call.phase.inHand ∨ k ∈ (s.permits id).ready)

def Holds (s : System S) (anchor : Anchor) (id : EnrollmentID) : Prop := s.Recorded anchor id ∨ s.InHand anchor id

def Taken (s : System S) (id : EnrollmentID) : Prop := (s.permits id).cur = 1

def WaitsFor (s : System S) (one other : Anchor) : Prop :=
  ∃ (k : Nat) (call : Call) (id : EnrollmentID) (place : Nat), s.calls[k]? = some call ∧ call.anchor = one ∧
    (s.permits id).waiters[place]? = some k ∧
      (s.Holds other id ∨ ∃ (j : Nat) (ahead : Call) (before : Nat), s.calls[j]? = some ahead ∧ ahead.anchor = other ∧
        (s.permits id).waiters[before]? = some j ∧ before < place)

end System

section Holding

variable {s : System S} {anchor : Anchor} {id : EnrollmentID}

theorem permit_count (permitted : Permitted s) (id : EnrollmentID) :
    (s.permits id).cur = tally (fun state => state.eIDs.count id) s.heap +
      tally (fun call => call.phase.inHand.count id) s.calls + (s.permits id).ready.length ∧ (s.permits id).cur ≤ 1 :=
  ⟨(permitted.sound id).counts, (permitted.sound id).bounded⟩

theorem in_hand_count (held : s.InHand anchor id) :
    0 < tally (fun call => call.phase.inHand.count id) s.calls + (s.permits id).ready.length := by
  obtain ⟨k, call, found, _, mine | set_aside⟩ := held
  · have some : 0 < tally (fun call => call.phase.inHand.count id) s.calls :=
      tally_pos_iff.mpr ⟨k, call, found, count_pos_iff.mpr mine⟩
    exact Nat.add_pos_left some _
  · exact Nat.add_pos_right _ (length_pos_of_mem set_aside)

theorem taken_of_holds (permitted : Permitted s) (holds : s.Holds anchor id) : s.Taken id := by
  obtain ⟨count, bounded⟩ := permit_count permitted id
  unfold Taken
  rcases holds with recorded | held
  · have some := recorded_count recorded
    omega
  · have some := in_hand_count held
    omega

theorem holds_of_taken (invariant : Invariant s) (taken : s.Taken id) : ∃ anchor, s.Holds anchor id := by
  obtain ⟨count, _⟩ := permit_count invariant.permitted id
  rw [Taken] at taken
  by_cases recorded : 0 < tally (fun state => state.eIDs.count id) s.heap
  · obtain ⟨st, state, present, some⟩ := tally_pos_iff.mp recorded
    have member := count_pos_iff.mp some
    obtain ⟨anchor, entry⟩ := invariant.tabled.kept st state present (ne_nil_of_mem member)
    exact ⟨anchor, .inl ⟨st, state, entry, present, member⟩⟩
  · by_cases mine : 0 < tally (fun call => call.phase.inHand.count id) s.calls
    · obtain ⟨k, call, found, some⟩ := tally_pos_iff.mp mine
      exact ⟨call.anchor, .inr ⟨k, call, found, rfl, .inl (count_pos_iff.mp some)⟩⟩
    · have some : 0 < (s.permits id).ready.length := by omega
      obtain ⟨k, set_aside⟩ := exists_mem_of_length_pos some
      obtain ⟨call, found, _⟩ := (invariant.permitted.queues id k).mp (mem_append_right _ set_aside)
      exact ⟨call.anchor, .inr ⟨k, call, found, rfl, .inr set_aside⟩⟩

theorem recorded_once (invariant : Invariant s) (first : s.Recorded one id) (second : s.Recorded other id) : one = other := by
  obtain ⟨count, bounded⟩ := permit_count invariant.permitted id
  obtain ⟨st, state, entry, present, member⟩ := first
  obtain ⟨st', state', entry', present', member'⟩ := second
  by_cases same : st = st'
  · subst same
    exact invariant.tabled.apart one other st entry entry'
  · have both := add_le_tally (fun state : AnchorState => state.eIDs.count id) present present' same
    have here := count_pos_iff.mpr member
    have there := count_pos_iff.mpr member'
    omega

theorem in_hand_once (invariant : Invariant s) (first : s.InHand one id) (second : s.InHand other id) : one = other := by
  obtain ⟨count, bounded⟩ := permit_count invariant.permitted id
  obtain ⟨k, call, found, rfl, mine⟩ := first
  obtain ⟨j, call', found', rfl, mine'⟩ := second
  by_cases same : k = j
  · subst same
    cases found.symm.trans found'
    rfl
  · exfalso
    have both := add_le_tally (fun call : Call => call.phase.inHand.count id) found found' same
    rcases mine with mine | mine
    · have here := count_pos_iff.mpr mine
      rcases mine' with mine' | mine'
      · have there := count_pos_iff.mpr mine'
        omega
      · have there := length_pos_of_mem mine'
        omega
    · have here := length_pos_of_mem mine
      rcases mine' with mine' | mine'
      · have there := count_pos_iff.mpr mine'
        omega
      · obtain ⟨w, single⟩ := length_eq_one_iff.mp (show (s.permits id).ready.length = 1 by omega)
        rw [single, mem_singleton] at mine mine'
        exact same (mine.trans mine'.symm)

theorem holds_once (invariant : Invariant s) (first : s.Holds one id) (second : s.Holds other id) : one = other := by
  obtain ⟨count, bounded⟩ := permit_count invariant.permitted id
  rcases first with first | first
  · rcases second with second | second
    · exact recorded_once invariant first second
    · have here := recorded_count first
      have there := in_hand_count second
      omega
  · rcases second with second | second
    · have here := in_hand_count first
      have there := recorded_count second
      omega
    · exact in_hand_once invariant first second

end Holding

section Evicted

variable {s : System S} {anchor : Anchor} {id : EnrollmentID}

theorem queued_waits (permitted : Permitted s) (found : s.calls[k]? = some call) (queued : k ∈ (s.permits id).queue) :
    call.phase.waitsFor = some id := by
  obtain ⟨other, there, waits⟩ := (permitted.queues id k).mp queued
  cases found.symm.trans there
  exact waits

theorem in_hand_works (mine : id ∈ phase.inHand ∨ phase.waitsFor = some id) : ∃ st, phase.Works st := by
  cases phase with
  | acquiring st deduped acquired todo stage | releasing st ids result => exact ⟨st, rfl, rfl, rfl⟩
  | _ => rcases mine with mine | mine <;> cases mine

theorem hand_works (permitted : Permitted s) (found : s.calls[k]? = some call)
    (mine : id ∈ call.phase.inHand ∨ k ∈ (s.permits id).ready) : ∃ st, call.phase.Works st :=
  in_hand_works (mine.imp_right fun set_aside => queued_waits permitted found (mem_append_right _ set_aside))

theorem evicted_holds_nothing (invariant : Invariant s) (evicted : s.anchors anchor = none) : ¬ s.Holds anchor id := by
  rintro (⟨st, state, entry, _⟩ | ⟨k, call, found, rfl, mine⟩)
  · rw [evicted] at entry
    cases entry
  · obtain ⟨st, works⟩ := hand_works invariant.permitted found mine
    have entry := invariant.tabled.live k call st found works.address
    rw [evicted] at entry
    cases entry

end Evicted

section Waiting

variable {s : System S} {place : Nat}

def WaitsAt (s : System S) (anchor : Anchor) (id : EnrollmentID) (place : Nat) : Prop :=
  ∃ (k : Nat) (call : Call), s.calls[k]? = some call ∧ call.anchor = anchor ∧ (s.permits id).waiters[place]? = some k

section

variable (invariant : Invariant s)
include invariant

theorem waiting_phase (found : s.calls[k]? = some call) (waits : (s.permits id).waiters[place]? = some k) :
    ∃ st deduped acquired todo, call.phase = .acquiring st deduped acquired (id :: todo) .waiting := by
  have waits := queued_waits invariant.permitted found (mem_append_left _ (mem_of_getElem? waits))
  unfold Phase.waitsFor at waits
  split at waits
  · rename_i st deduped acquired eID todo phase
    cases waits
    exact ⟨st, deduped, acquired, todo, phase⟩
  · cases waits

theorem waiting_holds {held : EnrollmentID} (waits : WaitsAt s anchor id place) (holds : s.Holds anchor held) : held < id := by
  obtain ⟨k, call, found, rfl, queued⟩ := waits
  obtain ⟨st, deduped, acquired, todo, phase⟩ := waiting_phase invariant found queued
  have works : call.phase.Works st := by rw [phase]; exact ⟨rfl, rfl, rfl⟩
  have entry := invariant.tabled.live k call st found works.address
  have inside := invariant.tabled.within call.anchor st entry
  have plan := invariant.sorted.plans k call found
  rw [phase] at plan
  obtain ⟨planned, narrow⟩ := plan.2 _ (getElem?_eq_getElem inside)
  have ordered : (acquired ++ id :: todo).Pairwise (· < ·) := by
    rw [planned]
    exact plan.1.sublist filter_sublist
  rcases holds with ⟨st', state, entry', present, member⟩ | ⟨j, other, present, same, mine⟩
  · cases entry.symm.trans entry'
    cases present.symm.trans (getElem?_eq_getElem inside)
    rcases narrow with nothing | nothing
    · rw [nothing] at member
      cases member
    · rw [nothing] at planned
      simp at planned
  · obtain ⟨st', works'⟩ := hand_works invariant.permitted present mine
    obtain rfl := works_once invariant.tabled found present same.symm works works'
    cases found.symm.trans present
    rcases mine with mine | set_aside
    · rw [phase] at mine
      simp only [Phase.inHand, reduceCtorEq, if_false, append_nil] at mine
      exact (pairwise_append.mp ordered).2.2 held mine id mem_cons_self
    · exfalso
      have waits := queued_waits invariant.permitted found (mem_append_right _ set_aside)
      rw [phase] at waits
      cases waits
      have distinct := (invariant.permitted.sound id).distinct
      exact (nodup_append.mp distinct).2.2 k (mem_of_getElem? queued) k set_aside rfl

theorem waits_at_once {id' : EnrollmentID} {place' : Nat} (first : WaitsAt s anchor id place)
    (second : WaitsAt s anchor id' place') : id = id' ∧ place = place' := by
  obtain ⟨k, call, found, rfl, queued⟩ := first
  obtain ⟨j, other, present, same, queued'⟩ := second
  obtain ⟨st, deduped, acquired, todo, phase⟩ := waiting_phase invariant found queued
  obtain ⟨st', deduped', acquired', todo', phase'⟩ := waiting_phase invariant present queued'
  have works : call.phase.Works st := by rw [phase]; exact ⟨rfl, rfl, rfl⟩
  have works' : other.phase.Works st' := by rw [phase']; exact ⟨rfl, rfl, rfl⟩
  obtain rfl := works_once invariant.tabled found present same.symm works works'
  cases found.symm.trans present
  cases phase.symm.trans phase'
  have distinct := (List.nodup_append.mp (invariant.permitted.sound id).distinct).1
  have inside := (List.getElem?_eq_some_iff.mp queued).1
  exact ⟨rfl, (List.getElem?_inj inside distinct).mp (queued.trans queued'.symm)⟩

theorem waits_for_grows (waits : s.WaitsFor one other) :
    ∃ id place, WaitsAt s one id place ∧ ∀ id' place', WaitsAt s other id' place' → id < id' ∨ (id = id' ∧ place' < place) := by
  obtain ⟨k, call, id, place, found, rfl, queued, holds | ⟨j, ahead, before, present, rfl, queued', less⟩⟩ := waits
  · refine ⟨id, place, ⟨k, call, found, rfl, queued⟩, fun id' place' waiting => .inl ?_⟩
    exact waiting_holds invariant waiting holds
  · refine ⟨id, place, ⟨k, call, found, rfl, queued⟩, fun id' place' waiting => .inr ?_⟩
    obtain ⟨rfl, rfl⟩ := waits_at_once invariant ⟨j, ahead, present, rfl, queued'⟩ waiting
    exact ⟨rfl, less⟩

theorem waits_for_chain (chain : Relation.TransGen s.WaitsFor one other) :
    ∃ id place, WaitsAt s one id place ∧ ∀ id' place', WaitsAt s other id' place' → id < id' ∨ (id = id' ∧ place' < place) := by
  induction chain with
  | single waits => exact waits_for_grows invariant waits
  | tail _ waits ih =>
    obtain ⟨id, place, start, bound⟩ := ih
    obtain ⟨id', place', middle, grows⟩ := waits_for_grows invariant waits
    refine ⟨id, place, start, fun last position waiting => ?_⟩
    rcases bound id' place' middle with first | ⟨rfl, first⟩
    · rcases grows last position waiting with second | ⟨rfl, _⟩
      · exact .inl (List.lt_trans first second)
      · exact .inl first
    · rcases grows last position waiting with second | ⟨rfl, second⟩
      · exact .inl second
      · exact .inr ⟨rfl, Nat.lt_trans second first⟩

theorem no_waiting_cycle (anchor : Anchor) : ¬ Relation.TransGen s.WaitsFor anchor anchor := by
  intro cycle
  obtain ⟨id, place, start, bound⟩ := waits_for_chain invariant cycle
  rcases bound id place start with less | ⟨_, less⟩
  · exact List.lt_irrefl id less
  · exact Nat.lt_irrefl place less

end

end Waiting

section Releases

variable {s : System S}

theorem disabled_ne : releasedMore ≠ disabled := by
  decide

theorem found_then {α β : Type} {value : Option α} {next : α → Outcome β}
    (later : ∀ found, value = some found → next found ≠ .error releasedMore) :
    (required value disabled >>= next) ≠ .error releasedMore := by
  intro panics
  rcases bind_error_iff.mp panics with missing | ⟨found, present, panics⟩
  · exact disabled_ne (required_error missing)
  · exact later found (required_ok_iff.mp present) panics

theorem advance_never_panics (invariant : Invariant s) (k : Nat) (done : Option ContextError) :
    s.advance k done ≠ .error releasedMore := by
  refine found_then fun call found panics => ?_
  split at panics
  · cases panics
  · refine found_then (fun old _ panics => ?_) panics
    rcases bind_error_iff.mp panics with busy | ⟨_, _, went⟩
    · exact disabled_ne (ensure_error busy)
    · cases went
  · exact found_then (by simp [pure, Except.pure]) panics
  · rename_i eID todo stage phase
    rcases bind_error_iff.mp panics with failed | ⟨_, _, went⟩
    · obtain refused | ⟨_, _, made, _⟩ := acquiring_outcome invariant found done phase
      · exact disabled_ne (Except.error.inj (failed.symm.trans refused))
      · cases failed.symm.trans made
    · cases went
  · rename_i id rest result phase
    rcases bind_error_iff.mp panics with failed | ⟨_, _, went⟩
    · obtain ⟨sem, released, _⟩ := release_one_ok invariant.permitted
        (taken_pos found (by simp [phase, Phase.inHand] : id ∈ call.phase.inHand))
      rw [released] at failed
      cases failed
    · cases went
  · exact found_then (by simp [pure, Except.pure]) panics
  · exact found_then (by simp [pure, Except.pure]) panics
  · exact disabled_ne (Except.error.inj panics).symm

end Releases

section Failing

variable {s next : System S} {k j st x : Nat} {call other : Call} {done : Option ContextError}
  {record eIDs : List EnrollmentID} {old : AnchorState} {kept : Prop}

theorem release_frame (released : s.releaseOne id = .ok next) : next.calls = s.calls ∧ next.heap = s.heap := by
  unfold releaseOne at released
  split at released
  · cases released
    exact ⟨rfl, rfl⟩
  · simp only [ok_iff] at released
    obtain ⟨sem, _, rfl⟩ := released
    exact ⟨rfl, rfl⟩

theorem record_release (st : Nat) (released : s.releaseOne id = .ok next) : next.recordAt st = s.recordAt st := by
  rw [recordAt, (release_frame released).2, recordAt]

theorem record_steady (tabled : Tabled s) (found : s.calls[k]? = some call) (critical : call.phase.critical = some st)
    (there : s.calls[j]? = some other) (different : j ≠ k) (change : Change s j done other next) :
    next.recordAt st = s.recordAt st := by
  have inside := tabled.inside k call st found critical
  have elsewhere : other.phase.critical ≠ some st :=
    alone_of_critical tabled (getElem?_eq_getElem inside) found critical different there
  cases change with
  | looked phase => exact record_look_up tabled inside
  | locked phase present free =>
    refine record_put present (.inr ?_)
    rintro rfl
    exact free_of_unlocked tabled present free found critical
  | committed phase present =>
    refine record_put present (.inr ?_)
    rintro rfl
    exact elsewhere (by rw [phase]; rfl)
  | worked phase worked => rfl
  | released phase released =>
    have kept := record_release st released
    exact kept
  | left phase present => exact record_leave present
  | unlocked phase present => exact record_put present (.inl rfl)

-- Until a call has succeeded, or has left its state, the record is what it was when the call got the mutex.
def Phase.Keeps (st : Nat) (kept : Prop) : Phase → Prop
  | .entering | .queued _ => False
  | .acquiring x _ _ _ _ | .releasing x _ (.error _) => x = st ∧ kept
  | _ => True

theorem keeps_of_not_critical {kept' : Prop} (keeps : phase.Keeps st kept)
    (same : phase.critical = some st → (kept → kept')) : phase.Keeps st kept' := by
  cases phase with
  | acquiring x deduped acquired todo stage =>
    obtain ⟨rfl, kept⟩ := keeps
    exact ⟨rfl, same rfl kept⟩
  | releasing x ids result =>
    cases result with
    | ok _ => trivial
    | error failure =>
      obtain ⟨rfl, kept⟩ := keeps
      exact ⟨rfl, same rfl kept⟩
  | entering | queued => exact keeps
  | unlocking | returned => trivial

theorem attempted_keeps {deduped acquired todo : List EnrollmentID} {attempted : Attempted}
    (holds : kept) : (attempted.phase st deduped acquired eID todo).Keeps st kept := by
  cases attempted with
  | went | acquired | failed => exact ⟨rfl, holds⟩

theorem change_calls (different : j ≠ k) (change : Change s j done other next) : next.calls[k]? = s.calls[k]? := by
  cases change with
  | looked phase =>
    rw [move, look_up_calls]
    exact getElem?_set_ne different
  | released phase released =>
    rw [move, (release_frame released).1]
    exact getElem?_set_ne different
  | left phase present =>
    rw [move, leave_calls]
    exact getElem?_set_ne different
  | _ => exact getElem?_set_ne different

def Keeping (s : System S) (k : Nat) (anchor : Anchor) (st : Nat) (record : List EnrollmentID) : Prop :=
  ∃ call, s.calls[k]? = some call ∧ call.anchor = anchor ∧ call.phase.Keeps st (s.recordAt st = some record)

theorem keeping_own (found : s.calls[k]? = some call) (keeps : call.phase.Keeps st (s.recordAt st = some record))
    (change : Change s k done call next) : Keeping next k call.anchor st record := by
  cases change with
  | looked phase | locked phase =>
    rw [phase] at keeps
    exact keeps.elim
  | committed phase present => exact ⟨_, own_phase rfl found, rfl, trivial⟩
  | worked phase worked =>
    rw [phase] at keeps
    obtain ⟨rfl, kept⟩ := keeps
    exact ⟨_, own_phase rfl found, rfl, attempted_keeps kept⟩
  | released phase released =>
    rename_i result after
    refine ⟨_, own_phase (release_frame released).1 found, rfl, ?_⟩
    rw [phase] at keeps
    cases result with
    | ok _ => trivial
    | error failure =>
      have same := record_release st released
      exact ⟨keeps.1, same.trans keeps.2⟩
  | left phase present => exact ⟨_, own_phase (leave_calls _) found, rfl, trivial⟩
  | unlocked phase present => exact ⟨_, own_phase rfl found, rfl, trivial⟩

theorem keeping_step {e : Event} (invariant : Invariant s) (keeping : Keeping s k anchor st record)
    (stepped : s.step e = .ok next) : Keeping next k anchor st record := by
  obtain ⟨call, found, rfl, keeps⟩ := keeping
  cases e with
  | call anchor operation =>
    cases stepped
    have inside := (List.getElem?_eq_some_iff.mp found).1
    exact ⟨call, (getElem?_append_left inside).trans found, rfl, keeps⟩
  | advance j done =>
    obtain ⟨other, there, change⟩ := advance_change stepped
    by_cases same : j = k
    · subst same
      cases found.symm.trans there
      exact keeping_own found keeps change
    · refine ⟨call, (change_calls same change).trans found, rfl, keeps_of_not_critical keeps ?_⟩
      intro critical kept
      rw [record_steady invariant.tabled found critical there same change]
      exact kept

theorem entered_keeps (st : Nat) (old : AnchorState) (operation : call.operation = .acquireLocks eIDs) :
    (entered call.anchor st old call.operation).1.eIDs = old.eIDs ∧ ∀ kept : Prop, kept →
      (entered call.anchor st old call.operation).2.Keeps st kept := by
  rw [operation]
  simp only [entered]
  split
  · exact ⟨rfl, fun _ _ => trivial⟩
  · split
    · exact ⟨rfl, fun _ kept => ⟨rfl, kept⟩⟩
    · exact ⟨rfl, fun _ kept => ⟨rfl, kept⟩⟩

theorem run_keeping (invariant : Invariant s) (keeping : Keeping s k anchor st record) (events : List Event) :
    Invariant (run step s events) ∧ Keeping (run step s events) k anchor st record :=
  run_invariant (fun _ s => Invariant s ∧ Keeping s k anchor st record) s events
    (fun _ _ _ _ _ before stepped => ⟨step_invariant before.1 stepped, keeping_step before.1 before.2 stepped⟩)
    ⟨invariant, keeping⟩

theorem holds_iff_record (entry : s.anchors anchor = some st) (recorded : s.recordAt st = some record)
    (emptyHanded : ∀ id, ¬ s.InHand anchor id) (id : EnrollmentID) : s.Holds anchor id ↔ id ∈ record := by
  obtain ⟨state, present, rfl⟩ := Option.map_eq_some_iff.mp recorded
  constructor
  · rintro (⟨x, there, entry', present', member⟩ | held)
    · cases entry.symm.trans entry'
      cases present.symm.trans present'
      exact member
    · exact absurd held (emptyHanded id)
  · intro member
    exact .inl ⟨st, state, entry, present, member⟩

theorem free_empty_handed (invariant : Invariant s) (entry : s.anchors call.anchor = some st)
    (present : s.heap[st]? = some old) (free : old.locked = false) (id : EnrollmentID) : ¬ s.InHand call.anchor id := by
  rintro ⟨j, other, there, same, mine⟩
  obtain ⟨x, works⟩ := hand_works invariant.permitted there mine
  have entry' := invariant.tabled.live j other x there works.address
  rw [same] at entry'
  cases entry.symm.trans entry'
  exact free_of_unlocked invariant.tabled present free there works.critical

theorem leaving_empty_handed {result : Result} (invariant : Invariant s) (found : s.calls[k]? = some call)
    (phase : call.phase = .releasing st [] result) (id : EnrollmentID) : ¬ s.InHand call.anchor id := by
  rintro ⟨j, other, there, same, mine⟩
  obtain ⟨x, works⟩ := hand_works invariant.permitted there mine
  have works' : call.phase.Works st := by rw [phase]; exact ⟨rfl, rfl, rfl⟩
  obtain rfl := works_once invariant.tabled there found same works works'
  cases found.symm.trans there
  rcases mine with mine | set_aside
  · rw [phase] at mine
    cases mine
  · have waits := queued_waits invariant.permitted found (mem_append_right _ set_aside)
    rw [phase] at waits
    cases waits

theorem acquire_keeping (found : s.calls[k]? = some call) (queued : call.phase = .queued st)
    (operation : call.operation = .acquireLocks eIDs) (stepped : s.advance k done = .ok next) :
    ∃ old, s.heap[st]? = some old ∧ old.locked = false ∧ Keeping next k call.anchor st old.eIDs := by
  obtain ⟨own, there, change⟩ := advance_change stepped
  cases found.symm.trans there
  cases change with
  | locked phase present free =>
    rename_i x old
    cases queued.symm.trans phase
    obtain ⟨same, keeps⟩ := entered_keeps st { old with locked := true } operation
    refine ⟨old, present, free, _, own_phase rfl found, rfl, keeps _ ((record_put present (.inl same)).trans ?_)⟩
    rw [recordAt, present]
    rfl
  | looked phase | committed phase | worked phase | released phase | left phase | unlocked phase =>
    cases queued.symm.trans phase

theorem failed_acquire_keeps (invariant : Invariant s) (found : s.calls[k]? = some call) (queued : call.phase = .queued st)
    (operation : call.operation = .acquireLocks eIDs) (stepped : s.advance k done = .ok next) (events : List Event)
    {failed : Call} {failure : Failure} (present : (run step next events).calls[k]? = some failed)
    (failing : failed.phase = .releasing x [] (.error failure)) (id : EnrollmentID) :
    (run step next events).Holds call.anchor id ↔ s.Holds call.anchor id := by
  obtain ⟨old, there, free, keeping⟩ := acquire_keeping found queued operation stepped
  have entry := invariant.tabled.live k call st found (by rw [queued]; rfl)
  have recorded : s.recordAt st = some old.eIDs := by
    rw [recordAt, there]
    rfl
  obtain ⟨later, own, known, same, keeps⟩ := run_keeping (step_invariant (e := .advance k done) invariant stepped) keeping events
  cases present.symm.trans known
  rw [failing] at keeps
  obtain ⟨rfl, kept⟩ := keeps
  have entry' := later.tabled.live k failed x present (by rw [failing]; rfl)
  rw [same] at entry'
  rw [holds_iff_record entry' kept (same ▸ leaving_empty_handed later present failing),
    holds_iff_record entry recorded (free_empty_handed invariant entry there free)]

end Failing

structure Safe (s : System S) : Prop where
  exclusive : ∀ id one other, s.Holds one id → s.Holds other id → one = other
  permits : ∀ id, s.Taken id ↔ ∃! anchor, s.Holds anchor id
  settled : ∀ id, (∀ anchor, ¬ s.InHand anchor id) → (s.Taken id ↔ ∃! anchor, s.Recorded anchor id)
  released : ∀ e, s.step e ≠ .error releasedMore
  evicted : ∀ anchor id, s.anchors anchor = none → ¬ s.Holds anchor id
  acyclic : ∀ anchor, ¬ Relation.TransGen s.WaitsFor anchor anchor
  failed : ∀ (k : Nat) call st eIDs done next events x failed failure, s.calls[k]? = some call → call.phase = .queued st →
    call.operation = .acquireLocks eIDs → s.advance k done = .ok next →
      (run step next events).calls[k]? = some failed → failed.phase = .releasing x [] (.error failure) →
        ∀ id, (run step next events).Holds call.anchor id ↔ s.Holds call.anchor id

theorem locker_safe (S : Type) [Weighted 1 Nat S] (events : List Event) : Safe (run step (empty : System S) events) := by
  have invariant : Invariant (run step (empty : System S) events) := run_keeps_invariant empty_invariant events
  generalize run step (empty : System S) events = s at invariant
  have permits : ∀ id, s.Taken id ↔ ∃! anchor, s.Holds anchor id := by
    intro id
    constructor
    · intro taken
      obtain ⟨anchor, holds⟩ := holds_of_taken invariant taken
      exact ⟨anchor, holds, fun other held => holds_once invariant held holds⟩
    · rintro ⟨anchor, holds, _⟩
      exact taken_of_holds invariant.permitted holds
  refine ⟨fun id one other => holds_once invariant, permits, ?_, ?_, fun anchor id => evicted_holds_nothing invariant,
    no_waiting_cycle invariant, ?_⟩
  · intro id none
    have same : ∀ anchor, s.Holds anchor id ↔ s.Recorded anchor id := fun anchor => or_iff_left (none anchor)
    simpa only [same] using permits id
  · intro e panics
    cases e with
    | call anchor operation => cases panics
    | advance k done => exact advance_never_panics invariant k done panics
  · intro k call st eIDs done next events x failed failure found queued operation stepped present failing
    exact failed_acquire_keeps invariant found queued operation stepped events present failing

namespace Contended

open Text

-- One anchor has the second id; the other has taken the first one and waits for the second.
def events : List Event :=
  [.call (ascii "a") (.acquireLocks [ascii "y"])] ++ replicate 7 (.advance 0 none) ++
    [.call (ascii "b") (.acquireLocks [ascii "y", ascii "x", ascii "y"])] ++ replicate 6 (.advance 1 none)

def reached : System (Queued 1 Nat) := run step empty events

theorem contended_safe : reached.Taken (ascii "x") ∧ ∃! anchor, reached.Holds anchor (ascii "x") := by
  have taken : reached.Taken (ascii "x") := by
    unfold Taken
    decide +kernel
  exact ⟨taken, ((locker_safe (Queued 1 Nat) events).permits _).mp taken⟩

theorem held_before_recorded : reached.Taken (ascii "x") ∧ ∀ anchor, ¬ reached.Recorded anchor (ascii "x") := by
  have nowhere : ∀ state ∈ reached.heap, ascii "x" ∉ state.eIDs := by
    decide +kernel
  have taken : (reached.permits (ascii "x")).cur = 1 := by
    decide +kernel
  refine ⟨taken, ?_⟩
  rintro anchor ⟨st, state, _, present, member⟩
  exact nowhere state (mem_of_getElem? present) member

end Contended

end Panurus.Auditdb
