import Panurus.Lib.Pointwise
import Panurus.Lib.Attempts
import Panurus.Lib.Outcome
import Panurus.Lib.Text

namespace Panurus.Recovery

open Lib Outcome List

structure Config where
  instanceID : Bytes
  workerCount : Nat
  transactionTimeout : Int
  notFoundGracePeriod : Int
deriving DecidableEq, Repr

structure RecoveryClaim where
  txID : Bytes
  storedAt : Option Int
deriving DecidableEq, Repr

-- What a manager asks of the handler and of the store. The return of a Recover call is noted as well.
inductive Call where
  | recover (txID owner : Bytes)
  | recovered (txID : Bytes)
  | setStatusOrphan (txID : Bytes)
  | releaseRecoveryClaim (txID owner : Bytes) (message : String)
deriving DecidableEq, Repr

-- Where an attempt is. Until its deadline a worker waits for it; past the deadline it is abandoned, and a goroutine of its
-- own waits for the late result.
inductive Stage where
  | waiting
  | answered (err : Option String)
  | finishing (err : Option String)
  | abandoned
  | late (err : Option String)
  | released
  | done
deriving DecidableEq, Repr

def Stage.busy : Stage → Bool
  | .waiting | .answered _ | .finishing _ => true
  | _ => false

def Stage.running : Stage → Bool
  | .waiting | .abandoned => true
  | _ => false

structure Attempt where
  claim : RecoveryClaim
  owner : Bytes
  stage : Stage
deriving DecidableEq, Repr

inductive Phase where
  | idle
  | leading
  | sweeping (ownerID : Bytes) (work : List RecoveryClaim)
  | closing
deriving DecidableEq, Repr

structure Manager where
  config : Config
  leadership : Bool
  inFlight : List Bytes
  phase : Phase
  attempts : List Attempt
deriving DecidableEq, Repr

def Manager.new (config : Config) : Manager :=
  { config, leadership := false, inFlight := [], phase := .idle, attempts := [] }

def contains (text part : String) : Bool := text.toList.tails.any fun rest => part.toList.isPrefixOf rest

def isNotFoundError : Option String → Bool
  | none => false
  | some msg =>
    contains msg "code = NotFound" || contains msg "not found in index" || contains msg "tx not found" ||
      contains msg "no such transaction ID"

-- The manager is not stopped, so a row that is not on the ledger after the grace period may be marked. The text of the
-- new status, which shows the age of the row, is left out.
def finishRecovery (config : Config) (now : Int) (setStatus : Outcome Unit) (claim : RecoveryClaim) (owner : Bytes)
    (err : Option String) : List Call :=
  let old := claim.storedAt.any fun storedAt => decide (now - storedAt > config.notFoundGracePeriod)
  let orphan := decide (config.notFoundGracePeriod > 0) && isNotFoundError err && old
  let message :=
    if orphan && setStatus.isOk then "tx marked Orphan after NotFound grace period"
    else match err with
      | some reason => s!"recovery failed: {reason}"
      | none => "recovered successfully"
  (if orphan then [.setStatusOrphan claim.txID] else []) ++ [.releaseRecoveryClaim claim.txID owner message]

namespace Manager

def busy (m : Manager) : Nat := m.attempts.countP fun attempt => attempt.stage.busy

def hasInFlight (m : Manager) : Bool := !m.inFlight.isEmpty

def clearInFlight (m : Manager) (txID : Bytes) : Manager :=
  { m with inFlight := m.inFlight.filter fun other => decide (other ≠ txID) }

def moveTo (m : Manager) (i : Nat) (attempt : Attempt) (stage : Stage) : Manager :=
  { m with attempts := m.attempts.set i { attempt with stage } }

-- The call of the handler starts: with a timeout the transaction is marked first, and an attempt that is still in flight
-- turns the new one away.
def callHandler (m : Manager) (ownerID : Bytes) (claim : RecoveryClaim) : Manager × List Call :=
  let started := { m with attempts := m.attempts ++ [{ claim, owner := ownerID, stage := .waiting }] }
  if m.config.transactionTimeout ≤ 0 then (started, [.recover claim.txID ownerID])
  else if claim.txID ∈ m.inFlight then (m, [])
  else ({ started with inFlight := claim.txID :: m.inFlight }, [.recover claim.txID ownerID])

end Manager

-- The steps of a manager between the acquisition of the leadership and its release. The claimed rows are those of a table
-- whose key is the transaction; an entry may be nil.
inductive Step where
  | claim (records : Outcome (List (Option RecoveryClaim)))
  | take
  | recovered (i : Nat) (err : Option String)
  | answer (i : Nat)
  | expire (i : Nat)
  | finish (i : Nat) (now : Int) (setStatus : Outcome Unit)
  | clear (i : Nat)
  | wait

def notEnabled {α : Type} : Outcome α := .error "not enabled"

def Manager.claimPending (m : Manager) (records : Outcome (List (Option RecoveryClaim))) : Outcome (Manager × List Call) :=
  match m.phase with
  | .leading =>
    match records with
    | .ok records => do
      let work := records.filterMap id
      ensure (work.map RecoveryClaim.txID).Nodup "a row was claimed twice"
      return ({ m with phase := .sweeping m.config.instanceID work }, [])
    | .error _ => .ok ({ m with phase := .sweeping m.config.instanceID [] }, [])
  | _ => notEnabled

def Manager.takeWork (m : Manager) : Outcome (Manager × List Call) :=
  match m.phase with
  | .sweeping ownerID (claim :: work) => do
    ensure (m.busy < m.config.workerCount) "no worker is free"
    return { m with phase := .sweeping ownerID work }.callHandler ownerID claim
  | _ => notEnabled

def Manager.recovered (m : Manager) (i : Nat) (err : Option String) : Outcome (Manager × List Call) := do
  let attempt ← required m.attempts[i]? "no such attempt"
  match attempt.stage with
  | .waiting =>
    return (m.moveTo i attempt (if m.config.transactionTimeout ≤ 0 then .finishing err else .answered err),
      [.recovered attempt.claim.txID])
  | .abandoned => return (m.moveTo i attempt (.late err), [.recovered attempt.claim.txID])
  | _ => notEnabled

def Manager.answer (m : Manager) (i : Nat) : Outcome (Manager × List Call) := do
  let attempt ← required m.attempts[i]? "no such attempt"
  match attempt.stage with
  | .answered err => return ((m.moveTo i attempt (.finishing err)).clearInFlight attempt.claim.txID, [])
  | _ => notEnabled

def Manager.expire (m : Manager) (i : Nat) : Outcome (Manager × List Call) := do
  let attempt ← required m.attempts[i]? "no such attempt"
  ensure (attempt.stage = .waiting ∧ 0 < m.config.transactionTimeout) "not enabled"
  return (m.moveTo i attempt .abandoned, [])

def Manager.finish (m : Manager) (i : Nat) (now : Int) (setStatus : Outcome Unit) : Outcome (Manager × List Call) := do
  let attempt ← required m.attempts[i]? "no such attempt"
  let calls := finishRecovery m.config now setStatus attempt.claim attempt.owner
  match attempt.stage with
  | .finishing err => return (m.moveTo i attempt .done, calls err)
  | .late err => return (m.moveTo i attempt .released, calls err)
  | _ => notEnabled

def Manager.clear (m : Manager) (i : Nat) : Outcome (Manager × List Call) := do
  let attempt ← required m.attempts[i]? "no such attempt"
  ensure (attempt.stage = .released) "not enabled"
  return ((m.moveTo i attempt .done).clearInFlight attempt.claim.txID, [])

-- The workers are done: the sweep ends, and the leadership is kept if an attempt is in flight.
def Manager.wait (m : Manager) : Outcome (Manager × List Call) :=
  match m.phase with
  | .sweeping _ [] => do
    ensure (m.busy = 0) "a worker is busy"
    return ({ m with phase := if m.hasInFlight then .idle else .closing }, [])
  | _ => notEnabled

def Manager.step (m : Manager) : Step → Outcome (Manager × List Call)
  | .claim records => m.claimPending records
  | .take => m.takeWork
  | .recovered i err => m.recovered i err
  | .answer i => m.answer i
  | .expire i => m.expire i
  | .finish i now setStatus => m.finish i now setStatus
  | .clear i => m.clear i
  | .wait => m.wait

structure State where
  lock : Option Nat
  managers : Nat → Manager
  log : List (Nat × Call)

inductive Event where
  | sweep (k : Nat) (answer : Outcome Unit)
  | act (k : Nat) (step : Step)
  | close (k : Nat)

-- The start of a sweep. A lock that another manager holds is not granted, and that ends the sweep.
def acquire (state : State) (k : Nat) (answer : Outcome Unit) : Outcome State := do
  let m := state.managers k
  ensure (m.phase = .idle) "not enabled"
  if m.leadership then
    return { state with managers := Function.update state.managers k { m with phase := .leading } }
  else do
    answer
    ensure (state.lock = none) "recovery leadership not acquired"
    return { state with
      lock := some k
      managers := Function.update state.managers k { m with leadership := true, phase := .leading } }

def releaseLeadership (state : State) (k : Nat) : Outcome State := do
  let m := state.managers k
  ensure (m.phase = .closing) "not enabled"
  return { state with
    lock := none
    managers := Function.update state.managers k { m with leadership := false, phase := .idle } }

def attempt (state : State) : Event → Outcome State
  | .sweep k answer => acquire state k answer
  | .act k step => do
    let (m, calls) ← (state.managers k).step step
    return { state with managers := Function.update state.managers k m, log := state.log ++ calls.map fun call => (k, call) }
  | .close k => releaseLeadership state k

def State.new (configs : Nat → Config) : State := { lock := none, managers := fun k => Manager.new (configs k), log := [] }

open Pointwise

def Call.txID : Call → Bytes
  | .recover txID _ | .recovered txID | .setStatusOrphan txID | .releaseRecoveryClaim txID _ _ => txID

-- How far the calls of a manager for one transaction are: a Recover call is followed by its return, and that by the
-- release of the claim, before the next one. All are made under the owner of the claims.
inductive Progress where
  | idle
  | started
  | returned
deriving DecidableEq, Repr

def Progress.next (owner : Bytes) : Progress → Call → Option Progress
  | .idle, .recover _ owner' => if owner' = owner then some .started else none
  | .started, .recovered _ => some .returned
  | .returned, .releaseRecoveryClaim _ owner' _ => if owner' = owner then some .idle else none
  | progress, .setStatusOrphan _ => some progress
  | _, _ => none

def observe (owner txID : Bytes) (progress : Progress) (call : Call) : Option Progress :=
  if call.txID = txID then progress.next owner call else some progress

def follow (owner txID : Bytes) (calls : List Call) : Option Progress := calls.foldlM (observe owner txID) .idle

def Stage.progress : Stage → Progress
  | .waiting | .abandoned => .started
  | .answered _ | .finishing _ | .late _ => .returned
  | .released | .done => .idle

def Stage.flying : Stage → Bool
  | .finishing _ | .done => false
  | _ => true

open Stage

def Sweeping (phase : Phase) : Prop := ∃ ownerID work, phase = .sweeping ownerID work

structure Sound (config : Config) (leads : Bool) (m : Manager) (calls : List Call) : Prop where
  configured : m.config = config
  leadership : m.leadership = leads
  single : ∀ (i j : Nat) (a b : Attempt), m.attempts[i]? = some a → m.attempts[j]? = some b → a.stage ≠ .done →
    b.stage ≠ .done → a.claim.txID = b.claim.txID → i = j
  marked : 0 < m.config.transactionTimeout → ∀ a ∈ m.attempts, a.stage.flying → a.claim.txID ∈ m.inFlight
  direct : m.config.transactionTimeout ≤ 0 → ∀ a ∈ m.attempts, a.stage = .done ∨ a.stage.busy
  distinct : ∀ ownerID work, m.phase = .sweeping ownerID work → (work.map RecoveryClaim.txID).Nodup
  unqueued : ∀ ownerID work, m.phase = .sweeping ownerID work →
    ∀ a ∈ m.attempts, a.stage.busy → a.claim.txID ∉ work.map RecoveryClaim.txID
  rested : ¬ Sweeping m.phase → ∀ a ∈ m.attempts, a.stage.busy = false
  closing : m.phase = .closing → m.inFlight = []
  led : m.phase ≠ .idle ∨ m.inFlight ≠ [] → leads
  swept : ∀ ownerID work, m.phase = .sweeping ownerID work → ownerID = m.config.instanceID
  owned : ∀ a ∈ m.attempts, a.owner = m.config.instanceID
  followed : ∀ a ∈ m.attempts, a.stage ≠ .done → follow m.config.instanceID a.claim.txID calls = some a.stage.progress
  quiet : ∀ txID, (∀ a ∈ m.attempts, a.claim.txID = txID → a.stage = .done) → follow m.config.instanceID txID calls = some .idle

variable {owner txID : Bytes} {calls more : List Call} {config : Config} {leads : Bool}

theorem observe_other (other : ∀ call ∈ calls, call.txID ≠ txID) (progress : Progress) :
    calls.foldlM (observe owner txID) progress = some progress := by
  induction calls with
  | nil => rfl
  | cons call rest ih =>
    rw [foldlM_cons, observe, if_neg (other call mem_cons_self)]
    exact ih fun call' mem => other call' (mem_cons_of_mem _ mem)

theorem follow_append (owner txID : Bytes) (calls more : List Call) :
    follow owner txID (calls ++ more) = (follow owner txID calls).bind fun progress => more.foldlM (observe owner txID) progress := by
  rw [follow, foldlM_append]
  rfl

theorem follow_other (other : ∀ call ∈ more, call.txID ≠ txID) : follow owner txID (calls ++ more) = follow owner txID calls := by
  rw [follow_append]
  cases follow owner txID calls with
  | none => rfl
  | some progress => exact observe_other other progress

theorem follow_more {progress next : Progress} (before : follow owner txID calls = some progress)
    (observed : more.foldlM (observe owner txID) progress = some next) : follow owner txID (calls ++ more) = some next := by
  rw [follow_append, before]
  exact observed

theorem new_sound (config : Config) : Sound config false (Manager.new config) [] := by
  constructor <;> simp [Manager.new, follow]

theorem mem_set {attempts : List Attempt} {i : Nat} {old new a : Attempt} (found : attempts[i]? = some old)
    (mem : a ∈ attempts.set i new) : a = new ∨ ∃ j, j ≠ i ∧ attempts[j]? = some a := by
  obtain ⟨j, present⟩ := mem_iff_getElem?.mp mem
  rcases set_cases found present with ⟨_, same⟩ | ⟨different, there⟩
  · exact .inl same
  · exact .inr ⟨j, different, there⟩

section Moving

variable {m : Manager} {calls new : List Call} {i : Nat} {a : Attempt} {stage : Stage}

structure Moves (m : Manager) (a : Attempt) (stage : Stage) (new : List Call) : Prop where
  active : a.stage ≠ .done
  busy : stage.busy → a.stage.busy
  flying : stage.flying → a.stage.flying
  direct : m.config.transactionTimeout ≤ 0 → stage = .done ∨ stage.busy
  about : ∀ call ∈ new, call.txID = a.claim.txID
  observed : new.foldlM (observe m.config.instanceID a.claim.txID) a.stage.progress = some stage.progress

theorem move_sound (sound : Sound config leads m calls) (found : m.attempts[i]? = some a) (moves : Moves m a stage new) :
    Sound config leads (m.moveTo i a stage) (calls ++ new) := by
  have here := mem_of_getElem? found
  have apart : ∀ (j : Nat) (b : Attempt), j ≠ i → m.attempts[j]? = some b → b.stage ≠ .done → b.claim.txID ≠ a.claim.txID :=
    fun j b different there active same => different (sound.single j i b a there found active moves.active same)
  have mem : ∀ b ∈ (m.moveTo i a stage).attempts, b = { a with stage } ∨ ∃ j, j ≠ i ∧ m.attempts[j]? = some b :=
    fun b there => mem_set found there
  exact
    { configured := sound.configured
      leadership := sound.leadership
      single := by
        intro j k b c there there' active active' same
        rcases set_cases found there with ⟨rfl, rfl⟩ | ⟨different, before⟩
        · rcases set_cases found there' with ⟨rfl, rfl⟩ | ⟨different, before'⟩
          · rfl
          · exact absurd same.symm (apart k c different before' active')
        · rcases set_cases found there' with ⟨rfl, rfl⟩ | ⟨_, before'⟩
          · exact absurd same (apart j b different before active)
          · exact sound.single j k b c before before' active active' same
      marked := by
        intro timed b there flying
        rcases mem b there with rfl | ⟨j, _, there⟩
        · exact sound.marked timed a here (moves.flying flying)
        · exact sound.marked timed b (mem_of_getElem? there) flying
      direct := by
        intro untimed b there
        rcases mem b there with rfl | ⟨j, _, there⟩
        · exact moves.direct untimed
        · exact sound.direct untimed b (mem_of_getElem? there)
      distinct := sound.distinct
      unqueued := by
        intro ownerID work sweeping b there busy
        rcases mem b there with rfl | ⟨j, _, there⟩
        · exact sound.unqueued ownerID work sweeping a here (moves.busy busy)
        · exact sound.unqueued ownerID work sweeping b (mem_of_getElem? there) busy
      rested := by
        intro resting b there
        rcases mem b there with rfl | ⟨j, _, there⟩
        · have idle := sound.rested resting a here
          cases busy : stage.busy with
          | false => rfl
          | true => exact (moves.busy busy).symm.trans idle
        · exact sound.rested resting b (mem_of_getElem? there)
      closing := sound.closing
      led := sound.led
      swept := sound.swept
      owned := by
        intro b there
        rcases mem b there with rfl | ⟨j, _, there⟩
        · exact sound.owned a here
        · exact sound.owned b (mem_of_getElem? there)
      followed := by
        intro b there active
        rcases mem b there with rfl | ⟨j, different, there⟩
        · exact follow_more (sound.followed a here moves.active) moves.observed
        · have other := apart j b different there active
          rw [follow_other fun call mem same => other (same.symm.trans (moves.about call mem))]
          exact sound.followed b (mem_of_getElem? there) active
      quiet := by
        intro txID all
        by_cases same : a.claim.txID = txID
        · subst same
          have last : stage = .done :=
            all { a with stage } (List.mem_of_getElem? (List.getElem?_set_self (List.getElem?_eq_some_iff.mp found).1)) rfl
          have observed := moves.observed
          rw [last] at observed
          exact follow_more (sound.followed a here moves.active) observed
        · rw [follow_other fun call mem equal => same ((moves.about call mem).symm.trans equal)]
          refine sound.quiet txID fun b there equal => ?_
          obtain ⟨j, before⟩ := mem_iff_getElem?.mp there
          by_cases at_i : j = i
          · subst at_i
            exact absurd ((Option.some.inj (found.symm.trans before)) ▸ equal) same
          · exact all b (mem_of_getElem? ((getElem?_set_ne (Ne.symm at_i)).trans before)) equal }

theorem clear_sound (sound : Sound config leads m calls)
    (past : ∀ b ∈ m.attempts, b.claim.txID = txID → b.stage.flying = false) : Sound config leads (m.clearInFlight txID) calls :=
  { sound with
    marked := by
      intro timed b there flying
      refine mem_filter.mpr ⟨sound.marked timed b there flying, decide_eq_true fun same => ?_⟩
      exact absurd ((past b there same).symm.trans flying) (by decide)
    closing := by
      intro closed
      rw [Manager.clearInFlight, sound.closing closed]
      rfl
    led := by
      rintro (phase | some)
      · exact sound.led (.inl phase)
      · refine sound.led (.inr fun none => some ?_)
        rw [Manager.clearInFlight, none]
        rfl }

theorem landed (sound : Sound config leads m calls) (found : m.attempts[i]? = some a) (moves : Moves m a stage new)
    (down : stage.flying = false) :
    ∀ b ∈ (m.moveTo i a stage).attempts, b.claim.txID = a.claim.txID → b.stage.flying = false := by
  intro b there same
  rcases mem_set found there with rfl | ⟨j, different, before⟩
  · exact down
  · cases flying : b.stage.flying with
    | false => rfl
    | true =>
      have active : b.stage ≠ .done := by
        intro done
        rw [done] at flying
        cases flying
      exact absurd (sound.single j i b a before found active moves.active same) different

theorem not_sweeping {phase : Phase} (other : ∀ ownerID work, phase ≠ .sweeping ownerID work) : ¬ Sweeping phase :=
  fun ⟨ownerID, work, same⟩ => other ownerID work same

end Moving

variable {m next : Manager} {calls new : List Call} {i : Nat} {ownerID owner : Bytes} {claim : RecoveryClaim}
  {work : List RecoveryClaim} {err : Option String} {now : Int} {setStatus : Outcome Unit}

theorem busy_or_flying {stage : Stage} (active : stage ≠ .done) : stage.busy ∨ stage.flying := by
  cases stage <;> simp_all [busy, flying]

section

variable (sound : Sound config leads m calls)
include sound

section

variable (sweeping : m.phase = .sweeping ownerID (claim :: work))

include sweeping

theorem fresh_transaction (away : 0 < m.config.transactionTimeout → claim.txID ∉ m.inFlight) :
    ∀ a ∈ m.attempts, a.stage ≠ .done → a.claim.txID ≠ claim.txID := by
  intro a there active same
  have waiting : a.stage.busy = false := by
    cases busy : a.stage.busy with
    | false => rfl
    | true => exact absurd (by simp [same]) (sound.unqueued _ _ sweeping a there busy)
  rcases Int.lt_or_le 0 m.config.transactionTimeout with timed | untimed
  · have flying : a.stage.flying := (busy_or_flying active).resolve_left (by simp [waiting])
    exact away timed (same ▸ sound.marked timed a there flying)
  · rcases sound.direct untimed a there with done | busy
    · exact active done
    · exact absurd (waiting.symm.trans busy) (by decide)

theorem skip_sound : Sound config leads { m with phase := .sweeping ownerID work } calls :=
  { sound with
    swept := by
      rintro _ _ ⟨⟩
      exact sound.swept _ _ sweeping
    distinct := by
      rintro _ _ ⟨⟩
      exact (nodup_cons.mp (sound.distinct _ _ sweeping)).2
    unqueued := by
      rintro _ _ ⟨⟩ a there busy mem
      exact sound.unqueued _ _ sweeping a there busy (mem_cons_of_mem _ mem)
    rested := fun resting => absurd ⟨ownerID, work, rfl⟩ resting
    closing := by
      rintro ⟨⟩
    led := fun _ => sound.led (.inl (by simp [sweeping])) }

theorem start_sound {inFlight : List Bytes} (fresh : ∀ a ∈ m.attempts, a.stage ≠ .done → a.claim.txID ≠ claim.txID)
    (kept : ∀ txID ∈ m.inFlight, txID ∈ inFlight) (marked : 0 < m.config.transactionTimeout → claim.txID ∈ inFlight) :
    Sound config leads { m with
      phase := .sweeping ownerID work
      attempts := m.attempts ++ [{ claim, owner := ownerID, stage := .waiting }]
      inFlight } (calls ++ [.recover claim.txID ownerID]) := by
  have skipped := skip_sound sound sweeping
  have mem : ∀ a ∈ m.attempts ++ [{ claim, owner := ownerID, stage := .waiting }],
      a ∈ m.attempts ∨ a = { claim, owner := ownerID, stage := .waiting } := by
    intro a there
    simpa using there
  exact
    { configured := sound.configured
      leadership := sound.leadership
      single := by
        intro j k a b there there' active active' same
        rcases append_cases there with there | ⟨rfl, rfl⟩
        · rcases append_cases there' with there' | ⟨rfl, rfl⟩
          · exact sound.single j k a b there there' active active' same
          · exact absurd same (fresh a (mem_of_getElem? there) active)
        · rcases append_cases there' with there' | ⟨rfl, rfl⟩
          · exact absurd same.symm (fresh b (mem_of_getElem? there') active')
          · rfl
      marked := by
        intro timed a there flying
        rcases mem a there with there | rfl
        · exact kept _ (sound.marked timed a there flying)
        · exact marked timed
      direct := by
        intro untimed a there
        rcases mem a there with there | rfl
        · exact sound.direct untimed a there
        · exact .inr rfl
      distinct := skipped.distinct
      unqueued := by
        rintro _ _ ⟨⟩ a there busy
        rcases mem a there with there | rfl
        · exact skipped.unqueued _ _ rfl a there busy
        · exact (nodup_cons.mp (sound.distinct _ _ sweeping)).1
      rested := fun resting => absurd ⟨ownerID, work, rfl⟩ resting
      closing := by
        rintro ⟨⟩
      led := fun _ => sound.led (.inl (by simp [sweeping]))
      swept := skipped.swept
      owned := by
        intro a there
        rcases mem a there with there | rfl
        · exact sound.owned a there
        · exact sound.swept _ _ sweeping
      followed := by
        intro a there active
        rcases mem a there with there | rfl
        · have other : ∀ call ∈ [Call.recover claim.txID ownerID], call.txID ≠ a.claim.txID := by
            simpa [Call.txID] using (fresh a there active).symm
          rw [follow_other other]
          exact sound.followed a there active
        · have owner := sound.swept _ _ sweeping
          refine follow_more (sound.quiet claim.txID fun a there same => ?_) ?_
          · exact by_contra fun active => fresh a there active same
          · simp [observe, Call.txID, Progress.next, progress, owner]
      quiet := by
        intro txID all
        have different : claim.txID ≠ txID := fun same => by
          have ended := all { claim, owner := ownerID, stage := .waiting } (by simp) same
          cases ended
        rw [follow_other (by simpa [Call.txID] using different)]
        exact sound.quiet txID fun a there => all a (mem_append_left _ there) }

end

theorem take_sound (done : m.takeWork = .ok (next, new)) : Sound config leads next (calls ++ new) := by
  unfold Manager.takeWork at done
  split at done
  · rename_i ownerID claim work sweeping
    simp only [ok_iff, exists_const] at done
    obtain ⟨_, done⟩ := done
    by_cases untimed : m.config.transactionTimeout ≤ 0
    · simp only [Manager.callHandler, if_pos untimed, Prod.mk.injEq] at done
      obtain ⟨rfl, rfl⟩ := done
      have fresh := fresh_transaction sound sweeping fun timed => absurd untimed (by omega)
      exact start_sound sound sweeping fresh (fun _ there => there) fun timed => absurd untimed (by omega)
    · simp only [Manager.callHandler, if_neg untimed] at done
      by_cases flying : claim.txID ∈ m.inFlight
      · rw [if_pos flying] at done
        obtain ⟨rfl, rfl⟩ := Prod.mk.inj done
        rw [append_nil]
        exact skip_sound sound sweeping
      · rw [if_neg flying] at done
        obtain ⟨rfl, rfl⟩ := Prod.mk.inj done
        have fresh := fresh_transaction sound sweeping fun _ => flying
        exact start_sound sound sweeping fresh (fun _ there => mem_cons_of_mem _ there) fun _ => mem_cons_self
  · cases done

theorem claim_sound {records : Outcome (List (Option RecoveryClaim))} (done : m.claimPending records = .ok (next, new)) :
    Sound config leads next (calls ++ new) := by
  have swept : ∀ work : List RecoveryClaim, m.phase = .leading → (work.map RecoveryClaim.txID).Nodup →
      Sound config leads { m with phase := .sweeping m.config.instanceID work } (calls ++ []) := by
    intro work leading distinct
    have rested := sound.rested (not_sweeping (by simp [leading]))
    rw [append_nil]
    exact
      { sound with
        swept := by
          rintro _ _ ⟨⟩
          rfl
        distinct := by
          rintro _ _ ⟨⟩
          exact distinct
        unqueued := fun _ _ _ a there busy => absurd ((rested a there).symm.trans busy) (by decide)
        rested := fun resting => absurd ⟨_, work, rfl⟩ resting
        closing := by
          rintro ⟨⟩
        led := fun _ => sound.led (.inl (by simp [leading])) }
  unfold Manager.claimPending at done
  split at done
  · rename_i leading
    split at done
    · simp only [ok_iff, exists_const, Prod.mk.injEq] at done
      obtain ⟨distinct, rfl, rfl⟩ := done
      exact swept _ leading distinct
    · obtain ⟨rfl, rfl⟩ := Prod.mk.inj (Except.ok.inj done)
      exact swept [] leading nodup_nil
  · cases done

theorem rest_sound {phase : Phase} {leadership : Bool} (resting : ¬ Sweeping phase)
    (rested : ∀ a ∈ m.attempts, a.stage.busy = false) (closing : phase = .closing → m.inFlight = [])
    (led : phase ≠ .idle ∨ m.inFlight ≠ [] → leadership) : Sound config leadership { m with phase, leadership } calls :=
  { sound with
    leadership := rfl
    swept := fun ownerID work same => absurd ⟨ownerID, work, same⟩ resting
    distinct := fun ownerID work same => absurd ⟨ownerID, work, same⟩ resting
    unqueued := fun ownerID work same => absurd ⟨ownerID, work, same⟩ resting
    rested := fun _ => rested
    closing
    led }

theorem wait_sound (done : m.wait = .ok (next, new)) : Sound config leads next (calls ++ new) := by
  unfold Manager.wait at done
  split at done
  · rename_i ownerID sweeping
    simp only [ok_iff, exists_const, Prod.mk.injEq] at done
    obtain ⟨idle, rfl, rfl⟩ := done
    have rested : ∀ a ∈ m.attempts, a.stage.busy = false := by
      intro a there
      have none := countP_eq_zero.mp idle a there
      simpa using none
    obtain rfl := sound.leadership
    have held : m.leadership := sound.led (.inl (by simp [sweeping]))
    rw [append_nil]
    refine rest_sound sound (not_sweeping ?_) rested ?_ fun _ => held
    · split <;> simp
    · split
      · simp
      · rename_i none
        exact fun _ => by simpa [Manager.hasInFlight] using none
  · cases done

theorem recovered_sound (done : m.recovered i err = .ok (next, new)) : Sound config leads next (calls ++ new) := by
  simp only [Manager.recovered, ok_iff] at done
  obtain ⟨a, found, done⟩ := done
  have observed : [Call.recovered a.claim.txID].foldlM (observe m.config.instanceID a.claim.txID) .started = some .returned := by
    simp [observe, Call.txID, Progress.next]
  split at done
  · rename_i waiting
    obtain ⟨rfl, rfl⟩ := Prod.mk.inj (Except.ok.inj done)
    refine move_sound sound found ?_
    by_cases untimed : m.config.transactionTimeout ≤ 0
    · rw [if_pos untimed]
      exact ⟨by simp [waiting], by simp [waiting, busy], by simp [flying], fun _ => .inr rfl, by simp [Call.txID],
        by simpa [waiting, progress] using observed⟩
    · rw [if_neg untimed]
      exact ⟨by simp [waiting], by simp [waiting, busy], by simp [waiting, flying], fun _ => .inr rfl,
        by simp [Call.txID], by simpa [waiting, progress] using observed⟩
  · rename_i abandoned
    obtain ⟨rfl, rfl⟩ := Prod.mk.inj (Except.ok.inj done)
    refine move_sound sound found ⟨by simp [abandoned], by simp [busy], by simp [abandoned, flying], ?_,
      by simp [Call.txID], by simpa [abandoned, progress] using observed⟩
    intro untimed
    have wrong := sound.direct untimed a (mem_of_getElem? found)
    simp [abandoned, busy] at wrong
  · cases done

theorem answer_sound (done : m.answer i = .ok (next, new)) : Sound config leads next (calls ++ new) := by
  simp only [Manager.answer, ok_iff] at done
  obtain ⟨a, found, done⟩ := done
  split at done
  · rename_i err answered
    obtain ⟨rfl, rfl⟩ := Prod.mk.inj (Except.ok.inj done)
    have moves : Moves m a (.finishing err) [] :=
      ⟨by simp [answered], by simp [answered, busy], by simp [flying], fun _ => .inr rfl, by simp,
        by simp [answered, progress]⟩
    exact clear_sound (move_sound sound found moves) (landed sound found moves rfl)
  · cases done

theorem expire_sound (done : m.expire i = .ok (next, new)) : Sound config leads next (calls ++ new) := by
  simp only [Manager.expire, ok_iff, exists_const, Prod.mk.injEq] at done
  obtain ⟨a, found, ⟨waiting, timed⟩, rfl, rfl⟩ := done
  exact move_sound sound found ⟨by simp [waiting], by simp [busy], by simp [waiting, flying],
    fun untimed => absurd untimed (by omega), by simp, by simp [waiting, progress]⟩

end

theorem finish_recovery_about : ∀ call ∈ finishRecovery config now setStatus claim owner err, call.txID = claim.txID := by
  intro call mem
  simp only [finishRecovery, mem_append, mem_singleton] at mem
  rcases mem with mem | rfl
  · split at mem
    · rw [mem_singleton.mp mem]
      rfl
    · cases mem
  · rfl

theorem finish_recovery_observed :
    (finishRecovery config now setStatus claim owner err).foldlM (observe owner claim.txID) .returned = some .idle := by
  simp only [finishRecovery]
  split <;> simp [observe, Call.txID, Progress.next]

theorem finish_sound (sound : Sound config leads m calls) (done : m.finish i now setStatus = .ok (next, new)) :
    Sound config leads next (calls ++ new) := by
  simp only [Manager.finish, ok_iff] at done
  obtain ⟨a, found, done⟩ := done
  rw [sound.owned a (mem_of_getElem? found)] at done
  split at done
  · rename_i err finishing
    obtain ⟨rfl, rfl⟩ := Prod.mk.inj (Except.ok.inj done)
    exact move_sound sound found ⟨by simp [finishing], by simp [busy], by simp [flying], fun _ => .inl rfl,
      finish_recovery_about, by simpa [finishing, progress] using finish_recovery_observed⟩
  · rename_i err late
    obtain ⟨rfl, rfl⟩ := Prod.mk.inj (Except.ok.inj done)
    refine move_sound sound found ⟨by simp [late], by simp [busy], by simp [late, flying], ?_,
      finish_recovery_about, by simpa [late, progress] using finish_recovery_observed⟩
    intro untimed
    have wrong := sound.direct untimed a (mem_of_getElem? found)
    simp [late, busy] at wrong
  · cases done

theorem clear_step_sound (sound : Sound config leads m calls) (done : m.clear i = .ok (next, new)) :
    Sound config leads next (calls ++ new) := by
  simp only [Manager.clear, ok_iff, exists_const, Prod.mk.injEq] at done
  obtain ⟨a, found, released, rfl, rfl⟩ := done
  have moves : Moves m a .done [] :=
    ⟨by simp [released], by simp [busy], by simp [flying], fun _ => .inl rfl, by simp, by simp [released, progress]⟩
  exact clear_sound (move_sound sound found moves) (landed sound found moves rfl)

theorem step_sound {step : Step} (sound : Sound config leads m calls) (done : m.step step = .ok (next, new)) :
    Sound config leads next (calls ++ new) := by
  cases step with
  | claim records => exact claim_sound sound done
  | take => exact take_sound sound done
  | recovered i err => exact recovered_sound sound done
  | answer i => exact answer_sound sound done
  | expire i => exact expire_sound sound done
  | finish i now setStatus => exact finish_sound sound done
  | clear i => exact clear_step_sound sound done
  | wait => exact wait_sound sound done

end Panurus.Recovery
