import Panurus.Recovery.Invariant

namespace Panurus.Recovery

open List Lib Outcome Attempts Manager

def callsOf (k : Nat) (log : List (Nat × Call)) : List Call := (log.filter fun entry => decide (entry.1 = k)).map Prod.snd

def Stage.returned : Stage → Bool
  | .answered _ | .finishing _ | .late _ => true
  | _ => false

structure Exclusive (configs : Nat → Config) (state : State) : Prop where
  alone : ∀ (k k' i j : Nat) (a b : Attempt), (state.managers k).attempts[i]? = some a →
    (state.managers k').attempts[j]? = some b → a.stage.running → b.stage.running → a.claim.txID = b.claim.txID →
    k = k' ∧ i = j
  orderly : ∀ k txID, ∃ progress, follow (configs k).instanceID txID (callsOf k state.log) = some progress
  settled : ∀ k txID, (∀ a ∈ (state.managers k).attempts, a.claim.txID = txID → a.stage = .released ∨ a.stage = .done) →
    follow (configs k).instanceID txID (callsOf k state.log) = some .idle
  released : ∀ (k i : Nat) (a : Attempt), (state.managers k).attempts[i]? = some a → a.stage.returned →
    ∃ steps : List Step,
      follow (configs k).instanceID a.claim.txID (callsOf k (run attempt state (steps.map (.act k))).log) = some .idle

structure Guarded (configs : Nat → Config) (state : State) : Prop where
  sound : ∀ k, Sound (configs k) (state.managers k).leadership (state.managers k) (callsOf k state.log)
  locked : ∀ k, (state.managers k).leadership → state.lock = some k

variable {m : Manager} {calls : List Call} {step : Step} {j : Nat}

theorem calls_of_append (k : Nat) (log more : List (Nat × Call)) : callsOf k (log ++ more) = callsOf k log ++ callsOf k more := by
  simp [callsOf]

theorem calls_of_own (k : Nat) (calls : List Call) : callsOf k (calls.map fun call => (k, call)) = calls := by
  simp [callsOf, filter_map]

theorem calls_of_other {k : Nat} (different : j ≠ k) (calls : List Call) : callsOf j (calls.map fun call => (k, call)) = [] := by
  simp [callsOf, different.symm]

section Preservation

variable {configs : Nat → Config} {state next : State} {k i : Nat} {a : Attempt}

section

variable (guarded : Guarded configs state)

include guarded

theorem update_guarded {lock : Option Nat} (sound : Sound (configs k) m.leadership m (callsOf k state.log ++ calls))
    (mine : m.leadership → lock = some k)
    (others : ∀ j, j ≠ k → (state.managers j).leadership → lock = some j) :
    Guarded configs
      { lock, managers := Function.update state.managers k m, log := state.log ++ calls.map fun call => (k, call) } where
  sound j := by
    by_cases same : j = k
    · subst same
      simpa [calls_of_append, calls_of_own] using sound
    · simpa [same, calls_of_append, calls_of_other same] using guarded.sound j
  locked j := by
    by_cases same : j = k
    · subst same
      simpa using mine
    · simpa [same] using others j same

theorem turn_guarded {phase : Phase} {leadership : Bool} {lock : Option Nat}
    (sound : Sound (configs k) leadership { state.managers k with phase, leadership } (callsOf k state.log))
    (mine : leadership → lock = some k)
    (others : ∀ j, j ≠ k → (state.managers j).leadership → lock = some j) :
    Guarded configs
      { state with lock, managers := Function.update state.managers k { state.managers k with phase, leadership } } := by
  have result := @update_guarded { state.managers k with phase, leadership } [] configs state k guarded lock
    ((append_nil _).symm ▸ sound) mine others
  simpa only [map_nil, append_nil] using result

theorem alone_locked (held : (state.managers k).leadership) (different : j ≠ k) : ¬ (state.managers j).leadership := by
  intro other
  exact different (Option.some.inj ((guarded.locked j other).symm.trans (guarded.locked k held)))

theorem acquire_guarded {answer : Outcome Unit} (done : acquire state k answer = .ok next) : Guarded configs next := by
  simp only [acquire, ok_iff, exists_const] at done
  obtain ⟨idle, done⟩ := done
  have sound := guarded.sound k
  have resting : ¬ Sweeping (state.managers k).phase := not_sweeping (by simp [idle])
  have leading : ∀ leadership : Bool, leadership →
      Sound (configs k) leadership { state.managers k with phase := .leading, leadership } (callsOf k state.log) :=
    fun _ held => rest_sound sound (not_sweeping (by simp)) (sound.rested resting) (by simp) fun _ => held
  by_cases held : (state.managers k).leadership
  · rw [if_pos held] at done
    obtain rfl := Except.ok.inj done
    exact turn_guarded guarded (leading _ held) (guarded.locked k) fun j _ => guarded.locked j
  · rw [if_neg held] at done
    simp only [ok_iff, exists_const] at done
    obtain ⟨_, _, free, rfl⟩ := done
    exact turn_guarded guarded (leading true rfl) (fun _ => rfl)
      fun j _ other => absurd ((guarded.locked j other).symm.trans free) (by simp)

theorem release_guarded (done : releaseLeadership state k = .ok next) : Guarded configs next := by
  simp only [releaseLeadership, ok_iff, exists_const] at done
  obtain ⟨closing, rfl⟩ := done
  have sound := guarded.sound k
  have landed := sound.closing closing
  have held : (state.managers k).leadership := sound.led (.inl (by simp [closing]))
  have rested := sound.rested (not_sweeping (by simp [closing]))
  exact turn_guarded guarded (rest_sound sound (not_sweeping (by simp)) rested (by simp) (by simp [landed])) (by simp)
    fun j different other => absurd other (alone_locked guarded held different)

theorem attempt_guarded {event : Event} (done : attempt state event = .ok next) : Guarded configs next := by
  cases event with
  | sweep k answer => exact acquire_guarded guarded done
  | close k => exact release_guarded guarded done
  | act k step =>
    simp only [attempt, ok_iff, Prod.exists] at done
    obtain ⟨m, calls, stepped, rfl⟩ := done
    have sound := step_sound (guarded.sound k) stepped
    have kept := sound.leadership
    rw [← kept] at sound
    exact update_guarded guarded sound (fun held => guarded.locked k (kept ▸ held)) (fun j _ => guarded.locked j)

theorem running_locked (found : (state.managers k).attempts[i]? = some a) (running : a.stage.running) : state.lock = some k := by
  have sound := guarded.sound k
  have there := mem_of_getElem? found
  refine guarded.locked k (sound.led ?_)
  by_contra resting
  obtain ⟨idle, none⟩ := not_or.mp resting
  have unmarked := sound.rested (not_sweeping (by simp [not_not.mp idle])) a there
  rcases Int.lt_or_le 0 (state.managers k).config.transactionTimeout with timed | untimed
  · have flying : a.stage.flying := by cases stage : a.stage <;> simp_all [Stage.running, Stage.flying]
    have marked := sound.marked timed a there flying
    rw [not_not.mp none] at marked
    cases marked
  · have busy : a.stage.busy := (sound.direct untimed a there).resolve_left (by rintro done; simp [done, Stage.running] at running)
    exact absurd (unmarked.symm.trans busy) (by decide)

end

theorem act_ok (stepped : (state.managers k).step step = .ok (m, calls)) :
    attempt state (.act k step) = .ok
      { state with managers := Function.update state.managers k m, log := state.log ++ calls.map fun call => (k, call) } := by
  simp only [attempt, stepped]
  rfl

theorem finish_follows (guarded : Guarded configs state) {i : Nat} {a : Attempt} {err : Option String}
    (found : (state.managers k).attempts[i]? = some a) (returned : a.stage = .finishing err ∨ a.stage = .late err) :
    follow (configs k).instanceID a.claim.txID (callsOf k (settle attempt state (.act k (.finish i 0 (.ok ())))).log) =
      some .idle := by
  have sound := guarded.sound k
  have there := mem_of_getElem? found
  let calls := finishRecovery (state.managers k).config 0 (.ok ()) a.claim a.owner err
  have stepped : ∃ m, (state.managers k).step (.finish i 0 (.ok ())) = .ok (m, calls) := by
    simp only [step, finish, ok_iff, found, Option.some.injEq, exists_eq_left']
    rcases returned with stage | stage
    · exact ⟨(state.managers k).moveTo i a .done, by rw [stage]; rfl⟩
    · exact ⟨(state.managers k).moveTo i a .released, by rw [stage]; rfl⟩
  obtain ⟨m, stepped⟩ := stepped
  have progress : a.stage ≠ .done ∧ a.stage.progress = .returned := by
    rcases returned with stage | stage <;> simp [stage, Stage.progress]
  rw [settle_ok (act_ok stepped), calls_of_append, calls_of_own, ← sound.configured]
  refine follow_more (sound.followed a there progress.1) ?_
  rw [progress.2, ← sound.owned a there]
  exact finish_recovery_observed

theorem returned_released (guarded : Guarded configs state)
    (found : (state.managers k).attempts[i]? = some a) (returned : a.stage.returned) :
    ∃ steps : List Step,
      follow (configs k).instanceID a.claim.txID (callsOf k (run attempt state (steps.map (.act k))).log) = some .idle := by
  cases stage : a.stage with
  | finishing err => exact ⟨[.finish i 0 (.ok ())], finish_follows guarded found (.inl stage)⟩
  | late err => exact ⟨[.finish i 0 (.ok ())], finish_follows guarded found (.inr stage)⟩
  | answered err =>
    have stepped : (state.managers k).step (.answer i) =
        .ok (((state.managers k).moveTo i a (.finishing err)).clearInFlight a.claim.txID, []) := by
      simp only [step, answer, ok_iff, found, Option.some.injEq, exists_eq_left']
      rw [stage]
      rfl
    have acted := act_ok stepped
    refine ⟨[.answer i, .finish i 0 (.ok ())], ?_⟩
    rw [map_cons, run, foldl_cons, settle_ok acted]
    refine @finish_follows configs _ k (attempt_guarded guarded acted) i { a with stage := .finishing err } err ?_ (.inl rfl)
    simp only [Function.update_self]
    exact List.getElem?_set_self (List.getElem?_eq_some_iff.mp found).1
  | _ => simp [stage, Stage.returned] at returned

theorem guarded_exclusive (guarded : Guarded configs state) : Exclusive configs state where
  alone k k' i j a b found found' running running' same := by
    have locked := running_locked guarded found running
    have locked' := running_locked guarded found' running'
    obtain rfl := Option.some.inj (locked.symm.trans locked')
    have active : ∀ {stage : Stage}, stage.running → stage ≠ .done := by
      rintro _ running rfl
      cases running
    exact ⟨rfl, (guarded.sound k).single i j a b found found' (active running) (active running') same⟩
  orderly k txID := by
    have sound := guarded.sound k
    rw [← sound.configured]
    by_cases all : ∀ a ∈ (state.managers k).attempts, a.claim.txID = txID → a.stage = .done
    · exact ⟨_, sound.quiet txID all⟩
    · push Not at all
      obtain ⟨a, there, rfl, active⟩ := all
      exact ⟨_, sound.followed a there active⟩
  settled k txID all := by
    have sound := guarded.sound k
    rw [← sound.configured]
    by_cases ended : ∀ a ∈ (state.managers k).attempts, a.claim.txID = txID → a.stage = .done
    · exact sound.quiet txID ended
    · push Not at ended
      obtain ⟨a, there, rfl, active⟩ := ended
      have released := (all a there rfl).resolve_right active
      rw [sound.followed a there active, released]
      rfl
  released _ _ _ := returned_released guarded

end Preservation

theorem new_guarded (configs : Nat → Config) : Guarded configs (State.new configs) where
  sound k := new_sound (configs k)
  locked _ held := by cases held

theorem recovery_exclusive (configs : Nat → Config) (events : List Event) :
    Exclusive configs (run attempt (State.new configs) events) :=
  guarded_exclusive (run_invariant (fun _ => Guarded configs) (State.new configs) events
    (fun _ _ _ _ _ guarded done => attempt_guarded guarded done) (new_guarded configs))

end Panurus.Recovery
