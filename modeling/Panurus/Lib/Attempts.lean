import Mathlib.Data.List.Basic
import Mathlib.Data.List.Induction

namespace Lib.Attempts

-- A machine whose every input is tried: an attempt either moves the state or is rejected, and a
-- rejected attempt leaves no trace.
section Machine

variable {State Input Reason : Type} (attempt : State → Input → Except Reason State)

def settle (state : State) (input : Input) : State :=
  match attempt state input with
  | .ok next => next
  | .error _ => state

def run (state : State) (inputs : List Input) : State := inputs.foldl (settle attempt) state

def applied : State → List Input → List Input
  | _, [] => []
  | state, input :: tail =>
    match attempt state input with
    | .ok next => input :: applied next tail
    | .error _ => applied state tail

variable {attempt} {state next : State} {input : Input} {reason : Reason}

theorem settle_ok (moved : attempt state input = .ok next) : settle attempt state input = next := by
  simp [settle, moved]

theorem settle_error (rejected : attempt state input = .error reason) : settle attempt state input = state := by
  simp [settle, rejected]

theorem applied_sublist (state : State) (inputs : List Input) : (applied attempt state inputs).Sublist inputs := by
  induction inputs generalizing state with
  | nil => exact .slnil
  | cons input tail ih =>
    rw [applied]
    split
    · exact (ih _).cons_cons input
    · exact (ih state).cons input

theorem run_append (start : State) (inputs more : List Input) :
    run attempt start (inputs ++ more) = run attempt (run attempt start inputs) more :=
  List.foldl_append

theorem applied_append (start : State) (inputs more : List Input) :
    applied attempt start (inputs ++ more) = applied attempt start inputs ++ applied attempt (run attempt start inputs) more := by
  induction inputs generalizing start with
  | nil => rfl
  | cons head tail ih =>
    rw [List.cons_append, applied, applied, run, List.foldl_cons]
    cases outcome : attempt start head with
    | ok state =>
      rw [settle_ok outcome]
      exact congrArg (head :: ·) (ih state)
    | error reason =>
      rw [settle_error outcome]
      exact ih start

theorem applied_cons_ok (moved : attempt state input = .ok next) (more : List Input) :
    applied attempt state (input :: more) = input :: applied attempt next more := by
  rw [applied, moved]

theorem applied_cons_error (rejected : attempt state input = .error reason) (more : List Input) :
    applied attempt state (input :: more) = applied attempt state more := by
  rw [applied, rejected]

section

variable (invariant : List Input → State → Prop) (start : State) (inputs : List Input)

-- What every successful attempt of a run preserves, at its place in the run, the run has: the first argument of the
-- invariant is the list of the inputs that took effect, oldest first.
theorem run_invariant_at (preserved : ∀ before input after next, inputs = before ++ input :: after →
      invariant (applied attempt start before) (run attempt start before) →
      attempt (run attempt start before) input = .ok next → invariant (applied attempt start before ++ [input]) next)
    (initial : invariant [] start) : invariant (applied attempt start inputs) (run attempt start inputs) := by
  have general : ∀ before after, inputs = before ++ after →
      invariant (applied attempt start before) (run attempt start before) := by
    intro before
    induction before using List.reverseRecOn with
    | nil => exact fun _ _ => initial
    | append_singleton before input ih =>
      intro after split
      rw [List.append_assoc] at split
      have holds := ih (input :: after) split
      rw [run_append, applied_append]
      cases outcome : attempt (run attempt start before) input with
      | ok next =>
        have moved : run attempt (run attempt start before) [input] = next := settle_ok outcome
        rw [applied_cons_ok outcome, moved]
        exact preserved before input after next split holds outcome
      | error reason =>
        have stays : run attempt (run attempt start before) [input] = run attempt start before := settle_error outcome
        rw [applied_cons_error outcome, stays, applied, List.append_nil]
        exact holds
  exact general inputs [] (List.append_nil inputs).symm

theorem run_invariant
    (preserved : ∀ done state input next, input ∈ inputs → invariant done state → attempt state input = .ok next →
      invariant (done ++ [input]) next)
    (initial : invariant [] start) : invariant (applied attempt start inputs) (run attempt start inputs) := by
  refine run_invariant_at invariant start inputs ?_ initial
  intro before input after next split holds moved
  exact preserved _ _ input next (split ▸ List.mem_append_right _ List.mem_cons_self) holds moved

end

variable (attempt)

def Along (check : State → Input → Prop) : State → List Input → Prop
  | _, [] => True
  | state, input :: tail => check state input ∧ Along check (settle attempt state input) tail

def Throughout (holds : State → Prop) : State → List Input → Prop
  | state, [] => holds state
  | state, input :: tail => holds state ∧ Throughout holds (settle attempt state input) tail

instance alongDecidable {check : State → Input → Prop} [∀ state input, Decidable (check state input)] :
    (state : State) → (inputs : List Input) → Decidable (Along attempt check state inputs)
  | _, [] => .isTrue trivial
  | state, input :: tail =>
    have : Decidable (Along attempt check (settle attempt state input) tail) := alongDecidable _ tail
    inferInstanceAs (Decidable (check state input ∧ Along attempt check (settle attempt state input) tail))

variable {attempt} {check other : State → Input → Prop} {inputs : List Input} {holds : State → Prop}

theorem along_and (state : State) (inputs : List Input) :
    Along attempt (fun s i => check s i ∧ other s i) state inputs ↔
      Along attempt check state inputs ∧ Along attempt other state inputs := by
  induction inputs generalizing state with
  | nil => simp [Along]
  | cons input tail ih =>
    simp only [Along, ih]
    tauto

theorem along_mono (implies : ∀ state input, check state input → other state input)
    (all : Along attempt check state inputs) : Along attempt other state inputs := by
  induction inputs generalizing state with
  | nil => trivial
  | cons input tail ih => exact ⟨implies state input all.1, ih all.2⟩

theorem throughout_of_along
    (preserved : ∀ state input next, holds state → check state input → attempt state input = .ok next → holds next)
    (initial : holds state) (checked : Along attempt check state inputs) : Throughout attempt holds state inputs := by
  induction inputs generalizing state with
  | nil => exact initial
  | cons input tail ih =>
    refine ⟨initial, ih ?_ checked.2⟩
    cases outcome : attempt state input with
    | ok next =>
      rw [settle_ok outcome]
      exact preserved state input next initial checked.1 outcome
    | error reason =>
      rw [settle_error outcome]
      exact initial

theorem throughout_mono {wanted : State → Prop} (implies : ∀ state, holds state → wanted state)
    (all : Throughout attempt holds state inputs) : Throughout attempt wanted state inputs := by
  induction inputs generalizing state with
  | nil => exact implies state all
  | cons input tail ih => exact ⟨implies state all.1, ih all.2⟩

theorem throughout_run (all : Throughout attempt holds state inputs) : holds (run attempt state inputs) := by
  induction inputs generalizing state with
  | nil => exact all
  | cons input tail ih => exact ih all.2

theorem along_of_throughout (needed : ∀ state input, holds (settle attempt state input) → check state input)
    (all : Throughout attempt holds state inputs) : Along attempt check state inputs := by
  induction inputs generalizing state with
  | nil => trivial
  | cons input tail ih =>
    refine ⟨needed state input ?_, ih all.2⟩
    cases tail with
    | nil => exact all.2
    | cons _ _ => exact all.2.1

end Machine

end Lib.Attempts
