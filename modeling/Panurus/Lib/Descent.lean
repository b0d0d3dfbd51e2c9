import Mathlib.Order.Basic

namespace Lib.Descent

variable {α β : Type} {bottom : β} {step : (α → β) → α → β} {size : α → Nat}

def within (bottom : β) (step : (α → β) → α → β) : Nat → α → β
  | 0, _ => bottom
  | levels + 1, input => step (within bottom step levels) input

-- A recursion on smaller inputs needs no more levels than the size of its input.
def descend (bottom : β) (step : (α → β) → α → β) (size : α → Nat) (input : α) : β :=
  within bottom step (size input + 1) input

def Descends (step : (α → β) → α → β) (size : α → Nat) : Prop :=
  ∀ f g input, (∀ smaller, size smaller < size input → f smaller = g smaller) → step f input = step g input

theorem within_stable (descends : Descends step size) {levels more : Nat} {input : α} (enough : size input < levels)
    (enough_too : size input < more) : within bottom step levels input = within bottom step more input := by
  induction levels generalizing more input with
  | zero => omega
  | succ levels ih =>
    cases more with
    | zero => omega
    | succ more => exact descends _ _ input fun smaller less => ih (by omega) (by omega)

theorem descend_eq (descends : Descends step size) (input : α) :
    descend bottom step size input = step (descend bottom step size) input :=
  descends _ _ input fun _ less => within_stable descends less (Nat.lt_succ_self _)

end Lib.Descent
