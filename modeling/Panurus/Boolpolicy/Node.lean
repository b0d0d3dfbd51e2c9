import Panurus.Lib.Text

namespace Panurus.Boolpolicy

open Lib Text

inductive Node where
  | ref (index : Int)
  | and (left right : Node)
  | or (left right : Node)
deriving DecidableEq, Repr

def Node.eval (refs : List Bool) : Node → Bool
  | .ref index => if index < 0 ∨ index ≥ refs.length then false else refs.getD index.toNat false
  | .and left right => left.eval refs && right.eval refs
  | .or left right => left.eval refs || right.eval refs

def printIndex (index : Int) : Bytes := if index < 0 then ascii "-" ++ decimal index.natAbs else decimal index.natAbs

def Node.string : Node → Bytes
  | .ref index => ascii "$" ++ printIndex index
  | .and left right => ascii "(" ++ left.string ++ ascii " AND " ++ right.string ++ ascii ")"
  | .or left right => ascii "(" ++ left.string ++ ascii " OR " ++ right.string ++ ascii ")"

def Node.size : Node → Nat
  | .ref _ => 1
  | .and left right | .or left right => left.size + right.size + 1

def Node.indices : Node → List Int
  | .ref index => [index]
  | .and left right | .or left right => left.indices ++ right.indices

def Node.nesting : Node → Nat
  | .ref _ => 0
  | .and left right | .or left right => max left.nesting right.nesting + 1

def Node.Holds (given : Nat → Prop) : Node → Prop
  | .ref index => 0 ≤ index ∧ given index.toNat
  | .and left right => left.Holds given ∧ right.Holds given
  | .or left right => left.Holds given ∨ right.Holds given

theorem holds_mono {given more : Nat → Prop} (inside : ∀ index, given index → more index) {n : Node} (holds : n.Holds given) :
    n.Holds more := by
  induction n with
  | ref index => exact ⟨holds.1, inside _ holds.2⟩
  | and left right ihLeft ihRight => exact ⟨ihLeft holds.1, ihRight holds.2⟩
  | or left right ihLeft ihRight => exact holds.imp ihLeft ihRight

theorem eval_iff_holds (refs : List Bool) (n : Node) : n.eval refs = true ↔ n.Holds fun index => refs[index]? = some true := by
  induction n with
  | ref index =>
    simp only [Node.eval, Node.Holds]
    by_cases outside : index < 0 ∨ index ≥ refs.length
    · rw [if_pos outside]
      have missing : 0 ≤ index → refs[index.toNat]? = none := fun low => List.getElem?_eq_none (by omega)
      constructor
      · intro impossible
        cases impossible
      · rintro ⟨low, found⟩
        rw [missing low] at found
        cases found
    · rw [if_neg outside, List.getD_eq_getElem?_getD]
      have present : refs[index.toNat]? = some (refs.get ⟨index.toNat, by omega⟩) := List.getElem?_eq_getElem _
      rw [present]
      simp only [Option.getD_some, Option.some.injEq]
      exact ⟨fun value => ⟨by omega, value⟩, fun both => both.2⟩
  | and left right ihLeft ihRight | or left right ihLeft ihRight => simp [Node.eval, ihLeft, ihRight, Node.Holds]

end Panurus.Boolpolicy
