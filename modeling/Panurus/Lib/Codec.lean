import Mathlib.Data.Set.Function
import Mathlib.Data.List.Infix

namespace Lib.Codec

open List

-- A code is prefix free on a set of sources when what follows a code word never
-- changes how the word is read. This is stronger than injectivity and survives
-- concatenation, so nested length-prefixed formats are treated one field at a time.
def PrefixFreeOn {α β : Type*} (sources : Set α) (encode : α → List β) : Prop :=
  ∀ a ∈ sources, ∀ b ∈ sources, ∀ rest more : List β,
    encode a ++ rest = encode b ++ more → a = b ∧ rest = more

section PrefixFree

variable {α γ β : Type*} {sources : Set α} {encode : α → List β}

theorem prefix_free_injective (free : PrefixFreeOn sources encode) : Set.InjOn encode sources := by
  intro a inA b inB same
  exact (free a inA b inB [] [] (by rw [same])).1

theorem prefix_free_const_append (header : List β)
    (free : PrefixFreeOn sources encode) : PrefixFreeOn sources (fun a => header ++ encode a) := by
  intro a inA b inB rest more same
  rw [append_assoc, append_assoc] at same
  exact free a inA b inB rest more (append_cancel_left same)

theorem prefix_free_comp {targets : Set γ} {encode : γ → List β} {field : α → γ}
    (free : PrefixFreeOn targets encode) (maps : Set.MapsTo field sources targets)
    (injective : Set.InjOn field sources) : PrefixFreeOn sources (fun a => encode (field a)) := by
  intro a inA b inB rest more same
  have both := free _ (maps inA) _ (maps inB) rest more same
  exact ⟨injective inA inB both.1, both.2⟩

theorem prefix_free_length_prefixed {bound : Set ℕ} {lengthCode : ℕ → List β} (free : PrefixFreeOn bound lengthCode) :
    PrefixFreeOn {body : List β | body.length ∈ bound} (fun body => lengthCode body.length ++ body) := by
  intro a inA b inB rest more same
  rw [append_assoc, append_assoc] at same
  obtain ⟨lengths, bodies⟩ := free _ inA _ inB _ _ same
  exact append_inj bodies lengths

theorem prefix_free_closed_run {mark : β} (free : PrefixFreeOn sources encode)
    (apart : ∀ a ∈ sources, ∃ head tail, encode a = head :: tail ∧ head ≠ mark) :
    PrefixFreeOn {run : List α | ∀ a ∈ run, a ∈ sources} (fun run => run.flatMap encode ++ [mark]) := by
  intro first
  induction first with
  | nil =>
    intro _ second inSecond rest more same
    cases second with
    | nil => simpa using same
    | cons b second =>
      obtain ⟨head, tail, word, other⟩ := apart b (inSecond b mem_cons_self)
      simp only [flatMap_nil, flatMap_cons, word, nil_append, cons_append, cons.injEq] at same
      exact absurd same.1.symm other
  | cons a first ih =>
    intro inFirst second inSecond rest more same
    cases second with
    | nil =>
      obtain ⟨head, tail, word, other⟩ := apart a (inFirst a mem_cons_self)
      simp only [flatMap_nil, flatMap_cons, word, nil_append, cons_append, cons.injEq] at same
      exact absurd same.1 other
    | cons b second =>
      simp only [flatMap_cons, append_assoc] at same
      obtain ⟨rfl, tails⟩ := free a (inFirst a mem_cons_self) b (inSecond b mem_cons_self) _ _ same
      have inTail : ∀ c ∈ first, c ∈ sources := fun c mem => inFirst c (mem_cons_of_mem _ mem)
      have inTail' : ∀ c ∈ second, c ∈ sources := fun c mem => inSecond c (mem_cons_of_mem _ mem)
      obtain ⟨rfl, ends⟩ := ih inTail second inTail' rest more (by simpa using tails)
      exact ⟨rfl, ends⟩

theorem prefix_free_terminated (mark : β) : PrefixFreeOn {body : List β | mark ∉ body} (fun body => body ++ [mark]) := by
  have letters : PrefixFreeOn {letter : β | letter ≠ mark} fun letter => [letter] := by
    intro a _ b _ rest more same
    simpa using same
  intro a inA b inB rest more same
  refine prefix_free_closed_run letters (fun letter other => ⟨letter, [], rfl, other⟩) a ?_ b ?_ rest more ?_
  · exact fun letter mem equal => inA (equal ▸ mem)
  · exact fun letter mem equal => inB (equal ▸ mem)
  · simpa using same

theorem prefix_free_flatMap (free : PrefixFreeOn sources encode) (nonempty : ∀ a ∈ sources, encode a ≠ []) {xs ys : List α}
    (inXs : ∀ x ∈ xs, x ∈ sources) (inYs : ∀ y ∈ ys, y ∈ sources) (same : xs.flatMap encode = ys.flatMap encode) : xs = ys := by
  induction xs generalizing ys with
  | nil =>
    cases ys with
    | nil => rfl
    | cons y ys =>
      have empty := (append_eq_nil_iff.mp same.symm).1
      exact absurd empty (nonempty y (inYs y mem_cons_self))
  | cons x xs ih =>
    cases ys with
    | nil =>
      have empty := (append_eq_nil_iff.mp same).1
      exact absurd empty (nonempty x (inXs x mem_cons_self))
    | cons y ys =>
      obtain ⟨rfl, tails⟩ :=
        free x (inXs x mem_cons_self) y (inYs y mem_cons_self) _ _ same
      have inTail : ∀ z ∈ xs, z ∈ sources := fun z mem => inXs z (mem_cons_of_mem _ mem)
      have inTail' : ∀ z ∈ ys, z ∈ sources := fun z mem => inYs z (mem_cons_of_mem _ mem)
      rw [ih inTail inTail' tails]

end PrefixFree

section Suffix

variable {β : Type*}

-- A header whose size does not shrink when the body grows: the total size then fixes the
-- body's size, and the body is the end of the code word. No bound on the size is needed.
theorem body_injective_of_monotone {header : ℕ → List β} (monotone : Monotone fun n => (header n).length) :
    Function.Injective fun body : List β => header body.length ++ body := by
  intro a b same
  have total := congrArg length same
  simp only [length_append] at total
  have sizes : a.length = b.length := by
    rcases lt_trichotomy a.length b.length with less | same | more
    · have grows := monotone less.le
      simp only at grows
      omega
    · exact same
    · have grows := monotone more.le
      simp only at grows
      omega
  exact (append_inj same (by rw [sizes])).2

end Suffix

end Lib.Codec
