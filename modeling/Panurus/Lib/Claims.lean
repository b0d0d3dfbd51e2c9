import Mathlib.Data.List.Basic

namespace Lib.Claims

variable {Resource Owner Holder : Type} {table : Resource → Option Holder} {holderOf holderOf' : Owner → Holder}
  {claims claims' : Owner → List Resource}

def grant [DecidableEq Resource] (table : Resource → Option Holder) (holder : Holder) (granted : List Resource) :
    Resource → Option Holder :=
  fun resource => if resource ∈ granted then some holder else table resource

def drop [DecidableEq Holder] (table : Resource → Option Holder) (holder : Holder) : Resource → Option Holder :=
  fun resource => if table resource = some holder then none else table resource

theorem drop_ne [DecidableEq Holder] (table : Resource → Option Holder) (holder : Holder) (resource : Resource) :
    drop table holder resource ≠ some holder := by
  unfold drop
  split
  · simp
  · assumption

-- Several owners may lock under one holder. Different owners still claim different resources.
structure Kept (table : Resource → Option Holder) (holderOf : Owner → Holder) (claims : Owner → List Resource) : Prop where
  held : ∀ owner, ∀ resource ∈ claims owner, table resource = some (holderOf owner)
  apart : ∀ owner other, owner ≠ other → (claims owner).Disjoint (claims other)

theorem kept_mono (kept : Kept table holderOf claims) (fewer : ∀ owner, claims' owner ⊆ claims owner)
    (holders : ∀ owner, claims' owner ≠ [] → holderOf' owner = holderOf owner) : Kept table holderOf' claims' := by
  constructor
  · intro owner resource claimed
    rw [holders owner (List.ne_nil_of_mem claimed)]
    exact kept.held owner resource (fewer owner claimed)
  · intro owner other different resource first second
    exact kept.apart owner other different (fewer owner first) (fewer other second)

theorem kept_grant [DecidableEq Resource] {owner : Owner} {granted : List Resource} (kept : Kept table holderOf claims)
    (free : ∀ resource ∈ granted, table resource = none) (mine : claims' owner ⊆ claims owner ++ granted)
    (others : ∀ other, other ≠ owner → claims' other ⊆ claims other)
    (holders : ∀ other, claims' other ≠ [] → holderOf' other = holderOf other) :
    Kept (grant table (holderOf owner) granted) holderOf' claims' := by
  have unlocked : ∀ other resource, resource ∈ granted → resource ∉ claims other := by
    intro other resource new claimed
    have locked := kept.held other resource claimed
    rw [free resource new] at locked
    cases locked
  have mineApart : ∀ other, other ≠ owner → (claims' owner).Disjoint (claims' other) := by
    intro other different resource first second
    have theirs := others other different second
    rcases List.mem_append.mp (mine first) with old | new
    · exact kept.apart owner other different.symm old theirs
    · exact unlocked other resource new theirs
  constructor
  · intro other resource claimed
    rw [holders other (List.ne_nil_of_mem claimed), grant]
    by_cases same : other = owner
    · subst same
      split
      · rfl
      · rename_i old
        exact kept.held other resource ((List.mem_append.mp (mine claimed)).resolve_right old)
    · have theirs := others other same claimed
      rw [if_neg fun new => unlocked other resource new theirs]
      exact kept.held other resource theirs
  · intro one other different
    by_cases first : one = owner
    · subst first
      exact mineApart other different.symm
    · by_cases second : other = owner
      · subst second
        exact fun resource left right => mineApart one first right left
      · intro resource left right
        exact kept.apart one other different (others one first left) (others other second right)

theorem kept_drop [DecidableEq Holder] {holder : Holder} (kept : Kept table holderOf claims)
    (fewer : ∀ owner, claims' owner ⊆ claims owner) (gone : ∀ owner, holderOf owner = holder → claims' owner = [])
    (holders : ∀ owner, claims' owner ≠ [] → holderOf' owner = holderOf owner) : Kept (drop table holder) holderOf' claims' := by
  have left : Kept table holderOf' claims' := kept_mono kept fewer holders
  refine ⟨?_, left.apart⟩
  intro owner resource claimed
  have locked := left.held owner resource claimed
  rw [drop, locked, if_neg]
  intro same
  have mine := Option.some.inj same
  rw [holders owner (List.ne_nil_of_mem claimed)] at mine
  rw [gone owner mine] at claimed
  cases claimed

end Lib.Claims
