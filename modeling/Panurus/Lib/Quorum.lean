import Mathlib.Data.List.Induction
import Mathlib.Data.List.Nodup
import Mathlib.Data.List.Perm.Subperm

namespace Lib

open List

structure Ballot (Choice Voter Paper : Type) where
  choice : Choice
  voter : Voter
  paper : Paper

namespace Quorum

variable {Choice Voter Paper : Type} [DecidableEq Choice] [DecidableEq Voter]
  {ballots : List (Ballot Choice Voter Paper)} {ballot : Ballot Choice Voter Paper} {choice : Choice}

def keep (choice : Choice) (kept : List (Ballot Choice Voter Paper)) (ballot : Ballot Choice Voter Paper) :
    List (Ballot Choice Voter Paper) :=
  if ballot.choice = choice ∧ ballot.voter ∉ kept.map Ballot.voter then kept ++ [ballot] else kept

def counted (ballots : List (Ballot Choice Voter Paper)) (choice : Choice) : List (Ballot Choice Voter Paper) :=
  ballots.foldl (keep choice) []

theorem counted_snoc : counted (ballots ++ [ballot]) choice = keep choice (counted ballots choice) ballot := by
  simp [counted]

theorem counted_snoc_other (other : ballot.choice ≠ choice) : counted (ballots ++ [ballot]) choice = counted ballots choice := by
  rw [counted_snoc, keep, if_neg fun both => other both.1]

theorem counted_snoc_repeated (again : ballot.voter ∈ (counted ballots ballot.choice).map Ballot.voter) :
    counted (ballots ++ [ballot]) choice = counted ballots choice := by
  by_cases same : ballot.choice = choice
  · subst same
    rw [counted_snoc, keep, if_neg fun both => both.2 again]
  · exact counted_snoc_other same

theorem counted_snoc_fresh (fresh : ballot.voter ∉ (counted ballots ballot.choice).map Ballot.voter) :
    counted (ballots ++ [ballot]) ballot.choice = counted ballots ballot.choice ++ [ballot] := by
  rw [counted_snoc, keep, if_pos ⟨rfl, fresh⟩]

theorem counted_spec (ballots : List (Ballot Choice Voter Paper)) (choice : Choice) :
    (∀ ballot ∈ counted ballots choice, ballot ∈ ballots ∧ ballot.choice = choice) ∧
      ((counted ballots choice).map Ballot.voter).Nodup := by
  induction ballots using reverseRecOn with
  | nil => simp [counted]
  | append_singleton ballots ballot ih =>
    obtain ⟨cast, distinct⟩ := ih
    have grown : ∀ one ∈ counted ballots choice, one ∈ ballots ++ [ballot] ∧ one.choice = choice :=
      fun one mem => ⟨mem_append_left _ (cast one mem).1, (cast one mem).2⟩
    rw [counted_snoc, keep]
    split
    · rename_i fits
      refine ⟨?_, ?_⟩
      · intro one mem
        rcases mem_append.mp mem with earlier | last
        · exact grown one earlier
        · obtain rfl := mem_singleton.mp last
          exact ⟨by simp, fits.1⟩
      · rw [map_append, map_singleton, ← concat_eq_append]
        exact List.Nodup.concat fits.2 distinct
    · exact ⟨grown, distinct⟩

theorem voter_counted (ballots : List (Ballot Choice Voter Paper)) :
    ∀ ballot ∈ ballots, ballot.voter ∈ (counted ballots ballot.choice).map Ballot.voter := by
  induction ballots using reverseRecOn with
  | nil => simp
  | append_singleton ballots last ih =>
    intro ballot mem
    rw [counted_snoc, keep]
    rcases mem_append.mp mem with earlier | here
    · have before := ih ballot earlier
      split
      · rw [map_append]
        exact mem_append_left _ before
      · exact before
    · obtain rfl := mem_singleton.mp here
      split
      · simp
      · rename_i repeated
        simpa using repeated

theorem voters_le_counted {voters : List Voter} (distinct : voters.Nodup)
    (voted : ∀ voter ∈ voters, ∃ ballot ∈ ballots, ballot.choice = choice ∧ ballot.voter = voter) :
    voters.length ≤ (counted ballots choice).length := by
  have inside : voters ⊆ (counted ballots choice).map Ballot.voter := by
    intro voter mem
    obtain ⟨ballot, cast, rfl, rfl⟩ := voted voter mem
    exact voter_counted ballots ballot cast
  simpa using (distinct.subperm inside).length_le

end Quorum

end Lib
