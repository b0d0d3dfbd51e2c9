import Mathlib.Data.List.Nodup

namespace Lib.Mapping

variable {K V : Type} [DecidableEq K] {entries : List (K × V)} {key : K} {value : V}

def writeAll (mapping : K → V) (entries : List (K × V)) : K → V :=
  entries.foldl (fun current entry => Function.update current entry.1 entry.2) mapping

theorem write_all_append (mapping : K → V) (entries more : List (K × V)) :
    writeAll mapping (entries ++ more) = writeAll (writeAll mapping entries) more :=
  List.foldl_append

theorem write_all_not_mem (mapping : K → V) (absent : key ∉ entries.map Prod.fst) : writeAll mapping entries key = mapping key := by
  induction entries generalizing mapping with
  | nil => rfl
  | cons entry tail ih =>
    simp only [List.map_cons, List.mem_cons, not_or] at absent
    exact (ih _ absent.2).trans (Function.update_of_ne absent.1 _ _)

theorem write_all_agree (mapping : K → V) (written : key ∈ entries.map Prod.fst)
    (agree : ∀ entry ∈ entries, entry.1 = key → entry.2 = value) : writeAll mapping entries key = value := by
  induction entries generalizing mapping with
  | nil => simp at written
  | cons entry tail ih =>
    by_cases later : key ∈ tail.map Prod.fst
    · exact ih _ later fun other mem => agree other (List.mem_cons_of_mem _ mem)
    · have first : key = entry.1 := by simpa [later] using written
      rw [writeAll, List.foldl_cons]
      refine (write_all_not_mem _ later).trans ?_
      rw [first, Function.update_self]
      exact agree entry List.mem_cons_self first.symm

theorem write_all_mem (mapping : K → V) (distinct : (entries.map Prod.fst).Nodup)
    (mem : (key, value) ∈ entries) : writeAll mapping entries key = value := by
  refine write_all_agree mapping (List.mem_map_of_mem mem) fun entry found same => ?_
  exact congrArg Prod.snd (List.inj_on_of_nodup_map distinct found mem same)

end Lib.Mapping
