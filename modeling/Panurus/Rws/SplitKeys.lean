import Panurus.Rws.Translator

namespace Panurus.Rws

open List Lib Outcome Text

def numComponentsInKey : Nat := 2

-- A component ends at a separator; what follows the last separator belongs to none.
def componentsFrom : Bytes → Bytes → List Bytes
  | _, [] => []
  | component, octet :: rest =>
    if octet = 0x00 then component :: componentsFrom [] rest else componentsFrom (component ++ [octet]) rest

def components (key : Key) : List Bytes := componentsFrom [] (key.drop 1)

def splitCompositeKey (key : Key) : Outcome (Key × List Bytes) := do
  let parts := components key
  let listed := " ".intercalate (parts.map render)
  ensure (¬ parts.length < numComponentsInKey + 1)
    s!"invalid composite key - not enough components found in key '{render key}', [{parts.length}][[{listed}]]"
  return (parts.headD [], parts.tail)

def getTransferMetadataSubKey (key : Key) : Outcome Key := do
  let (objectType, parts) ← wrap s!"failed to split composite key [{render key}]" (splitCompositeKey key)
  -- The error that is wrapped here is the one of the split, which is nil, and so is a wrapped nil.
  if parts.length ≠ 1 then return []
  else do
    ensure (objectType = transferActionMetadataPrefix) s!"key [{render key}] doesn not contain the token key prefix"
    return parts.headD []

theorem components_from_length (component octets : Bytes) : (componentsFrom component octets).length = octets.count 0x00 := by
  induction octets generalizing component with
  | nil => rfl
  | cons octet rest ih =>
    rw [componentsFrom]
    split
    · rename_i separator
      simp [separator, ih]
    · rename_i inside
      simp [inside, ih]

theorem components_length (key : Key) : (components key).length = (key.drop 1).count 0x00 := components_from_length [] _

theorem split_ok_iff {key : Key} {parts : Key × List Bytes} :
    splitCompositeKey key = .ok parts ↔ 3 ≤ (components key).length ∧ ((components key).headD [], (components key).tail) = parts := by
  simp only [splitCompositeKey, ok_iff, exists_const, Nat.not_lt]
  exact Iff.rfl

theorem sub_key_ok_iff {key subKey : Key} :
    getTransferMetadataSubKey key = .ok subKey ↔ 3 ≤ (key.drop 1).count 0x00 ∧ subKey = [] := by
  simp only [getTransferMetadataSubKey, ok_iff, split_ok_iff, ← components_length]
  constructor
  · rintro ⟨_, ⟨many, rfl⟩, found⟩
    have other : (components key).tail.length ≠ 1 := by
      rw [length_tail]
      omega
    rw [if_pos other, pure_ok_iff] at found
    exact ⟨many, found.symm⟩
  · rintro ⟨many, rfl⟩
    have other : (components key).tail.length ≠ 1 := by
      rw [length_tail]
      omega
    exact ⟨_, ⟨many, rfl⟩, if_pos other⟩

theorem made_separators {subKey key : Key} (made : createTransferActionMetadataKey subKey = .ok key) :
    (key.drop 1).count 0x00 = 2 := by
  obtain ⟨rfl, typed, closed⟩ := create_composite_key_ok made
  simp [compositeKey, count_eq_zero_of_not_mem typed, count_eq_zero_of_not_mem (closed subKey mem_cons_self)]

theorem sub_key_recovered_iff (subKey key : Key) :
    (∀ made, createTransferActionMetadataKey subKey = .ok made → ∀ other, getTransferMetadataSubKey made ≠ .ok other) ∧
      ((∀ found, getTransferMetadataSubKey key = .ok found → createTransferActionMetadataKey found = .ok key) ↔
        (key.drop 1).count 0x00 < 3) := by
  constructor
  · intro made creation other recovered
    have three := (sub_key_ok_iff.mp recovered).1
    rw [made_separators creation] at three
    omega
  · constructor
    · intro recovered
      by_contra many
      have made := recovered [] (sub_key_ok_iff.mpr ⟨Nat.not_lt.mp many, rfl⟩)
      rw [made_separators made] at many
      omega
    · intro few found recovered
      have many := (sub_key_ok_iff.mp recovered).1
      omega

-- A key that was made is refused; one with a component more than the splitter asks for gives the empty sub-key.
theorem sub_key_lost :
    (∃ key, createTransferActionMetadataKey (ascii "k") = .ok key ∧ getTransferMetadataSubKey key ≠ .ok (ascii "k")) ∧
      getTransferMetadataSubKey (0x00 :: ascii "x" ++ [0x00] ++ ascii "y" ++ [0x00] ++ ascii "z" ++ [0x00]) = .ok [] ∧
        createTransferActionMetadataKey [] ≠ .ok (0x00 :: ascii "x" ++ [0x00] ++ ascii "y" ++ [0x00] ++ ascii "z" ++ [0x00]) :=
  ⟨⟨_, rfl, by decide⟩, by decide, by decide⟩

end Panurus.Rws
