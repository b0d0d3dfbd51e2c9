import Panurus.Lib.Der

namespace Lib.Utf8

open List Lib.Codec

-- What a scan of a byte string yields: a code point, given by its one valid encoding, or a stray octet.
inductive Rune where
  | valid (octets : Bytes)
  | invalid (octet : UInt8)
deriving DecidableEq, Repr

def Rune.octets : Rune → Bytes
  | .valid octets => octets
  | .invalid octet => [octet]

-- How many octets follow a first octet, and the range of the second one.
def lead (first : UInt8) : Option (Nat × UInt8 × UInt8) :=
  if first < 0x80 then some (0, 0x00, 0xFF)
  else if first < 0xC2 then none
  else if first < 0xE0 then some (1, 0x80, 0xBF)
  else if first = 0xE0 then some (2, 0xA0, 0xBF)
  else if first = 0xED then some (2, 0x80, 0x9F)
  else if first < 0xF0 then some (2, 0x80, 0xBF)
  else if first = 0xF0 then some (3, 0x90, 0xBF)
  else if first < 0xF4 then some (3, 0x80, 0xBF)
  else if first = 0xF4 then some (3, 0x80, 0x8F)
  else none

def continuation (octet : UInt8) : Bool := 0x80 ≤ octet && octet ≤ 0xBF

-- The octets after the first one of the rune that starts here, if a valid one does.
def following (first : UInt8) (rest : Bytes) : Option Bytes :=
  match lead first with
  | none => none
  | some (0, _, _) => some []
  | some (count + 1, low, high) =>
    match rest with
    | [] => none
    | second :: tail =>
      if low ≤ second ∧ second ≤ high ∧ count ≤ tail.length ∧ (tail.take count).all continuation then
        some (second :: tail.take count)
      else none

-- The first argument counts the octets still to be passed over, being part of the last rune.
def scanFrom : Nat → Bytes → List Rune
  | _, [] => []
  | skip + 1, _ :: rest => scanFrom skip rest
  | 0, first :: rest =>
    match following first rest with
    | some others => .valid (first :: others) :: scanFrom others.length rest
    | none => .invalid first :: scanFrom 0 rest

def scan (octets : Bytes) : List Rune := scanFrom 0 octets

def isValid : Rune → Bool
  | .valid _ => true
  | .invalid _ => false

def validString (octets : Bytes) : Bool := (scan octets).all isValid

theorem scan_ascii {octets : Bytes} (low : ∀ octet ∈ octets, octet < 0x80) :
    scan octets = octets.map fun octet => .valid [octet] := by
  induction octets with
  | nil => rfl
  | cons first rest ih =>
    have others := ih fun octet mem => low octet (mem_cons_of_mem _ mem)
    have single : following first rest = some [] := by
      simp [following, lead, low first mem_cons_self]
    simp only [scan, scanFrom, single, length_nil, map_cons] at others ⊢
    rw [others]

theorem following_some_iff {first : UInt8} {rest others : Bytes} :
    following first rest = some others ↔
      ∃ count low high, lead first = some (count, low, high) ∧ others = rest.take count ∧ count ≤ rest.length ∧
        ∀ second tail, others = second :: tail → low ≤ second ∧ second ≤ high ∧ tail.all continuation := by
  unfold following
  cases given : lead first with
  | none => simp
  | some entry =>
    obtain ⟨count, low, high⟩ := entry
    cases count with
    | zero =>
      constructor
      · intro found
        obtain rfl := Option.some.inj found
        exact ⟨0, low, high, rfl, rfl, Nat.zero_le _, by simp⟩
      · rintro ⟨_, _, _, same, rfl, -⟩
        cases same
        rfl
    | succ count =>
      cases rest with
      | nil =>
        constructor
        · intro found
          cases found
        · rintro ⟨_, _, _, same, -, long, -⟩
          cases same
          simp at long
      | cons second tail =>
        simp only [Option.ite_none_right_eq_some, Option.some.injEq]
        constructor
        · rintro ⟨⟨low', high', long, all⟩, rfl⟩
          refine ⟨count + 1, low, high, rfl, rfl, Nat.succ_le_succ long, ?_⟩
          intro _ _ same
          cases same
          exact ⟨low', high', all⟩
        · rintro ⟨_, _, _, same, rfl, long, checks⟩
          cases same
          obtain ⟨low', high', all⟩ := checks second (tail.take count) rfl
          exact ⟨⟨low', high', Nat.le_of_succ_le_succ long, all⟩, rfl⟩

theorem scan_from_octets (skip : Nat) (octets : Bytes) : (scanFrom skip octets).flatMap Rune.octets = octets.drop skip := by
  induction octets generalizing skip with
  | nil => simp [scanFrom]
  | cons first rest ih =>
    cases skip with
    | succ skip => rw [scanFrom, ih, drop_succ_cons]
    | zero =>
      rw [scanFrom, drop_zero]
      cases found : following first rest with
      | none => simp [Rune.octets, ih]
      | some others =>
        obtain ⟨count, _, _, -, rfl, long, -⟩ := following_some_iff.mp found
        simp only [flatMap_cons, Rune.octets, ih, cons_append, cons.injEq, true_and, length_take, Nat.min_eq_left long]
        exact take_append_drop _ _

theorem scan_octets (octets : Bytes) : (scan octets).flatMap Rune.octets = octets := by
  rw [scan, scan_from_octets, drop_zero]

def IsRune : Bytes → Prop
  | [] => False
  | first :: others => following first others = some others

theorem scan_from_runes (skip : Nat) (octets : Bytes) : ∀ rune, .valid rune ∈ scanFrom skip octets → IsRune rune := by
  induction octets generalizing skip with
  | nil => simp [scanFrom]
  | cons first rest ih =>
    intro rune mem
    cases skip with
    | succ skip => exact ih skip rune mem
    | zero =>
      rw [scanFrom] at mem
      cases found : following first rest with
      | none =>
        rw [found, mem_cons] at mem
        cases mem with
        | inl same => cases same
        | inr later => exact ih 0 rune later
      | some others =>
        rw [found, mem_cons] at mem
        cases mem with
        | inr later => exact ih others.length rune later
        | inl same =>
          obtain rfl := Rune.valid.inj same
          obtain ⟨count, low, high, given, rfl, long, checks⟩ := following_some_iff.mp found
          rw [IsRune, following_some_iff]
          have size : (rest.take count).length = count := by rw [length_take, Nat.min_eq_left long]
          exact ⟨count, low, high, given, by rw [take_take, Nat.min_self], size.ge, checks⟩

theorem runes_prefix_free : PrefixFreeOn {octets | IsRune octets} id := by
  intro a runeA b runeB rest more same
  cases a with
  | nil => exact runeA.elim
  | cons first others =>
    cases b with
    | nil => exact runeB.elim
    | cons first' others' =>
      simp only [id_eq, cons_append, cons.injEq] at same
      obtain ⟨rfl, tails⟩ := same
      obtain ⟨count, _, _, given, taken, long, -⟩ := following_some_iff.mp runeA
      obtain ⟨count', _, _, given', taken', long', -⟩ := following_some_iff.mp runeB
      obtain rfl : count = count' := by
        rw [given] at given'
        cases given'
        rfl
      have size := congrArg length taken
      have size' := congrArg length taken'
      rw [length_take, Nat.min_eq_left long] at size
      rw [length_take, Nat.min_eq_left long'] at size'
      obtain ⟨rfl, ends⟩ := append_inj tails (size.trans size'.symm)
      exact ⟨rfl, ends⟩

theorem lead_cases {first low high : UInt8} {count : Nat} (given : lead first = some (count, low, high)) :
    (count = 0 ∧ first < 0x80) ∨ (0x80 ≤ first ∧ 0x80 ≤ low) := by
  unfold lead at given
  by_cases short : first < 0x80
  · rw [if_pos short] at given
    cases given
    exact .inl ⟨rfl, short⟩
  · rw [if_neg short] at given
    refine .inr ⟨UInt8.not_lt.mp short, ?_⟩
    split_ifs at given <;> cases given <;> decide

theorem rune_ascii_or_high {octets : Bytes} (rune : IsRune octets) :
    (∃ octet, octets = [octet] ∧ octet < 0x80) ∨ ∀ octet ∈ octets, 0x80 ≤ octet := by
  cases octets with
  | nil => exact rune.elim
  | cons first others =>
    obtain ⟨count, low, high, given, taken, -, checks⟩ := following_some_iff.mp rune
    cases lead_cases given with
    | inl ascii =>
      obtain ⟨rfl, small⟩ := ascii
      exact .inl ⟨first, by rw [taken, take_zero], small⟩
    | inr multiple =>
      refine .inr fun octet mem => ?_
      cases others with
      | nil =>
        rw [mem_singleton.mp mem]
        exact multiple.1
      | cons second tail =>
        obtain ⟨above, -, all⟩ := checks second tail rfl
        rw [mem_cons, mem_cons] at mem
        rcases mem with rfl | rfl | later
        · exact multiple.1
        · exact UInt8.le_trans multiple.2 above
        · have next := all_eq_true.mp all octet later
          rw [continuation, Bool.and_eq_true, decide_eq_true_eq] at next
          exact next.1

theorem ascii_rune_of_mem {octets : Bytes} (valid : validString octets) {octet : UInt8} (mem : octet ∈ octets)
    (small : octet < 0x80) : .valid [octet] ∈ scan octets := by
  rw [← scan_octets octets, mem_flatMap] at mem
  obtain ⟨rune, found, inside⟩ := mem
  have checked := all_eq_true.mp valid rune found
  cases rune with
  | invalid stray => cases checked
  | valid encoding =>
    cases rune_ascii_or_high (scan_from_runes 0 octets encoding found) with
    | inl ascii =>
      obtain ⟨single, rfl, -⟩ := ascii
      rw [mem_singleton.mp inside]
      exact found
    | inr high => exact absurd small (UInt8.not_lt.mpr (high octet inside))

end Lib.Utf8
