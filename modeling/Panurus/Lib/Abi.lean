import Panurus.Lib.FixedWidth

namespace Lib.Abi

open List FixedWidth

def wordLength : Nat := 32

def lengthWord (n : Nat) : Bytes := List.replicate 24 0 ++ bigEndian 8 n

def readLength (data : Bytes) : Option Nat :=
  if wordLength ≤ data.length ∧ data.take 24 = List.replicate 24 0 then some (ofBigEndian ((data.drop 24).take 8)) else none

theorem length_word_length (n : Nat) : (lengthWord n).length = wordLength := by simp [lengthWord, wordLength]

theorem read_length_word {n : Nat} (fits : n < 2 ^ 64) (rest : Bytes) : readLength (lengthWord n ++ rest) = some n := by
  have long : wordLength ≤ (lengthWord n ++ rest).length := by simp [lengthWord, wordLength]
  have zeros : (lengthWord n ++ rest).take 24 = replicate 24 0 := by
    rw [lengthWord, append_assoc]
    exact take_left' (by simp)
  have number : ((lengthWord n ++ rest).drop 24).take 8 = bigEndian 8 n := by
    exact take_left' (by simp)
  rw [readLength, if_pos ⟨long, zeros⟩, number, of_big_endian (by simpa using fits)]

-- A value as a part of a sequence: a static one stands in the head, a dynamic one in the tail with its offset in the head.
structure Part where
  dynamic : Bool
  octets : Bytes

def Part.headSize (part : Part) : Nat := if part.dynamic then wordLength else part.octets.length
def Part.tail (part : Part) : Bytes := if part.dynamic then part.octets else []

def headSizes (parts : List Part) : Nat := (parts.map Part.headSize).sum
def tails (parts : List Part) : Bytes := parts.flatMap Part.tail

def heads : Nat → List Part → Bytes
  | _, [] => []
  | offset, part :: rest =>
    (if part.dynamic then lengthWord offset else part.octets) ++ heads (offset + part.tail.length) rest

def layout (parts : List Part) : Bytes := heads (headSizes parts) parts ++ tails parts

theorem heads_length (offset : Nat) (parts : List Part) : (heads offset parts).length = headSizes parts := by
  induction parts generalizing offset with
  | nil => rfl
  | cons part rest ih =>
    obtain ⟨dynamic, octets⟩ := part
    have later := ih (offset + (Part.tail ⟨dynamic, octets⟩).length)
    cases dynamic with
    | false => simpa [heads, headSizes, Part.headSize] using later
    | true => simpa [heads, headSizes, Part.headSize, length_word_length] using later

theorem heads_append (offset : Nat) (front back : List Part) :
    heads offset (front ++ back) = heads offset front ++ heads (offset + (tails front).length) back := by
  induction front generalizing offset with
  | nil => simp [heads, tails]
  | cons part rest ih => simp [heads, ih, tails, Nat.add_assoc]

theorem tails_append (front back : List Part) : tails (front ++ back) = tails front ++ tails back := by
  simp [tails]

theorem layout_head (front back : List Part) (part : Part) (more : Bytes) : ∃ rest,
    (layout (front ++ part :: back) ++ more).drop (headSizes front) =
      (if part.dynamic then lengthWord (headSizes (front ++ part :: back) + (tails front).length) else part.octets) ++ rest := by
  rw [layout, heads_append, heads]
  simp only [append_assoc]
  rw [drop_left' (heads_length _ _)]
  exact ⟨_, rfl⟩

variable {part : Part} {parts front back : List Part}

theorem layout_tail (front back : List Part) (dynamic : part.dynamic = true) (more : Bytes) : ∃ rest,
    (layout (front ++ part :: back) ++ more).drop (headSizes (front ++ part :: back) + (tails front).length) =
      part.octets ++ rest := by
  have placed : tails (front ++ part :: back) = tails front ++ (part.octets ++ tails back) := by
    rw [tails_append, tails, tails, tails, flatMap_cons, Part.tail, if_pos dynamic]
  rw [layout, placed, ← append_assoc, append_assoc, drop_left' (by rw [length_append, heads_length])]
  exact ⟨_, append_assoc _ _ _⟩

theorem layout_length (parts : List Part) : (layout parts).length = headSizes parts + (tails parts).length := by
  rw [layout, length_append, heads_length]

theorem layout_whole_words (whole : ∀ part ∈ parts, wordLength ∣ part.octets.length) : wordLength ∣ (layout parts).length := by
  rw [layout_length]
  induction parts with
  | nil => exact dvd_zero _
  | cons part rest ih =>
    obtain ⟨first, later⟩ := forall_mem_cons.mp whole
    have split : headSizes (part :: rest) + (tails (part :: rest)).length =
        (part.headSize + part.tail.length) + (headSizes rest + (tails rest).length) := by
      simp only [headSizes, tails, map_cons, sum_cons, flatMap_cons, length_append]
      omega
    rw [split]
    refine dvd_add ?_ (ih later)
    rw [Part.headSize, Part.tail]
    split
    · exact dvd_add (dvd_refl _) first
    · exact dvd_add first (dvd_zero _)

theorem offset_lt (fits : (layout (front ++ part :: back)).length < 2 ^ 64) :
    headSizes (front ++ part :: back) + (tails front).length < 2 ^ 64 := by
  rw [layout_length, tails_append, length_append] at fits
  omega

-- How a value is read: a static one takes a fixed number of octets, a dynamic one is found through its offset. What
-- follows the value is left alone.
structure Layout (α : Type) where
  inline : Option Nat
  decode : Bytes → Option α

namespace Layout

variable {α : Type}

def headSize (l : Layout α) : Nat := l.inline.getD wordLength

-- An offset behind the end of the data leaves nothing to read a value from.
def field (l : Layout α) (base : Bytes) (head : Nat) : Option α :=
  match l.inline with
  | some _ => l.decode (base.drop head)
  | none => do
    let offset ← readLength (base.drop head)
    l.decode (base.drop offset)

def elements (l : Layout α) (base : Bytes) : Nat → Nat → Option (List α)
  | 0, _ => some []
  | count + 1, head => do
    let first ← l.field base head
    let rest ← l.elements base count (head + l.headSize)
    return first :: rest

end Layout

def array {α : Type} (l : Layout α) : Layout (List α) where
  inline := none
  decode data := do
    let count ← readLength data
    let base := data.drop wordLength
    if count * l.headSize ≤ base.length then l.elements base count 0 else none

def bytes : Layout Bytes where
  inline := none
  decode data := do
    let count ← readLength data
    let body := data.drop wordLength
    if count ≤ body.length then some (body.take count) else none

def static {α : Type} (size : Nat) (read : Bytes → Option α) : Layout α where
  inline := some size
  decode data := if size ≤ data.length then read (data.take size) else none

-- A layout reads a value from a part, whatever follows, when lengths and offsets fit their words.
structure Layout.Reads {α : Type} (l : Layout α) (part : Part) (value : α) : Prop where
  dynamic : part.dynamic = l.inline.isNone
  inline : ∀ size, l.inline = some size → part.octets.length = size
  decode : part.octets.length < 2 ^ 64 → ∀ rest, l.decode (part.octets ++ rest) = some value

section Reading

variable {α : Type} {l : Layout α} {value : α} {values : List α}

theorem reads_head_size (reads : l.Reads part value) : part.headSize = l.headSize := by
  rw [Part.headSize, Layout.headSize, reads.dynamic]
  cases kind : l.inline with
  | none => rfl
  | some size => exact reads.inline size kind

theorem octets_le_layout (mem : part ∈ parts) : part.octets.length ≤ (layout parts).length := by
  obtain ⟨front, back, rfl⟩ := append_of_mem mem
  rw [layout_length]
  cases dynamic : part.dynamic with
  | false => simp [headSizes, Part.headSize, dynamic]; omega
  | true => simp [tails, Part.tail, dynamic]; omega

theorem field_reads (reads : l.Reads part value) (fits : (layout (front ++ part :: back)).length < 2 ^ 64) (more : Bytes) :
    l.field (layout (front ++ part :: back) ++ more) (headSizes front) = some value := by
  have small : part.octets.length < 2 ^ 64 := Nat.lt_of_le_of_lt (octets_le_layout (by simp)) fits
  obtain ⟨rest, head⟩ := layout_head front back part more
  rw [Layout.field, head]
  have kind := reads.dynamic
  cases inline : l.inline with
  | some size =>
    rw [inline] at kind
    rw [kind]
    exact reads.decode small rest
  | none =>
    have dynamic : part.dynamic = true := by rw [kind, inline, Option.isNone_none]
    obtain ⟨tail, found⟩ := layout_tail front back dynamic more
    rw [if_pos dynamic]
    simp only [read_length_word (offset_lt fits), Option.bind_eq_bind, Option.bind_some, found]
    exact reads.decode small tail

theorem word_field_reads (words : ∀ part ∈ parts, part.headSize = wordLength)
    (fits : (layout parts).length < 2 ^ 64) (more : Bytes) (index : Nat) {head : Nat} (here : head = index * wordLength)
    (found : parts[index]? = some part) (reads : l.Reads part value) : l.field (layout parts ++ more) head = some value := by
  obtain ⟨inside, rfl⟩ := List.getElem?_eq_some_iff.mp found
  have split : parts = parts.take index ++ parts[index] :: parts.drop (index + 1) := by
    rw [List.getElem_cons_drop, List.take_append_drop]
  have place : headSizes (parts.take index) = index * wordLength := by
    have each : (parts.take index).map Part.headSize = replicate index wordLength := by
      rw [eq_replicate_iff]
      refine ⟨by simp; omega, fun size mem => ?_⟩
      obtain ⟨other, listed, rfl⟩ := mem_map.mp mem
      exact words other (mem_of_mem_take listed)
    rw [headSizes, each, sum_replicate_nat]
  rw [split] at fits
  have read := field_reads reads fits more
  rwa [← split, place, ← here] at read

theorem read_then {β : Type} {first : Option α} {next : α → Option β} {result : β} (read : first = some value)
    (rest : next value = some result) : (first >>= next) = some result := by
  rw [read]
  exact rest

theorem elements_read (front : List Part) (reads : List.Forall₂ l.Reads back values)
    (fits : (layout (front ++ back)).length < 2 ^ 64) (more : Bytes) :
    l.elements (layout (front ++ back) ++ more) values.length (headSizes front) = some values := by
  induction reads generalizing front with
  | nil => rfl
  | @cons part value rest others first _ ih =>
    have next := ih (front ++ [part]) (by simpa using fits)
    have moved : headSizes (front ++ [part]) = headSizes front + l.headSize := by
      rw [← reads_head_size first]
      simp [headSizes]
    rw [append_assoc, singleton_append, moved] at next
    rw [length_cons, Layout.elements, field_reads first fits]
    simp only [Option.bind_eq_bind, Option.bind_some, next]
    rfl

theorem head_sizes_eq (reads : List.Forall₂ l.Reads parts values) : headSizes parts = values.length * l.headSize := by
  induction reads with
  | nil => simp [headSizes]
  | @cons part value rest others first _ ih =>
    rw [length_cons, Nat.add_mul, ← ih, ← reads_head_size first]
    simp [headSizes, Nat.add_comm]

theorem array_reads (reads : List.Forall₂ l.Reads parts values)
    (positive : 0 < l.headSize) : (array l).Reads ⟨true, lengthWord parts.length ++ layout parts⟩ values := by
  refine ⟨rfl, fun _ same => (by cases same), fun fits rest => ?_⟩
  have count : parts.length = values.length := reads.length_eq
  rw [length_append] at fits
  have heads : values.length * l.headSize ≤ (layout parts).length := by
    rw [← head_sizes_eq reads, layout_length]
    omega
  have few : values.length < 2 ^ 64 :=
    Nat.lt_of_le_of_lt (Nat.le_mul_of_pos_right _ positive) (Nat.lt_of_le_of_lt heads (by omega))
  have all : l.elements (layout parts ++ rest) values.length 0 = some values :=
    elements_read [] reads (by simpa using Nat.lt_of_le_of_lt (Nat.le_add_left _ _) fits) rest
  simp only [array, count, append_assoc, read_length_word few, Option.bind_eq_bind, Option.bind_some,
    drop_left' (length_word_length _)]
  rw [if_pos (by rw [length_append]; omega)]
  exact all

theorem bytes_reads (content : Bytes) (padding : Bytes) :
    bytes.Reads ⟨true, lengthWord content.length ++ content ++ padding⟩ content := by
  refine ⟨rfl, fun _ same => (by cases same), fun fits rest => ?_⟩
  simp only [length_append, length_word_length] at fits
  simp only [bytes, append_assoc, read_length_word (show content.length < 2 ^ 64 by omega), Option.bind_eq_bind,
    Option.bind_some, drop_left' (length_word_length _)]
  rw [if_pos (by simp), take_left' rfl]

theorem static_reads {size : Nat} {octets : Bytes} {read : Bytes → Option α} (length : octets.length = size)
    (done : read octets = some value) : (static size read).Reads ⟨false, octets⟩ value := by
  refine ⟨rfl, fun _ same => length.trans (Option.some.inj same), fun _ rest => ?_⟩
  simp only [static]
  rw [if_pos (by simp [length]), take_left' length, done]

end Reading

end Lib.Abi
