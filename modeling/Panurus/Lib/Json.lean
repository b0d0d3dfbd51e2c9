import Panurus.Lib.Outcome
import Panurus.Lib.Text
import Panurus.Lib.Utf8

namespace Lib.Json

open List Lib.Codec Lib.Text Lib.Utf8

def quote : UInt8 := 0x22
def backslash : UInt8 := 0x5C

-- The runes that are not written as they are: the control characters, the quote, the backslash, three characters
-- with a meaning in HTML, and the two line separators.
def specialRunes : List Bytes :=
  (List.range 32).map (fun code => [UInt8.ofNat code]) ++
    [[quote], [backslash], [0x3C], [0x3E], [0x26], [0xE2, 0x80, 0xA8], [0xE2, 0x80, 0xA9]]

def specialName : Bytes → Bytes
  | [0x22] => [0x22]
  | [0x5C] => [0x5C]
  | [0x08] => ascii "b"
  | [0x0C] => ascii "f"
  | [0x0A] => ascii "n"
  | [0x0D] => ascii "r"
  | [0x09] => ascii "t"
  | [0xE2, 0x80, 0xA8] => ascii "u2028"
  | [0xE2, 0x80, 0xA9] => ascii "u2029"
  | octets => ascii "u00" ++ hex octets

def escapeSpecial (rune : Bytes) : Bytes := backslash :: specialName rune

def escapeRune (rune : Bytes) : Bytes := if rune ∈ specialRunes then escapeSpecial rune else rune

def escape : Rune → Bytes
  | .valid octets => escapeRune octets
  | .invalid _ => backslash :: ascii "ufffd"

def quoted (text : Bytes) : Bytes := quote :: ((scan text).flatMap escape ++ [quote])

theorem special_words_apart : ∀ rune ∈ specialRunes, ∀ other ∈ specialRunes,
    escapeSpecial rune <+: escapeSpecial other → rune = other := by
  decide +kernel

theorem plain_rune_first {rune : Bytes} (valid : IsRune rune) (plain : rune ∉ specialRunes) :
    ∃ head tail, rune = head :: tail ∧ head ≠ backslash ∧ head ≠ quote := by
  cases rune_ascii_or_high valid with
  | inl single =>
    obtain ⟨octet, rfl, -⟩ := single
    refine ⟨octet, [], rfl, ?_, ?_⟩
    · rintro rfl
      exact plain (by decide)
    · rintro rfl
      exact plain (by decide)
  | inr high =>
    cases rune with
    | nil => exact valid.elim
    | cons head tail =>
      have above := high head mem_cons_self
      refine ⟨head, tail, rfl, ?_, ?_⟩
      · rintro rfl
        exact absurd above (by decide)
      · rintro rfl
        exact absurd above (by decide)

theorem escape_rune_first {rune : Bytes} (valid : IsRune rune) : ∃ head tail, escapeRune rune = head :: tail ∧ head ≠ quote := by
  by_cases special : rune ∈ specialRunes
  · exact ⟨backslash, _, if_pos special, by decide⟩
  · obtain ⟨head, tail, same, -, other⟩ := plain_rune_first valid special
    exact ⟨head, tail, (if_neg special).trans same, other⟩

theorem special_ne_plain {rune other rest more : Bytes} (special : rune ∈ specialRunes) (valid : IsRune other)
    (plain : other ∉ specialRunes) : escapeRune rune ++ rest ≠ escapeRune other ++ more := by
  obtain ⟨head, tail, same, different, -⟩ := plain_rune_first valid plain
  rw [escapeRune, escapeRune, if_pos special, if_neg plain, same]
  intro equal
  exact different (cons.inj equal).1.symm

theorem escape_rune_prefix_free : PrefixFreeOn {rune | IsRune rune} escapeRune := by
  intro rune valid other valid' rest more same
  by_cases special : rune ∈ specialRunes
  · by_cases special' : other ∈ specialRunes
    · rw [escapeRune, escapeRune, if_pos special, if_pos special'] at same
      have equal : rune = other := by
        cases prefix_or_prefix_of_prefix (prefix_append _ rest) (same ▸ prefix_append _ more) with
        | inl shorter => exact special_words_apart rune special other special' shorter
        | inr longer => exact (special_words_apart other special' rune special longer).symm
      subst equal
      exact ⟨rfl, append_cancel_left same⟩
    · exact absurd same (special_ne_plain special valid' special')
  · by_cases special' : other ∈ specialRunes
    · exact absurd same.symm (special_ne_plain special' valid special)
    · rw [escapeRune, escapeRune, if_neg special, if_neg special'] at same
      exact runes_prefix_free rune valid other valid' rest more same

theorem valid_runes {runes : List Rune} (valid : runes.all isValid) : ∃ octets : List Bytes, runes = octets.map Rune.valid := by
  induction runes with
  | nil => exact ⟨[], rfl⟩
  | cons rune rest ih =>
    rw [all_cons, Bool.and_eq_true] at valid
    obtain ⟨octets, same⟩ := ih valid.2
    cases rune with
    | valid first => exact ⟨first :: octets, by rw [same, map_cons]⟩
    | invalid octet => exact absurd valid.1 (by simp [isValid])

theorem quoted_valid {text : Bytes} (valid : validString text) :
    ∃ runes : List Bytes, (∀ rune ∈ runes, IsRune rune) ∧ runes.flatten = text ∧
      quoted text = quote :: (runes.flatMap escapeRune ++ [quote]) := by
  obtain ⟨runes, same⟩ := valid_runes valid
  refine ⟨runes, ?_, ?_, ?_⟩
  · intro rune mem
    have scanned : .valid rune ∈ scan text := by
      rw [same]
      exact mem_map_of_mem mem
    exact scan_from_runes 0 text rune scanned
  · have octets := scan_octets text
    rw [same, flatMap_map] at octets
    exact flatMap_id.symm.trans octets
  · rw [quoted, same, flatMap_map]
    rfl

theorem quoted_prefix_free : PrefixFreeOn {text | validString text} quoted := by
  intro text valid other valid' rest more same
  obtain ⟨runes, all, rfl, written⟩ := quoted_valid valid
  obtain ⟨runes', all', rfl, written'⟩ := quoted_valid valid'
  rw [written, written'] at same
  obtain ⟨rfl, ends⟩ := prefix_free_closed_run escape_rune_prefix_free (fun rune valid => escape_rune_first valid) runes all
    runes' all' rest more (cons.inj same).2
  exact ⟨rfl, ends⟩

open Lib.Outcome

inductive Value where
  | null
  | bool (value : Bool)
  | number (text : Bytes)
  | string (raw : Bytes)
  | array (items : List Value)
  | object (members : List (Bytes × Value))

def isSpace (octet : UInt8) : Bool := octet = 0x20 ∨ octet = 0x09 ∨ octet = 0x0A ∨ octet = 0x0D

def isDigit (octet : UInt8) : Bool := 0x30 ≤ octet ∧ octet ≤ 0x39

def isHexDigit (octet : UInt8) : Bool :=
  isDigit octet ∨ (0x61 ≤ octet ∧ octet ≤ 0x66) ∨ (0x41 ≤ octet ∧ octet ≤ 0x46)

-- A container that is being read: the elements of an array, or the members of an object before a name or after it.
inductive Frame where
  | array (items : List Value)
  | key (members : List (Bytes × Value))
  | member (members : List (Bytes × Value)) (name : Bytes)

-- What the next octet may be. The last two stand after the value: one when a bracket closed it, the other when it
-- took the next octet to see that it is over.
inductive Mode where
  | beginValue
  | beginValueOrEmpty
  | beginString
  | beginStringOrEmpty
  | inString (raw : Bytes)
  | inStringEsc (raw : Bytes)
  | inStringEscU (left : Nat) (raw : Bytes)
  | neg (text : Bytes)
  | digits (text : Bytes)
  | zero (text : Bytes)
  | dot (text : Bytes)
  | fraction (text : Bytes)
  | exponent (text : Bytes)
  | exponentSign (text : Bytes)
  | exponentDigits (text : Bytes)
  | literal (word : String) (left : Bytes) (value : Value)
  | endValue (value : Value)
  | closed (value : Value)
  | ended (value : Value) (next : UInt8)

structure Scanner where
  mode : Mode
  stack : List Frame

def maxNestingDepth : Nat := 10000

-- The texts leave out the octet that is complained about.
def invalid {α : Type} (context : String) : Outcome α := .error s!"invalid character {context}"

variable {value : Value} {fields : List Bytes} {stored : List (Bytes × Value)} {values : List Value}

namespace Scanner

def start : Scanner := { mode := .beginValue, stack := [] }

def push (stack : List Frame) (frame : Frame) (mode : Mode) : Outcome Scanner := do
  ensure (stack.length + 1 ≤ maxNestingDepth) "invalid character exceeded max depth"
  return { mode, stack := frame :: stack }

def pop (stack : List Frame) (value : Value) : Scanner :=
  { mode := if stack.isEmpty then .closed value else .endValue value, stack }

def endValue (stack : List Frame) (value : Value) (c : UInt8) : Outcome Scanner :=
  match stack with
  | [] => .ok { mode := .ended value c, stack := [] }
  | frame :: outer =>
    if isSpace c then .ok { mode := .endValue value, stack := frame :: outer }
    else match frame with
      | .key members =>
        match value with
        | .string raw =>
          if c = 0x3A then .ok { mode := .beginValue, stack := .member members raw :: outer }
          else invalid "after object key"
        | _ => invalid "after object key"
      | .member members name =>
        if c = 0x2C then .ok { mode := .beginString, stack := .key (members ++ [(name, value)]) :: outer }
        else if c = 0x7D then .ok (pop outer (.object (members ++ [(name, value)])))
        else invalid "after object key:value pair"
      | .array items =>
        if c = 0x2C then .ok { mode := .beginValue, stack := .array (items ++ [value]) :: outer }
        else if c = 0x5D then .ok (pop outer (.array (items ++ [value])))
        else invalid "after array element"

def beginValue (stack : List Frame) (c : UInt8) : Outcome Scanner :=
  if isSpace c then .ok { mode := .beginValue, stack }
  else if c = 0x7B then push stack (.key []) .beginStringOrEmpty
  else if c = 0x5B then push stack (.array []) .beginValueOrEmpty
  else if c = 0x22 then .ok { mode := .inString [], stack }
  else if c = 0x2D then .ok { mode := .neg [c], stack }
  else if c = 0x30 then .ok { mode := .zero [c], stack }
  else if c = 0x74 then .ok { mode := .literal "true" (ascii "rue") (.bool true), stack }
  else if c = 0x66 then .ok { mode := .literal "false" (ascii "alse") (.bool false), stack }
  else if c = 0x6E then .ok { mode := .literal "null" (ascii "ull") .null, stack }
  else if isDigit c then .ok { mode := .digits [c], stack }
  else invalid "looking for beginning of value"

def beginString (stack : List Frame) (c : UInt8) : Outcome Scanner :=
  if isSpace c then .ok { mode := .beginString, stack }
  else if c = 0x22 then .ok { mode := .inString [], stack }
  else invalid "looking for beginning of object key string"

def zero (stack : List Frame) (text : Bytes) (c : UInt8) : Outcome Scanner :=
  if c = 0x2E then .ok { mode := .dot (text ++ [c]), stack }
  else if c = 0x65 ∨ c = 0x45 then .ok { mode := .exponent (text ++ [c]), stack }
  else endValue stack (.number text) c

def exponentSign (stack : List Frame) (text : Bytes) (c : UInt8) : Outcome Scanner :=
  if isDigit c then .ok { mode := .exponentDigits (text ++ [c]), stack } else invalid "in exponent of numeric literal"

-- Once an octet other than a blank stood after the value the next one is refused, whatever it is.
def endTop (value : Value) (last c : UInt8) : Outcome Scanner :=
  if isSpace last then .ok { mode := .ended value c, stack := [] } else invalid "after top-level value"

def step (s : Scanner) (c : UInt8) : Outcome Scanner :=
  match s.mode with
  | .beginValue => beginValue s.stack c
  | .beginValueOrEmpty =>
    if isSpace c then .ok s
    else if c = 0x5D then .ok (pop s.stack.tail (.array []))
    else beginValue s.stack c
  | .beginString => beginString s.stack c
  | .beginStringOrEmpty =>
    if isSpace c then .ok s
    else if c = 0x7D then .ok (pop s.stack.tail (.object []))
    else beginString s.stack c
  | .inString raw =>
    if c = 0x22 then .ok { s with mode := .endValue (.string raw) }
    else if c = 0x5C then .ok { s with mode := .inStringEsc (raw ++ [c]) }
    else if c < 0x20 then invalid "in string literal"
    else .ok { s with mode := .inString (raw ++ [c]) }
  | .inStringEsc raw =>
    if c ∈ ascii "bfnrt\\/\"" then .ok { s with mode := .inString (raw ++ [c]) }
    else if c = 0x75 then .ok { s with mode := .inStringEscU 4 (raw ++ [c]) }
    else invalid "in string escape code"
  | .inStringEscU left raw =>
    if isHexDigit c then
      .ok { s with mode := if left = 1 then .inString (raw ++ [c]) else .inStringEscU (left - 1) (raw ++ [c]) }
    else invalid "in \\u hexadecimal character escape"
  | .neg text =>
    if c = 0x30 then .ok { s with mode := .zero (text ++ [c]) }
    else if isDigit c then .ok { s with mode := .digits (text ++ [c]) }
    else invalid "in numeric literal"
  | .digits text => if isDigit c then .ok { s with mode := .digits (text ++ [c]) } else zero s.stack text c
  | .zero text => zero s.stack text c
  | .dot text =>
    if isDigit c then .ok { s with mode := .fraction (text ++ [c]) } else invalid "after decimal point in numeric literal"
  | .fraction text =>
    if isDigit c then .ok { s with mode := .fraction (text ++ [c]) }
    else if c = 0x65 ∨ c = 0x45 then .ok { s with mode := .exponent (text ++ [c]) }
    else endValue s.stack (.number text) c
  | .exponent text =>
    if c = 0x2B ∨ c = 0x2D then .ok { s with mode := .exponentSign (text ++ [c]) } else exponentSign s.stack text c
  | .exponentSign text => exponentSign s.stack text c
  | .exponentDigits text =>
    if isDigit c then .ok { s with mode := .exponentDigits (text ++ [c]) } else endValue s.stack (.number text) c
  | .literal word left value =>
    if left.head? = some c then
      .ok { s with mode := if left.tail.isEmpty then .endValue value else .literal word left.tail value }
    else invalid s!"in literal {word}"
  | .endValue value => endValue s.stack value c
  | .closed value => endTop value 0x20 c
  | .ended value last => endTop value last c

-- At the end of the input a blank shows whether a value is over.
def eof (s : Scanner) : Outcome Value := do
  let s ← s.step 0x20
  match s.mode with
  | .ended value _ => return value
  | _ => .error "unexpected end of JSON input"

def readValue (s : Scanner) : Bytes → Outcome (Value × Bytes)
  | [] => do return (← s.eof.mapError fun _ => "unexpected EOF", [])
  | c :: rest => do
    let s ← s.step c
    match s.mode with
    | .closed value => return (value, rest)
    | .ended value next => return (value, next :: rest)
    | _ => s.readValue rest

def checkValid (s : Scanner) (data : Bytes) : Outcome Value := do
  let s ← data.foldlM step s
  s.eof

variable {s : Scanner} {c last : UInt8} {data : Bytes} {stack : List Frame} {found : Value}

theorem check_valid_cons :
    s.checkValid (c :: data) = .ok value ↔ ∃ next, s.step c = .ok next ∧ next.checkValid data = .ok value := by
  rw [checkValid, foldlM_cons, bind_assoc, bind_ok_iff]
  rfl

theorem check_valid_nil : s.checkValid [] = s.eof := rfl

theorem step_ended_iff {next : Scanner} :
    step { mode := .ended value last, stack } c = .ok next ↔ isSpace last ∧ next = { mode := .ended value c, stack := [] } := by
  by_cases blank : isSpace last
  · simp only [step, endTop, blank, if_true, true_and, Except.ok.injEq]
    exact eq_comm
  · simp [step, endTop, blank, invalid]

theorem step_closed :
    step { mode := .closed value, stack } c = .ok { mode := .ended value c, stack := [] } := rfl

theorem check_ended :
    checkValid { mode := .ended value last, stack } data = .ok found ↔ found = value ∧ (last :: data).all isSpace := by
  induction data generalizing last stack with
  | nil =>
    simp only [check_valid_nil, eof, bind_ok_iff, step_ended_iff]
    constructor
    · intro finished
      obtain ⟨next, ⟨blank, rfl⟩, found⟩ := finished
      cases found
      exact ⟨rfl, by simpa using blank⟩
    · intro finished
      obtain ⟨rfl, blank⟩ := finished
      exact ⟨_, ⟨by simpa using blank, rfl⟩, rfl⟩
  | cons c data ih =>
    simp only [check_valid_cons, step_ended_iff]
    constructor
    · intro checked
      obtain ⟨next, ⟨blank, rfl⟩, more⟩ := checked
      obtain ⟨rfl, blanks⟩ := ih.mp more
      exact ⟨rfl, by rw [all_cons, blank, blanks]; rfl⟩
    · intro checked
      obtain ⟨rfl, blanks⟩ := checked
      rw [all_cons, Bool.and_eq_true] at blanks
      exact ⟨_, ⟨blanks.1, rfl⟩, ih.mpr ⟨rfl, blanks.2⟩⟩

theorem check_closed : checkValid { mode := .closed value, stack } data = .ok found ↔ found = value ∧ data.all isSpace := by
  cases data with
  | nil =>
    have finished : eof { mode := .closed value, stack } = .ok value := rfl
    rw [check_valid_nil, finished]
    simp [eq_comm]
  | cons c data => simp [check_valid_cons, step_closed, check_ended]

theorem check_valid_iff : s.checkValid data = .ok value ↔ (∃ rest, s.readValue data = .ok (value, rest) ∧ rest.all isSpace) := by
  induction data generalizing s with
  | nil =>
    simp only [check_valid_nil, readValue, ok_iff, map_error_ok_iff, Prod.mk.injEq]
    constructor
    · intro finished
      exact ⟨[], ⟨value, finished, rfl, rfl⟩, rfl⟩
    · intro read
      obtain ⟨rest, ⟨found, finished, rfl, -⟩, -⟩ := read
      exact finished
  | cons c data ih =>
    rw [check_valid_cons]
    simp only [readValue, bind_ok_iff]
    constructor
    · intro checked
      obtain ⟨⟨mode, stack⟩, stepped, more⟩ := checked
      cases mode with
      | closed found =>
        obtain ⟨rfl, blanks⟩ := check_closed.mp more
        exact ⟨data, ⟨_, stepped, rfl⟩, blanks⟩
      | ended found last =>
        obtain ⟨rfl, blanks⟩ := check_ended.mp more
        exact ⟨last :: data, ⟨_, stepped, rfl⟩, blanks⟩
      | _ =>
        obtain ⟨rest, read, blanks⟩ := ih.mp more
        exact ⟨rest, ⟨_, stepped, read⟩, blanks⟩
    · intro found
      obtain ⟨rest, ⟨⟨mode, stack⟩, stepped, read⟩, blanks⟩ := found
      refine ⟨_, stepped, ?_⟩
      cases mode with
      | closed found =>
        cases read
        exact check_closed.mpr ⟨rfl, blanks⟩
      | ended found last =>
        cases read
        exact check_ended.mpr ⟨rfl, blanks⟩
      | _ => exact ih.mpr ⟨rest, read, blanks⟩

end Scanner

inductive Piece where
  | octet (octet : UInt8)
  | unit (code : Nat)

def hexValue (octet : UInt8) : Nat :=
  if isDigit octet then octet.toNat - 48 else if 0x61 ≤ octet then octet.toNat - 87 else octet.toNat - 55

def escapedOctet (octet : UInt8) : UInt8 :=
  if octet = 0x62 then 0x08
  else if octet = 0x66 then 0x0C
  else if octet = 0x6E then 0x0A
  else if octet = 0x72 then 0x0D
  else if octet = 0x74 then 0x09
  else octet

def pieces : Bytes → List Piece
  | 0x5C :: 0x75 :: a :: b :: c :: d :: rest =>
    .unit (((hexValue a * 16 + hexValue b) * 16 + hexValue c) * 16 + hexValue d) :: pieces rest
  | 0x5C :: name :: rest => .octet (escapedOctet name) :: pieces rest
  | octet :: rest => .octet octet :: pieces rest
  | [] => []

def replacement : Bytes := [0xEF, 0xBF, 0xBD]

-- A number as the octets of a rune, the surrogates excepted.
def encodeRune (code : Nat) : Bytes :=
  if code < 0x80 then [UInt8.ofNat code]
  else if code < 0x800 then [UInt8.ofNat (0xC0 + code / 64), UInt8.ofNat (0x80 + code % 64)]
  else if 0xD800 ≤ code ∧ code < 0xE000 then replacement
  else if code < 0x10000 then
    [UInt8.ofNat (0xE0 + code / 4096), UInt8.ofNat (0x80 + code / 64 % 64), UInt8.ofNat (0x80 + code % 64)]
  else [UInt8.ofNat (0xF0 + code / 262144), UInt8.ofNat (0x80 + code / 4096 % 64), UInt8.ofNat (0x80 + code / 64 % 64),
    UInt8.ofNat (0x80 + code % 64)]

def validRunes (octets : Bytes) : Bytes :=
  (scan octets).flatMap fun rune =>
    match rune with
    | .valid octets => octets
    | .invalid _ => replacement

-- The text of a string. Octets that make no rune and units that make no pair are replaced.
def textFrom (octets : Bytes) : List Piece → Bytes
  | [] => validRunes octets
  | .octet octet :: rest => textFrom (octets ++ [octet]) rest
  | .unit high :: .unit low :: rest =>
    if 0xD800 ≤ high ∧ high < 0xDC00 ∧ 0xDC00 ≤ low ∧ low < 0xE000 then
      validRunes octets ++ encodeRune (0x10000 + (high - 0xD800) * 0x400 + (low - 0xDC00)) ++ textFrom [] rest
    else validRunes octets ++ encodeRune high ++ textFrom [] (.unit low :: rest)
  | .unit code :: rest => validRunes octets ++ encodeRune code ++ textFrom [] rest

def unquote (raw : Bytes) : Bytes := textFrom [] (pieces raw)

-- Two runes beyond ASCII fold to letters, the long s and the sign of the kelvin.
def foldRune : Rune → Bytes
  | .valid [octet] => [if 0x61 ≤ octet ∧ octet ≤ 0x7A then octet - 0x20 else octet]
  | .valid [0xC5, 0xBF] => ascii "S"
  | .valid [0xE2, 0x84, 0xAA] => ascii "K"
  | .valid octets => octets
  | .invalid _ => replacement

def foldName (name : Bytes) : Bytes := (scan name).flatMap foldRune

-- The field that a name stands for: the one of this name, else one that differs in the case of letters only.
def fieldNamed (fields : List Bytes) (name : Bytes) : Option Bytes :=
  (fields.find? fun field => field = name).or (fields.find? fun field => foldName field = foldName name)

def unknownName (fields : List Bytes) (member : Bytes × Value) : Bool := (fieldNamed fields (unquote member.1)).isNone

def knownMember (fields : List Bytes) (member : Bytes × Value) : Option (Bytes × Value) :=
  (fieldNamed fields (unquote member.1)).map fun field => (field, member.2)

-- What a value says about the fields of a record that it is stored in, in the order of its members.
def recordMembers (disallowUnknownFields : Bool) (fields : List Bytes) : Value → Outcome (List (Bytes × Value))
  | .null => .ok []
  | .object members => do
    ensure (¬ (disallowUnknownFields ∧ members.any (unknownName fields))) "json: unknown field"
    return members.filterMap (knownMember fields)
  | _ => .error "json: cannot unmarshal value into Go value of type struct"

-- Several values are stored in one record where its name occurs more than once.
def storeRecord (disallowUnknownFields : Bool) (fields : List Bytes) (values : List Value) : Outcome (List (Bytes × Value)) := do
  let stored ← values.mapM (recordMembers disallowUnknownFields fields)
  return stored.flatten

def valuesFor (stored : List (Bytes × Value)) (field : Bytes) : List Value :=
  stored.filterMap fun member => if member.1 = field then some member.2 else none

def namesUnknown (fields : List Bytes) : Value → Bool
  | .object members => members.any (unknownName fields)
  | _ => false

theorem record_members_strict :
    recordMembers true fields value = .ok stored ↔ recordMembers false fields value = .ok stored ∧
      namesUnknown fields value = false := by
  cases value with
  | object members =>
    simp only [recordMembers, namesUnknown, ok_iff, exists_const]
    simp [and_comm]
  | null => simp [recordMembers, namesUnknown]
  | bool value | number text | string raw | array items => simp [recordMembers]

theorem members_strict {stored : List (List (Bytes × Value))} :
    values.mapM (recordMembers true fields) = .ok stored ↔
      values.mapM (recordMembers false fields) = .ok stored ∧ values.any (namesUnknown fields) = false := by
  induction values generalizing stored with
  | nil => simp
  | cons value values ih =>
    simp only [mapM_cons, ok_iff, record_members_strict, ih, any_cons, Bool.or_eq_false_iff]
    constructor
    · intro strict
      obtain ⟨first, ⟨read, known⟩, rest, ⟨others, allKnown⟩, same⟩ := strict
      exact ⟨⟨first, read, rest, others, same⟩, known, allKnown⟩
    · intro lax
      obtain ⟨⟨first, read, rest, others, same⟩, known, allKnown⟩ := lax
      exact ⟨first, ⟨read, known⟩, rest, ⟨others, allKnown⟩, same⟩

theorem store_record_strict :
    storeRecord true fields values = .ok stored ↔
      storeRecord false fields values = .ok stored ∧ values.any (namesUnknown fields) = false := by
  simp only [storeRecord, ok_iff, members_strict, and_right_comm, exists_and_right]

end Lib.Json
