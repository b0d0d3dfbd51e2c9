import Mathlib.Data.Bool.AllAny
import Mathlib.Data.List.TakeWhile
import Panurus.Lib.Outcome
import Panurus.Lib.Text
import Panurus.Lib.Utf8

namespace Panurus.Boolpolicy

open List Lib Outcome Text Lib.Utf8

def rune (octet : UInt8) : Rune := .valid [octet]
def runes (octets : Bytes) : List Rune := octets.map rune

def isSpace : Rune → Bool
  | .valid [octet] => octet == 0x20 || (0x09 ≤ octet && octet ≤ 0x0D)
  | .valid [first, second] => first == 0xC2 && (second == 0x85 || second == 0xA0)
  | .valid [first, second, third] =>
    (first == 0xE1 && second == 0x9A && third == 0x80) || (first == 0xE2 && second == 0x81 && third == 0x9F) ||
    (first == 0xE3 && second == 0x80 && third == 0x80) ||
    (first == 0xE2 && second == 0x80 && ((0x80 ≤ third && third ≤ 0x8A) || third == 0xA8 || third == 0xA9 || third == 0xAF))
  | _ => false

def upper (octet : UInt8) : UInt8 := if 97 ≤ octet ∧ octet ≤ 122 then octet - 32 else octet

-- The tables of the unicode package, and how strconv quotes a text. Of code points beyond ASCII
-- only this is used: a space is neither a digit nor a letter, and none of the letters of the
-- keywords is the upper case of another code point than its own two.
structure Tables where
  isDigit : Rune → Bool
  isLetter : Rune → Bool
  toUpper : Rune → Rune
  quote : List Rune → String
  digit_ascii : ∀ octet < 0x80, isDigit (rune octet) = decide (IsDecimalDigit octet)
  letter_ascii : ∀ octet < 0x80, isLetter (rune octet) = decide (65 ≤ upper octet ∧ upper octet ≤ 90)
  upper_ascii : ∀ octet < 0x80, toUpper (rune octet) = rune (upper octet)
  upper_other : ∀ other, (∀ octet < 0x80, other ≠ rune octet) → toUpper other ∉ runes (ascii "ANDOR")
  space_apart : ∀ space, isSpace space → isDigit space = false ∧ isLetter space = false

inductive Token where
  | ref (index : Nat)
  | and
  | or
  | lparen
  | rparen
deriving DecidableEq, Repr

def kindOf : Option Token → Nat
  | none => 0
  | some (.ref _) => 1
  | some .and => 2
  | some .or => 3
  | some .lparen => 4
  | some .rparen => 5

structure Lexer where
  rest : List Rune
  pos : Nat
deriving DecidableEq, Repr

def Lexer.skip (l : Lexer) (passed : Rune → Bool) : Lexer :=
  { rest := l.rest.dropWhile passed, pos := l.pos + (l.rest.takeWhile passed).length }

def Lexer.skipSpace (l : Lexer) : Lexer := l.skip isSpace

def atoiFrom : Nat → List Rune → Outcome Nat
  | n, [] => if n < 2 ^ 63 then .ok n else .error "value out of range"
  | n, .valid [octet] :: rest =>
    if ¬ IsDecimalDigit octet then .error "invalid syntax"
    else if n * 10 + (octet.toNat - 48) < 2 ^ 64 then atoiFrom (n * 10 + (octet.toNat - 48)) rest
    else .error "value out of range"
  | _, _ :: _ => .error "invalid syntax"

def atoi (t : Tables) (digits : List Rune) : Outcome Nat :=
  (atoiFrom 0 digits).mapError fun err => s!"strconv.Atoi: parsing {t.quote digits}: {err}"

def Lexer.nextRef (t : Tables) (start : Lexer) : Outcome (Option Token × Lexer) := do
  let digits := start.rest.takeWhile t.isDigit
  ensure (digits ≠ []) s!"expected digit after '$' at position {start.pos}"
  let idx ← wrap s!"invalid index at position {start.pos}" (atoi t digits)
  return (some (.ref idx), start.skip t.isDigit)

def Lexer.nextKeyword (t : Tables) (start : Lexer) : Outcome (Option Token × Lexer) :=
  let word := (start.rest.takeWhile t.isLetter).map t.toUpper
  if word = runes (ascii "AND") then .ok (some .and, start.skip t.isLetter)
  else if word = runes (ascii "OR") then .ok (some .or, start.skip t.isLetter)
  else .error s!"unknown keyword {t.quote word} at position {start.pos}"

def Lexer.nextToken (t : Tables) (l : Lexer) : Outcome (Option Token × Lexer) :=
  match l.rest with
  | [] => .ok (none, l)
  | ch :: rest =>
    if ch = rune 40 then .ok (some .lparen, { rest, pos := l.pos + 1 })
    else if ch = rune 41 then .ok (some .rparen, { rest, pos := l.pos + 1 })
    else if ch = rune 36 then Lexer.nextRef t { rest, pos := l.pos + 1 }
    else if t.isLetter ch then l.nextKeyword t
    else .error s!"unexpected character {t.quote [ch]} at position {l.pos}"

def Lexer.next (t : Tables) (l : Lexer) : Outcome (Option Token × Lexer) := l.skipSpace.nextToken t

inductive Spelling : Token → Bytes → Prop where
  | lparen : Spelling .lparen (ascii "(")
  | rparen : Spelling .rparen (ascii ")")
  | ref {digits : Bytes} (some_digit : digits ≠ []) (decimal : ∀ octet ∈ digits, IsDecimalDigit octet) :
      Spelling (.ref (decimalFrom 0 digits)) (ascii "$" ++ digits)
  | and {word : Bytes} (keyword : word.map upper = ascii "AND") : Spelling .and word
  | or {word : Bytes} (keyword : word.map upper = ascii "OR") : Spelling .or word

inductive Spells : List Rune → List Token → Prop where
  | done : Spells [] []
  | space {space : Rune} {rest : List Rune} {tokens : List Token} (white : isSpace space) (more : Spells rest tokens) :
      Spells (space :: rest) tokens
  | token {token : Token} {word : Bytes} {rest : List Rune} {tokens : List Token} (spelled : Spelling token word)
      (more : Spells rest tokens) : Spells (runes word ++ rest) (token :: tokens)

def Token.Fits : Token → Prop
  | .ref index => index < 2 ^ 63
  | _ => True

def Token.Keyword (token : Token) : Prop := token = .and ∨ token = .or

variable {text word rest : List Rune}

theorem atoi_from_ok_iff {n value : Nat} : atoiFrom n text = .ok value ↔
    ∃ digits, text = runes digits ∧ (∀ octet ∈ digits, IsDecimalDigit octet) ∧ value = decimalFrom n digits ∧ value < 2 ^ 63 := by
  induction text generalizing n with
  | nil =>
    have none_read : decimalFrom n [] = n := rfl
    constructor
    · intro read
      simp only [atoiFrom] at read
      split at read
      · cases read
        exact ⟨[], rfl, by simp, rfl, by assumption⟩
      · cases read
    · rintro ⟨digits, empty, -, rfl, fits⟩
      obtain rfl : digits = [] := map_eq_nil_iff.mp empty.symm
      rw [none_read] at fits ⊢
      rw [atoiFrom, if_pos fits]
  | cons ch rest ih =>
    constructor
    · intro read
      unfold atoiFrom at read
      split at read
      · rename_i same
        cases same
      · rename_i octet others same
        cases same
        split at read
        · cases read
        · rename_i digit
          split at read
          · obtain ⟨digits, rfl, decimal, value_eq, fits⟩ := ih.mp read
            exact ⟨octet :: digits, rfl, forall_mem_cons.mpr ⟨not_not.mp digit, decimal⟩, value_eq, fits⟩
          · cases read
      · cases read
    · rintro ⟨digits, same, decimal, value_eq, fits⟩
      cases digits with
      | nil => cases same
      | cons octet digits =>
        cases same
        have grows := le_decimal_from (n * 10 + (octet.toNat - 48)) digits
        have value_from : value = decimalFrom (n * 10 + (octet.toNat - 48)) digits := value_eq
        rw [rune, atoiFrom, if_neg (not_not_intro (decimal octet mem_cons_self)), if_pos (by omega)]
        exact ih.mpr ⟨digits, rfl, fun octet mem => decimal octet (mem_cons_of_mem _ mem), value_from, fits⟩

theorem span_append {passed : Rune → Bool} (inside : ∀ ch ∈ word, passed ch)
    (ends : ∀ ch, rest.head? = some ch → passed ch = false) :
    (word ++ rest).takeWhile passed = word ∧ (word ++ rest).dropWhile passed = rest := by
  have stops : rest.takeWhile passed = [] ∧ rest.dropWhile passed = rest := by
    cases rest with
    | nil => exact ⟨rfl, rfl⟩
    | cons ch rest => simp [ends ch rfl]
  rw [takeWhile_append_of_pos inside, dropWhile_append_of_pos inside, stops.1, stops.2, append_nil]
  exact ⟨rfl, rfl⟩

section Words

variable {t : Tables} {keyword : Bytes} {octet letter : UInt8}

theorem upper_word (known : ∀ letter ∈ keyword, letter ∈ ascii "ANDOR")
    (raised : word.map t.toUpper = runes keyword) : ∃ octets, word = runes octets ∧ octets.map upper = keyword := by
  induction keyword generalizing word with
  | nil => exact ⟨[], map_eq_nil_iff.mp raised, rfl⟩
  | cons letter keyword ih =>
    cases word with
    | nil => cases raised
    | cons ch word =>
      simp only [runes, map_cons, cons.injEq] at raised
      obtain ⟨octets, rfl, rest⟩ := ih (fun letter mem => known letter (mem_cons_of_mem _ mem)) raised.2
      have listed : t.toUpper ch ∈ runes (ascii "ANDOR") := raised.1 ▸ mem_map_of_mem (known letter mem_cons_self)
      obtain ⟨octet, low, rfl⟩ : ∃ octet < 0x80, ch = rune octet := by
        by_contra other
        push Not at other
        exact t.upper_other ch other listed
      have same := raised.1
      rw [t.upper_ascii octet low] at same
      exact ⟨octet :: octets, rfl, by simp only [map_cons, rest]; rw [show upper octet = letter by simpa [rune] using same]⟩

theorem keyword_octet (letter : upper octet ∈ ascii "ANDOR") :
    octet < 0x80 ∧ (65 ≤ upper octet ∧ upper octet ≤ 90) ∧ ¬ IsDecimalDigit octet := by
  have listed : ∀ letter ∈ ascii "ANDOR", letter < 0x80 ∧ 65 ≤ letter ∧ letter ≤ 90 ∧ ¬ IsDecimalDigit letter :=
    all_iff_forall_prop.mp (by decide)
  obtain ⟨low, first, last, other⟩ := listed _ letter
  by_cases small : 97 ≤ octet ∧ octet ≤ 122
  · refine ⟨UInt8.lt_of_le_of_lt small.2 (by decide), ⟨first, last⟩, fun digit => ?_⟩
    exact absurd (UInt8.le_trans small.1 digit.2) (by decide)
  · have same : upper octet = octet := if_neg small
    rw [same] at low first last other ⊢
    exact ⟨low, ⟨first, last⟩, other⟩

def Lexer.Reads (lexer : Lexer) (token : Option Token) (after : Lexer) : Prop :=
  ∃ spaces, (∀ ch ∈ spaces, isSpace ch) ∧ match token with
    | none => lexer.rest = spaces
    | some token => ∃ word, Spelling token word ∧ token.Fits ∧ lexer.rest = spaces ++ (runes word ++ after.rest)

open Lexer

theorem letters_and (mem : letter ∈ ascii "AND") : letter ∈ ascii "ANDOR" :=
  mem_append_left (ascii "OR") mem

theorem letters_or (mem : letter ∈ ascii "OR") : letter ∈ ascii "ANDOR" :=
  mem_append_right (ascii "AND") mem

variable {start : Lexer} {word : Bytes} {ch : Rune} {tokens : List Token}

theorem next_ref_reads {after : Lexer} {token : Option Token} (read : start.nextRef t = .ok (token, after)) :
    ∃ digits, digits ≠ [] ∧ (∀ octet ∈ digits, IsDecimalDigit octet) ∧ decimalFrom 0 digits < 2 ^ 63 ∧
      token = some (.ref (decimalFrom 0 digits)) ∧ start.rest = runes digits ++ after.rest := by
  simp only [nextRef, ok_iff, atoi, map_error_ok_iff, exists_const, Prod.mk.injEq] at read
  obtain ⟨filled, idx, value, rfl, rfl⟩ := read
  obtain ⟨digits, text, decimal, rfl, fits⟩ := atoi_from_ok_iff.mp value
  refine ⟨digits, ?_, decimal, fits, rfl, ?_⟩
  · rintro rfl
    exact filled text
  · rw [← text]
    exact takeWhile_append_dropWhile.symm

theorem next_keyword_reads {after : Lexer} {token : Option Token} (read : start.nextKeyword t = .ok (token, after)) :
    ∃ keyword word, token = some keyword ∧ keyword.Keyword ∧ Spelling keyword word ∧ start.rest = runes word ++ after.rest := by
  have parts : start.rest = start.rest.takeWhile t.isLetter ++ start.rest.dropWhile t.isLetter :=
    takeWhile_append_dropWhile.symm
  simp only [nextKeyword] at read
  split at read
  · rename_i raised
    cases read
    obtain ⟨word, spelled, keyword⟩ := upper_word (fun _ => letters_and) raised
    exact ⟨.and, word, rfl, .inl rfl, .and keyword, spelled ▸ parts⟩
  · split at read
    · rename_i raised
      cases read
      obtain ⟨word, spelled, keyword⟩ := upper_word (fun _ => letters_or) raised
      exact ⟨.or, word, rfl, .inr rfl, .or keyword, spelled ▸ parts⟩
    · cases read

theorem next_token_reads {l after : Lexer} {token : Option Token} (read : l.nextToken t = .ok (token, after)) :
    match token with
    | none => l.rest = []
    | some token => ∃ word, Spelling token word ∧ token.Fits ∧ l.rest = runes word ++ after.rest := by
  simp only [nextToken] at read
  split at read
  · rename_i empty
    cases read
    exact empty
  · rename_i ch rest start
    split at read
    · rename_i same
      cases read
      exact ⟨_, .lparen, trivial, by rw [start, same]; rfl⟩
    · split at read
      · rename_i same
        cases read
        exact ⟨_, .rparen, trivial, by rw [start, same]; rfl⟩
      · split at read
        · rename_i dollar
          obtain ⟨digits, filled, decimal, fits, rfl, text⟩ := next_ref_reads read
          exact ⟨_, .ref filled decimal, fits, by rw [start, dollar, show rest = _ from text]; rfl⟩
        · split at read
          · obtain ⟨keyword, word, rfl, either, spelled, text⟩ := next_keyword_reads read
            refine ⟨word, spelled, ?_, text⟩
            rcases either with rfl | rfl <;> trivial
          · cases read

theorem next_reads {l after : Lexer} {token : Option Token} (read : l.next t = .ok (token, after)) : l.Reads token after := by
  refine ⟨l.rest.takeWhile isSpace, fun ch mem => mem_takeWhile_imp mem, ?_⟩
  have parts : l.rest = l.rest.takeWhile isSpace ++ l.skipSpace.rest := takeWhile_append_dropWhile.symm
  have found := next_token_reads read
  cases token with
  | none => rw [found, append_nil] at parts; exact parts
  | some token =>
    obtain ⟨word, spelled, fits, text⟩ := found
    exact ⟨word, spelled, fits, text ▸ parts⟩

theorem letter_not_space (first : 65 ≤ upper octet) : isSpace (rune octet) = false := by
  have large : 65 ≤ octet := by
    by_cases small : 97 ≤ octet ∧ octet ≤ 122
    · exact UInt8.le_trans (by decide) small.1
    · rwa [upper, if_neg small] at first
  simp only [isSpace, rune, Bool.or_eq_false_iff, beq_eq_false_iff_ne, Bool.and_eq_false_iff, decide_eq_false_iff_not]
  refine ⟨?_, .inr fun white => absurd (UInt8.le_trans large white) (by decide)⟩
  rintro rfl
  exact absurd large (by decide)

structure FirstOctet (t : Tables) (token : Token) (first : UInt8) : Prop where
  low : first < 0x80
  digit : t.isDigit (rune first) = false
  space : isSpace (rune first) = false
  letter : t.isLetter (rune first) = true ↔ token.Keyword

variable {token : Token}

theorem keyword_first (either : token.Keyword) (filled : keyword ≠ [])
    (known : ∀ letter ∈ keyword, letter ∈ ascii "ANDOR") (raised : word.map upper = keyword) :
    ∃ first rest, word = first :: rest ∧ FirstOctet t token first := by
  cases word with
  | nil => exact absurd raised.symm filled
  | cons first rest =>
    obtain ⟨low, letter, digit⟩ := keyword_octet (known (upper first) (raised ▸ mem_cons_self))
    refine ⟨first, rest, rfl, low, ?_, letter_not_space letter.1, ?_⟩
    · rw [t.digit_ascii first low, decide_eq_false digit]
    · rw [t.letter_ascii first low, decide_eq_true letter]
      exact iff_of_true rfl either

theorem mark_first {first : UInt8} (other : ¬ token.Keyword) (mark : first = 40 ∨ first = 41 ∨ first = 36) :
    FirstOctet t token first := by
  have low : first < 0x80 := by rcases mark with rfl | rfl | rfl <;> decide
  refine ⟨low, ?_, ?_, iff_of_false ?_ other⟩
  · rw [t.digit_ascii first low]
    rcases mark with rfl | rfl | rfl <;> decide
  · rcases mark with rfl | rfl | rfl <;> decide
  · rw [t.letter_ascii first low]
    rcases mark with rfl | rfl | rfl <;> decide

theorem spelling_first (spelled : Spelling token word) : ∃ first rest, word = first :: rest ∧ FirstOctet t token first := by
  cases spelled with
  | lparen => exact ⟨40, [], rfl, mark_first (by simp [Token.Keyword]) (by decide)⟩
  | rparen => exact ⟨41, [], rfl, mark_first (by simp [Token.Keyword]) (by decide)⟩
  | ref filled decimal => exact ⟨36, _, rfl, mark_first (by simp [Token.Keyword]) (by decide)⟩
  | and keyword => exact keyword_first (.inl rfl) (by decide) (fun _ => letters_and) keyword
  | or keyword => exact keyword_first (.inr rfl) (by decide) (fun _ => letters_or) keyword

theorem upper_runes (low : ∀ octet ∈ word, octet < 0x80) : (runes word).map t.toUpper = runes (word.map upper) := by
  simp only [runes, map_map]
  exact map_congr_left fun octet mem => t.upper_ascii octet (low octet mem)

theorem next_ref_spelled {digits : Bytes} (pos : Nat) (filled : digits ≠ []) (decimal : ∀ octet ∈ digits, IsDecimalDigit octet)
    (fits : decimalFrom 0 digits < 2 ^ 63) (ends : ∀ ch, rest.head? = some ch → t.isDigit ch = false) :
    ∃ after, after.rest = rest ∧
      nextRef t { rest := runes digits ++ rest, pos } = .ok (some (.ref (decimalFrom 0 digits)), after) := by
  have inside : ∀ ch ∈ runes digits, t.isDigit ch := by
    intro ch mem
    obtain ⟨octet, listed, rfl⟩ := mem_map.mp mem
    have digit := decimal octet listed
    rw [t.digit_ascii octet (UInt8.lt_of_le_of_lt digit.2 (by decide)), decide_eq_true digit]
  obtain ⟨taken, dropped⟩ := span_append inside ends
  have value : atoi t (runes digits) = .ok (decimalFrom 0 digits) := by
    rw [atoi, atoi_from_ok_iff.mpr ⟨digits, rfl, decimal, rfl, fits⟩]
    rfl
  refine ⟨skip { rest := runes digits ++ rest, pos } t.isDigit, dropped, ?_⟩
  simp only [nextRef, taken, value, ok_iff]
  exact ⟨(), fun empty => filled (map_eq_nil_iff.mp empty), _, rfl, rfl⟩

theorem next_keyword_spelled (known : ∀ letter ∈ keyword, letter ∈ ascii "ANDOR") (raised : word.map upper = keyword)
    (ends : ∀ ch, rest.head? = some ch → t.isLetter ch = false) :
    ((runes word ++ rest).takeWhile t.isLetter).map t.toUpper = runes keyword ∧
      (runes word ++ rest).dropWhile t.isLetter = rest := by
  have letters : ∀ octet ∈ word, octet < 0x80 ∧ 65 ≤ upper octet ∧ upper octet ≤ 90 := by
    intro octet mem
    have octet_of := keyword_octet (known (upper octet) (raised ▸ mem_map_of_mem mem))
    exact ⟨octet_of.1, octet_of.2.1⟩
  have inside : ∀ ch ∈ runes word, t.isLetter ch := by
    intro ch mem
    obtain ⟨octet, listed, rfl⟩ := mem_map.mp mem
    rw [t.letter_ascii octet (letters octet listed).1, decide_eq_true (letters octet listed).2]
  obtain ⟨taken, dropped⟩ := span_append inside ends
  rw [taken, dropped, upper_runes fun octet mem => (letters octet mem).1, raised]
  exact ⟨rfl, rfl⟩

theorem next_token_letter (rest : List Rune) (pos : Nat) (letter : t.isLetter ch = true) :
    nextToken t { rest := ch :: rest, pos } = nextKeyword t { rest := ch :: rest, pos } := by
  have other : ∀ mark, mark = 40 ∨ mark = 41 ∨ mark = 36 → ch ≠ rune mark := by
    rintro mark listed rfl
    have first : FirstOctet t .lparen mark := mark_first (by simp [Token.Keyword]) listed
    exact absurd (first.letter.mp letter) (by simp [Token.Keyword])
  simp only [nextToken, if_neg (other 40 (by decide)), if_neg (other 41 (by decide)), if_neg (other 36 (by decide)), letter,
    if_true]

theorem next_token_spelled (pos : Nat) (spelled : Spelling token word)
    (fits : token.Fits) (digits : ∀ ch, rest.head? = some ch → t.isDigit ch = false)
    (letters : token.Keyword → ∀ ch, rest.head? = some ch → t.isLetter ch = false) :
    ∃ after, after.rest = rest ∧ nextToken t { rest := runes word ++ rest, pos } = .ok (some token, after) := by
  obtain ⟨first, tail, written, octet⟩ : ∃ first tail, word = first :: tail ∧ FirstOctet t token first := spelling_first spelled
  have keywordRead : token.Keyword → nextToken t { rest := runes word ++ rest, pos } =
      nextKeyword t { rest := runes word ++ rest, pos } := by
    intro either
    rw [written]
    exact next_token_letter _ pos (octet.letter.mpr either)
  cases spelled with
  | lparen | rparen => exact ⟨{ rest, pos := pos + 1 }, rfl, rfl⟩
  | ref filled decimal => exact next_ref_spelled (pos + 1) filled decimal fits digits
  | and keyword =>
    obtain ⟨raised, dropped⟩ := next_keyword_spelled (fun _ => letters_and) keyword (letters (.inl rfl))
    refine ⟨skip { rest := runes word ++ rest, pos } t.isLetter, dropped, ?_⟩
    rw [keywordRead (.inl rfl), nextKeyword, raised, if_pos rfl]
  | or keyword =>
    obtain ⟨raised, dropped⟩ := next_keyword_spelled (fun _ => letters_or) keyword (letters (.inr rfl))
    refine ⟨skip { rest := runes word ++ rest, pos } t.isLetter, dropped, ?_⟩
    rw [keywordRead (.inr rfl), nextKeyword, raised, if_neg (by decide), if_pos rfl]

theorem spells_cons (spells : Spells text (token :: tokens)) :
    ∃ spaces word rest, (∀ ch ∈ spaces, isSpace ch) ∧ Spelling token word ∧ text = spaces ++ (runes word ++ rest) ∧
      Spells rest tokens := by
  generalize all : token :: tokens = whole at spells
  induction spells with
  | done => cases all
  | @space space rest whole white more ih =>
    obtain ⟨spaces, word, rest, whites, spelled, rfl, others⟩ := ih all
    exact ⟨space :: spaces, word, rest, forall_mem_cons.mpr ⟨white, whites⟩, spelled, rfl, others⟩
  | token spelled more =>
    cases all
    exact ⟨[], _, _, by simp, spelled, rfl, more⟩

theorem spells_nil (spells : Spells text []) : ∀ ch ∈ text, isSpace ch := by
  generalize all : ([] : List Token) = whole at spells
  induction spells with
  | done => simp
  | space white more ih => exact forall_mem_cons.mpr ⟨white, ih all⟩
  | token spelled more => cases all

theorem spaces_spell {spaces : List Rune} (white : ∀ ch ∈ spaces, isSpace ch) (more : Spells rest tokens) :
    Spells (spaces ++ rest) tokens := by
  induction spaces with
  | nil => exact more
  | cons space spaces ih => exact .space (white space mem_cons_self) (ih fun ch mem => white ch (mem_cons_of_mem _ mem))

theorem spells_head (spells : Spells text tokens) (head : text.head? = some ch) :
    t.isDigit ch = false ∧ (t.isLetter ch = true → ∃ token, tokens.head? = some token ∧ token.Keyword) := by
  cases spells with
  | done => cases head
  | space white more =>
    cases head
    obtain ⟨digit, letter⟩ := t.space_apart _ white
    exact ⟨digit, fun other => absurd other (by rw [letter]; decide)⟩
  | token spelled more =>
    obtain ⟨first, rest, rfl, octet⟩ : ∃ first rest, _ ∧ FirstOctet t _ first := spelling_first spelled
    cases head
    exact ⟨octet.digit, fun letter => ⟨_, rfl, octet.letter.mp letter⟩⟩

theorem next_spelled {l : Lexer} (spells : Spells l.rest (token :: tokens)) (fits : token.Fits)
    (apart : token.Keyword → ∀ second, tokens.head? = some second → ¬ second.Keyword) :
    ∃ after, l.next t = .ok (some token, after) ∧ Spells after.rest tokens := by
  obtain ⟨spaces, word, rest, white, spelled, text, more⟩ := spells_cons spells
  obtain ⟨first, tail, written, octet⟩ : ∃ first tail, word = first :: tail ∧ FirstOctet t token first := spelling_first spelled
  have starts : ∀ ch, (runes word ++ rest).head? = some ch → isSpace ch = false := by
    intro ch head
    rw [written] at head
    cases head
    exact octet.space
  obtain ⟨-, dropped⟩ := span_append white starts
  have skipped : l.skipSpace.rest = runes word ++ rest := by
    rw [skipSpace, skip, text]
    exact dropped
  obtain ⟨after, left, read⟩ := next_token_spelled l.skipSpace.pos spelled fits (fun ch head => (spells_head more head).1) (by
    intro keyword ch head
    by_contra letter
    obtain ⟨second, found, other⟩ := (spells_head (t := t) more head).2 (by simpa using letter)
    exact apart keyword second found other)
  refine ⟨after, ?_, left.symm ▸ more⟩
  rw [Lexer.next, ← read, ← skipped]

theorem next_spaces {l : Lexer} (white : ∀ ch ∈ l.rest, isSpace ch) : ∃ after, l.next t = .ok (none, after) := by
  have skipped : l.skipSpace.rest = [] := dropWhile_eq_nil_iff.mpr white
  exact ⟨l.skipSpace, by rw [Lexer.next, nextToken, skipped]⟩

end Words

end Panurus.Boolpolicy
