import Panurus.Boolpolicy.Lexer
import Panurus.Boolpolicy.Node

namespace Panurus.Boolpolicy

open List Lib Outcome Text Lib.Utf8

def maxPolicyLen : Nat := 4 * 1024
def maxParseDepth : Nat := 64
def maxParseNodes : Nat := 1024

-- One token is read ahead. The first error ends the parse, so it is the outcome and not a field.
structure Parser where
  lex : Lexer
  current : Option Token
  nodes : Nat
deriving DecidableEq, Repr

def Parser.advance (t : Tables) (p : Parser) : Outcome Parser := do
  let (current, lex) ← p.lex.next t
  return { p with current, lex }

def Parser.countNode (p : Parser) : Outcome Parser := do
  ensure (¬ p.nodes + 1 > maxParseNodes) s!"policy expression exceeds maximum node count of {maxParseNodes}"
  return { p with nodes := p.nodes + 1 }

-- The loop of parseOr and parseAnd. Every turn counts a node, so there are never more turns than nodes.
def chain (t : Tables) (operand : Parser → Outcome (Node × Parser)) (operator : Token) (build : Node → Node → Node) :
    Nat → Node → Parser → Outcome (Node × Parser)
  | 0, left, p => .ok (left, p)
  | turns + 1, left, p =>
    if p.current = some operator then do
      let p ← p.advance t
      let (right, p) ← operand p
      let p ← p.countNode
      chain t operand operator build turns (build left right) p
    else .ok (left, p)

def parseAnd (t : Tables) (parsePrimary : Parser → Outcome (Node × Parser)) (p : Parser) : Outcome (Node × Parser) := do
  let (left, p) ← parsePrimary p
  chain t parsePrimary .and .and maxParseNodes left p

def parseOr (t : Tables) (parsePrimary : Parser → Outcome (Node × Parser)) (p : Parser) : Outcome (Node × Parser) := do
  let (left, p) ← parseAnd t parsePrimary p
  chain t (parseAnd t parsePrimary) .or .or maxParseNodes left p

-- The first argument is what is left of the nesting depth.
def parsePrimary (t : Tables) : Nat → Parser → Outcome (Node × Parser)
  | depth, p =>
    match p.current, depth with
    | some (.ref index), _ => do
      let p ← p.countNode
      let p ← p.advance t
      return (.ref index, p)
    | some .lparen, 0 => .error s!"policy expression exceeds maximum nesting depth of {maxParseDepth}"
    | some .lparen, depth + 1 => do
      let p ← p.advance t
      let (node, p) ← parseOr t (parsePrimary t depth) p
      ensure (p.current = some .rparen) s!"expected ')' but got token kind {kindOf p.current}"
      let p ← p.advance t
      return (node, p)
    | _, _ => .error s!"expected '$N' or '(' at position {p.lex.pos}"

open Boolpolicy.Parser

def parse (t : Tables) (input : Bytes) : Outcome Node := do
  ensure (¬ input.length > maxPolicyLen)
    s!"policy expression exceeds maximum length of {maxPolicyLen} bytes (got {input.length})"
  let p ← advance t { lex := { rest := scan input, pos := 0 }, current := none, nodes := 0 }
  let (node, p) ← parseOr t (parsePrimary t maxParseDepth) p
  ensure (p.current = none) "unexpected token after expression"
  return node

-- The grammar: expressions, terms and operands, with parentheses nested at most as deep as given.
-- A longer chain is a shorter one with an operand on its right.
inductive Category where
  | orExpr
  | andExpr
  | primary
deriving DecidableEq, Repr

inductive Derives : Category → Nat → List Token → Node → Prop where
  | ref (depth index : Nat) : Derives .primary depth [.ref index] (.ref index)
  | parens {depth : Nat} {tokens : List Token} {node : Node} (inner : Derives .orExpr depth tokens node) :
      Derives .primary (depth + 1) (.lparen :: tokens ++ [.rparen]) node
  | operand {depth : Nat} {tokens : List Token} {node : Node} (only : Derives .primary depth tokens node) :
      Derives .andExpr depth tokens node
  | and {depth : Nat} {front back : List Token} {left right : Node} (shorter : Derives .andExpr depth front left)
      (last : Derives .primary depth back right) : Derives .andExpr depth (front ++ .and :: back) (.and left right)
  | term {depth : Nat} {tokens : List Token} {node : Node} (only : Derives .andExpr depth tokens node) :
      Derives .orExpr depth tokens node
  | or {depth : Nat} {front back : List Token} {left right : Node} (shorter : Derives .orExpr depth front left)
      (last : Derives .andExpr depth back right) : Derives .orExpr depth (front ++ .or :: back) (.or left right)

section Exactness

variable {t : Tables} {last : Option Token × Lexer} {front back : List Token}

inductive Takes (t : Tables) : Option Token × Lexer → List Token → Option Token × Lexer → Prop where
  | nil (place : Option Token × Lexer) : Takes t place [] place
  | cons {token : Token} {lex : Lexer} {next last : Option Token × Lexer} {tokens : List Token}
      (read : lex.next t = .ok next) (more : Takes t next tokens last) : Takes t (some token, lex) (token :: tokens) last

def Parser.place (p : Parser) : Option Token × Lexer := (p.current, p.lex)

theorem takes_append {first middle : Option Token × Lexer} (before : Takes t first front middle)
    (after : Takes t middle back last) : Takes t first (front ++ back) last := by
  induction before with
  | nil place => exact after
  | cons read more ih => exact .cons read (ih after)

variable {p next : Parser} {token operator : Token} {operand primary : Parser → Outcome (Node × Parser)}
  {build : Node → Node → Node} {depth : Nat} {left node right : Node} {tokens rest : List Token} {category : Category}
  {input : Bytes}

theorem advance_takes (here : p.current = some token) (moved : p.advance t = .ok next) :
    Takes t p.place [token] next.place ∧ next.nodes = p.nodes := by
  simp only [advance, ok_iff, Prod.exists] at moved
  obtain ⟨current, lex, read, rfl⟩ := moved
  rw [place, here]
  exact ⟨.cons read (.nil _), rfl⟩

theorem count_node_ok_iff : p.countNode = .ok next ↔ p.nodes + 1 ≤ maxParseNodes ∧ { p with nodes := p.nodes + 1 } = next := by
  simp only [countNode, ok_iff, exists_const, Nat.not_lt, gt_iff_lt]

structure Parsed (t : Tables) (category : Category) (depth : Nat) (p : Parser) (node : Node) (next : Parser) : Prop where
  derived : ∃ tokens, Derives category depth tokens node ∧ Takes t p.place tokens next.place
  counted : next.nodes = p.nodes + node.size
  bounded : next.nodes ≤ maxParseNodes

theorem chain_parsed {longer last : Category}
    (operands : ∀ {p node next}, operand p = .ok (node, next) → Parsed t last depth p node next)
    (extend : ∀ {front back left right}, Derives longer depth front left → Derives last depth back right →
      Derives longer depth (front ++ operator :: back) (build left right))
    (size : ∀ left right, (build left right).size = left.size + right.size + 1)
    {turns : Nat} {first : Parser} (before : Parsed t longer depth first left p)
    (done : chain t operand operator build turns left p = .ok (node, next)) : Parsed t longer depth first node next := by
  induction turns generalizing left p with
  | zero =>
    cases done
    exact before
  | succ turns ih =>
    rw [chain] at done
    split at done
    · rename_i here
      simp only [bind_ok_iff, Prod.exists] at done
      obtain ⟨start, moved, right, stop, read, counted, count, rest⟩ := done
      obtain ⟨fits, rfl⟩ := count_node_ok_iff.mp count
      obtain ⟨front, leftDerived, leftTaken⟩ := before.derived
      obtain ⟨mark, same⟩ := advance_takes here moved
      have operandParsed := operands read
      obtain ⟨back, rightDerived, rightTaken⟩ := operandParsed.derived
      refine ih ⟨⟨_, extend leftDerived rightDerived, ?_⟩, ?_, fits⟩ rest
      · exact takes_append leftTaken (takes_append mark rightTaken)
      · have count := operandParsed.counted
        rw [same, before.counted] at count
        rw [size]
        show stop.nodes + 1 = _
        omega
    · cases done
      exact before

section

variable (operands : ∀ {p node next}, primary p = .ok (node, next) → Parsed t .primary depth p node next)
include operands

theorem parse_and_parsed (done : parseAnd t primary p = .ok (node, next)) : Parsed t .andExpr depth p node next := by
  simp only [parseAnd, bind_ok_iff, Prod.exists] at done
  obtain ⟨left, middle, read, rest⟩ := done
  have first := operands read
  obtain ⟨tokens, derived, taken⟩ := first.derived
  exact chain_parsed operands .and (fun _ _ => rfl) ⟨⟨tokens, .operand derived, taken⟩, first.counted, first.bounded⟩ rest

theorem parse_or_parsed (done : parseOr t primary p = .ok (node, next)) : Parsed t .orExpr depth p node next := by
  simp only [parseOr, bind_ok_iff, Prod.exists] at done
  obtain ⟨left, middle, read, rest⟩ := done
  have first := parse_and_parsed operands read
  obtain ⟨tokens, derived, taken⟩ := first.derived
  exact chain_parsed (parse_and_parsed operands) .or (fun _ _ => rfl)
    ⟨⟨tokens, .term derived, taken⟩, first.counted, first.bounded⟩ rest

end

theorem parse_primary_cases (done : parsePrimary t depth p = .ok (node, next)) :
    (∃ index : Nat, p.current = some (.ref index) ∧ node = .ref index ∧ p.nodes + 1 ≤ maxParseNodes ∧
      advance t { p with nodes := p.nodes + 1 } = .ok next) ∨
    (∃ fewer inner stop, depth = fewer + 1 ∧ p.current = some .lparen ∧ p.advance t = .ok inner ∧
      parseOr t (parsePrimary t fewer) inner = .ok (node, stop) ∧ stop.current = some .rparen ∧ stop.advance t = .ok next) := by
  unfold parsePrimary at done
  split at done
  · rename_i index here
    simp only [ok_iff, count_node_ok_iff, Prod.mk.injEq] at done
    obtain ⟨_, ⟨fits, rfl⟩, _, moved, rfl, rfl⟩ := done
    exact .inl ⟨index, here, rfl, fits, moved⟩
  · cases done
  · rename_i fewer here
    simp only [ok_iff, Prod.mk.injEq, Prod.exists, exists_const] at done
    obtain ⟨inner, moved, _, stop, read, closed, _, left, rfl, rfl⟩ := done
    exact .inr ⟨fewer, inner, stop, rfl, here, moved, read, closed, left⟩
  · cases done

theorem parse_primary_parsed (done : parsePrimary t depth p = .ok (node, next)) : Parsed t .primary depth p node next := by
  induction depth using Nat.strong_induction_on generalizing p next node with
  | _ depth ih =>
    rcases parse_primary_cases done with ⟨index, here, rfl, fits, moved⟩ | ⟨fewer, inner, stop, rfl, here, moved, read, closed, left⟩
    · obtain ⟨taken, count⟩ := advance_takes (p := { p with nodes := p.nodes + 1 }) here moved
      exact ⟨⟨_, .ref depth index, taken⟩, count, count ▸ fits⟩
    · have parsed := parse_or_parsed (ih fewer (Nat.lt_succ_self fewer)) read
      obtain ⟨tokens, derived, taken⟩ := parsed.derived
      obtain ⟨opened, sameOpened⟩ := advance_takes here moved
      obtain ⟨shut, sameShut⟩ := advance_takes closed left
      refine ⟨⟨_, .parens derived, takes_append (takes_append opened taken) shut⟩, ?_, ?_⟩
      · rw [sameShut, parsed.counted, sameOpened]
      · rw [sameShut]
        exact parsed.bounded

theorem takes_spells {lex : Lexer} {place : Option Token × Lexer} (read : lex.next t = .ok place)
    (taken : Takes t place tokens last) (ended : last.1 = none) : Spells lex.rest tokens ∧ ∀ token ∈ tokens, token.Fits := by
  induction taken generalizing lex with
  | nil place =>
    obtain ⟨current, after⟩ := place
    obtain rfl : current = none := ended
    obtain ⟨spaces, white, text⟩ := next_reads read
    rw [text]
    exact ⟨by simpa using spaces_spell white .done, by simp⟩
  | cons next more ih =>
    obtain ⟨spaces, white, word, spelled, fits, text⟩ := next_reads read
    obtain ⟨spells, others⟩ := ih next ended
    rw [text]
    exact ⟨spaces_spell white (.token spelled spells), forall_mem_cons.mpr ⟨fits, others⟩⟩

def Apart (tokens : List Token) : Prop := tokens.IsChain fun first second => ¬ (first.Keyword ∧ second.Keyword)

structure Enclosed (tokens : List Token) : Prop where
  filled : tokens ≠ []
  apart : Apart tokens
  head : ∀ token, tokens.head? = some token → ¬ token.Keyword
  last : ∀ token, tokens.getLast? = some token → ¬ token.Keyword

theorem enclosed_join (before : Enclosed front) (after : Enclosed back) : Enclosed (front ++ operator :: back) := by
  refine ⟨by simp, ?_, ?_, ?_⟩
  · refine isChain_append.mpr ⟨before.apart, isChain_cons.mpr ⟨?_, after.apart⟩, ?_⟩
    · intro token head both
      exact after.head token head both.2
    · intro token last _ _ both
      exact before.last token last both.1
  · intro token head
    rw [head?_append_of_ne_nil _ before.filled] at head
    exact before.head token head
  · intro token last
    rw [getLast?_append_of_ne_nil _ (by simp), getLast?_cons_of_ne_nil after.filled] at last
    exact after.last token last

theorem enclosed_parens (inner : Enclosed tokens) : Enclosed (.lparen :: tokens ++ [.rparen]) := by
  have opened : Apart (.lparen :: tokens) := isChain_cons.mpr ⟨fun token _ both => by simp [Token.Keyword] at both, inner.apart⟩
  refine ⟨by simp, isChain_append.mpr ⟨opened, isChain_singleton _, ?_⟩, ?_, ?_⟩
  · intro _ _ token head both
    cases head
    simp [Token.Keyword] at both
  · intro token head
    cases head
    simp [Token.Keyword]
  · intro token last
    cases last
    simp [Token.Keyword]

theorem derives_enclosed (derived : Derives category depth tokens node) : Enclosed tokens := by
  induction derived with
  | ref depth index => exact ⟨by simp, isChain_singleton _, by simp [Token.Keyword], by simp [Token.Keyword]⟩
  | parens inner ih => exact enclosed_parens ih
  | operand only ih => exact ih
  | and shorter last ihShorter ihLast => exact enclosed_join ihShorter ihLast
  | term only ih => exact ih
  | or shorter last ihShorter ihLast => exact enclosed_join ihShorter ihLast

def Ready (p : Parser) : List Token → Prop
  | [] => p.current = none
  | token :: tokens => p.current = some token ∧ Spells p.lex.rest tokens ∧ Apart (token :: tokens) ∧ ∀ other ∈ tokens, other.Fits

theorem ready_current (ready : Ready p tokens) : p.current = tokens.head? := by
  cases tokens with
  | nil => exact ready
  | cons token tokens => exact ready.1

theorem advance_spelled (spells : Spells p.lex.rest tokens) (apart : Apart tokens)
    (fits : ∀ token ∈ tokens, token.Fits) : ∃ next, p.advance t = .ok next ∧ Ready next tokens ∧ next.nodes = p.nodes := by
  cases tokens with
  | nil =>
    obtain ⟨after, read⟩ : ∃ after, p.lex.next t = .ok (none, after) := next_spaces (spells_nil spells)
    refine ⟨{ p with current := none, lex := after }, ?_, rfl, rfl⟩
    simp only [advance, read]
    rfl
  | cons token tokens =>
    obtain ⟨first, others⟩ := isChain_cons.mp apart
    obtain ⟨after, read, more⟩ : ∃ after, p.lex.next t = .ok (some token, after) ∧ Spells after.rest tokens := by
      refine next_spelled spells (fits token mem_cons_self) fun keyword second head other => ?_
      exact first second head ⟨keyword, other⟩
    refine ⟨{ p with current := some token, lex := after }, ?_, ⟨rfl, more, apart, ?_⟩, rfl⟩
    · simp only [advance, read]
      rfl
    · exact fun other mem => fits other (mem_cons_of_mem _ mem)

theorem advance_ready (ready : Ready p (token :: tokens)) :
    ∃ next, p.advance t = .ok next ∧ Ready next tokens ∧ next.nodes = p.nodes :=
  advance_spelled ready.2.1 (isChain_cons.mp ready.2.2.1).2 ready.2.2.2

theorem chain_stop
    (other : p.current ≠ some operator) (turns : Nat) (left : Node) : chain t operand operator build turns left p = .ok (left, p) := by
  cases turns with
  | zero => rfl
  | succ turns => rw [chain, if_neg other]

def Completes (operand : Parser → Outcome (Node × Parser)) (tokens rest : List Token) (node : Node) : Prop :=
  ∀ p, Ready p (tokens ++ rest) → p.nodes + node.size ≤ maxParseNodes →
    ∃ next, operand p = .ok (node, next) ∧ Ready next rest ∧ next.nodes = p.nodes + node.size

def Reaches (t : Tables) (parse operand : Parser → Outcome (Node × Parser)) (operator : Token) (build : Node → Node → Node)
    (tokens rest : List Token) (node : Node) : Prop :=
  ∀ p, Ready p (tokens ++ rest) → p.nodes + node.size ≤ maxParseNodes →
    ∃ next turns, parse p = chain t operand operator build turns node next ∧ maxParseNodes < turns + next.nodes ∧
      Ready next rest ∧ next.nodes = p.nodes + node.size

theorem size_positive (node : Node) : 0 < node.size := by
  cases node <;> simp [Node.size]

theorem reaches_first {parse first : Parser → Outcome (Node × Parser)} (only : Completes first tokens rest node)
    (starts : ∀ p, parse p = first p >>= fun result => chain t operand operator build maxParseNodes result.1 result.2) :
    Reaches t parse operand operator build tokens rest node := by
  intro p ready bounded
  obtain ⟨next, read, after, count⟩ := only p ready bounded
  have some_node := size_positive node
  refine ⟨next, maxParseNodes, ?_, by omega, after, count⟩
  rw [starts, read]
  rfl

theorem reaches_next {parse : Parser → Outcome (Node × Parser)}
    (size : ∀ left right, (build left right).size = left.size + right.size + 1)
    (shorter : Reaches t parse operand operator build front (operator :: back ++ rest) left)
    (last : Completes operand back rest right) :
    Reaches t parse operand operator build (front ++ operator :: back) rest (build left right) := by
  intro p ready bounded
  rw [size] at bounded
  rw [append_assoc] at ready
  obtain ⟨middle, turns, reached, spare, here, count⟩ := shorter p ready (by omega)
  obtain ⟨start, moved, atBack, same⟩ := advance_ready (t := t) here
  obtain ⟨stop, read, after, counted⟩ := last start atBack (by omega)
  obtain ⟨turns, rfl⟩ : ∃ fewer, turns = fewer + 1 := ⟨turns - 1, by omega⟩
  have counts : stop.countNode = .ok { stop with nodes := stop.nodes + 1 } := count_node_ok_iff.mpr ⟨by omega, rfl⟩
  refine ⟨{ stop with nodes := stop.nodes + 1 }, turns, ?_, ?_, ?_, ?_⟩
  · have current : middle.current = some operator := here.1
    rw [reached, chain, if_pos current, moved]
    simp [bind, Except.bind, read, counts]
  · show maxParseNodes < turns + (stop.nodes + 1)
    omega
  · cases rest with
    | nil | cons token rest => exact after
  · rw [size]
    show stop.nodes + 1 = _
    omega

theorem completes_of_reaches {parse : Parser → Outcome (Node × Parser)}
    (reaches : Reaches t parse operand operator build tokens rest node)
    (other : rest.head? ≠ some operator) : Completes parse tokens rest node := by
  intro p ready bounded
  obtain ⟨next, turns, reached, -, after, count⟩ := reaches p ready bounded
  refine ⟨next, ?_, after, count⟩
  rw [reached, chain_stop (by rw [ready_current after]; exact other)]

def Recognized (t : Tables) (category : Category) (depth : Nat) (tokens : List Token) (node : Node) : Prop :=
  match category with
  | .primary => ∀ rest, Completes (parsePrimary t depth) tokens rest node
  | .andExpr => ∀ rest, Reaches t (parseAnd t (parsePrimary t depth)) (parsePrimary t depth) .and .and tokens rest node
  | .orExpr => ∀ rest : List Token, rest.head? ≠ some .and →
      Reaches t (parseOr t (parsePrimary t depth)) (parseAnd t (parsePrimary t depth)) .or .or tokens rest node

theorem recognized_ref (depth index : Nat) : Recognized t .primary depth [.ref index] (.ref index) := by
  intro rest p ready bounded
  obtain ⟨next, moved, after, same⟩ := advance_ready (t := t) (p := { p with nodes := p.nodes + 1 }) ready
  refine ⟨next, ?_, after, same⟩
  have counts : p.countNode = .ok { p with nodes := p.nodes + 1 } := count_node_ok_iff.mpr ⟨bounded, rfl⟩
  have here : p.current = some (.ref index) := ready.1
  rw [here] at moved counts
  unfold parsePrimary
  simp only [here, bind, Except.bind, counts, moved]
  rfl

theorem recognized_parens (inner : Recognized t .orExpr depth tokens node) :
    Recognized t .primary (depth + 1) (.lparen :: tokens ++ [.rparen]) node := by
  intro rest p ready bounded
  rw [append_assoc] at ready
  obtain ⟨start, moved, within, same⟩ := advance_ready (t := t) ready
  have whole := completes_of_reaches (inner (.rparen :: rest) (by simp)) (by simp)
  obtain ⟨stop, read, closing, count⟩ := whole start within (by omega)
  obtain ⟨next, left, after, same'⟩ := advance_ready (t := t) closing
  refine ⟨next, ?_, after, by omega⟩
  have shut : ensure (ε := String) (stop.current = some .rparen) s!"expected ')' but got token kind {kindOf stop.current}" = .ok () := by
    simp [ready_current closing]
  unfold parsePrimary
  simp only [ready.1, bind, Except.bind, moved, read, shut, left]
  rfl

theorem derives_recognized (derived : Derives category depth tokens node) : Recognized t category depth tokens node := by
  induction derived with
  | ref depth index => exact recognized_ref depth index
  | parens inner ih => exact recognized_parens ih
  | operand only ih => exact fun rest => reaches_first (ih rest) fun p => rfl
  | and shorter last ihShorter ihLast => exact fun rest => reaches_next (fun _ _ => rfl) (ihShorter _) (ihLast rest)
  | term only ih => exact fun rest other => reaches_first (completes_of_reaches (ih rest) other) fun p => rfl
  | or shorter last ihShorter ihLast =>
    intro rest other
    exact reaches_next (fun _ _ => rfl) (ihShorter _ (by simp)) (completes_of_reaches (ihLast rest) other)

structure SameIndices (tokens : List Token) (node : Node) : Prop where
  fits : (∀ token ∈ tokens, token.Fits) ↔ ∀ index ∈ node.indices, index < 2 ^ 63
  natural : ∀ index ∈ node.indices, 0 ≤ index

theorem same_indices_join (fits : operator.Fits) (indices : node.indices = left.indices ++ right.indices)
    (before : SameIndices front left) (after : SameIndices back right) : SameIndices (front ++ operator :: back) node := by
  constructor
  · rw [indices, forall_mem_append, forall_mem_append, forall_mem_cons, before.fits, after.fits]
    simp [fits]
  · rw [indices, forall_mem_append]
    exact ⟨before.natural, after.natural⟩

theorem derives_indices (derived : Derives category depth tokens node) : SameIndices tokens node := by
  induction derived with
  | ref depth index => exact ⟨by simp only [forall_mem_singleton, Token.Fits, Node.indices]; omega, by simp [Node.indices]⟩
  | parens inner ih =>
    refine ⟨?_, ih.natural⟩
    rw [cons_append, forall_mem_cons, forall_mem_append, ← ih.fits]
    simp [Token.Fits]
  | operand only ih => exact ih
  | and shorter last ihShorter ihLast => exact same_indices_join trivial rfl ihShorter ihLast
  | term only ih => exact ih
  | or shorter last ihShorter ihLast => exact same_indices_join trivial rfl ihShorter ihLast

theorem parse_ok_iff : parse t input = .ok node ↔ input.length ≤ maxPolicyLen ∧
    (∃ tokens, Spells (scan input) tokens ∧ Derives .orExpr maxParseDepth tokens node) ∧ node.size ≤ maxParseNodes ∧
      ∀ index ∈ node.indices, index < 2 ^ 63 := by
  simp only [parse, ok_iff, exists_const, Prod.exists, Nat.not_lt, gt_iff_lt]
  constructor
  · rintro ⟨short, start, first, found, last, read, ended, rfl⟩
    have parsed := parse_or_parsed parse_primary_parsed read
    obtain ⟨tokens, derived, taken⟩ := parsed.derived
    simp only [advance, ok_iff, Prod.exists] at first
    obtain ⟨current, lex, next, rfl⟩ := first
    obtain ⟨spells, fits⟩ := takes_spells next taken ended
    refine ⟨short, ⟨tokens, spells, derived⟩, ?_, (derives_indices derived).fits.mp fits⟩
    have bounded := parsed.bounded
    rw [parsed.counted] at bounded
    simpa using bounded
  · rintro ⟨short, ⟨tokens, spells, derived⟩, bounded, fits⟩
    obtain ⟨start, first, ready, none_yet⟩ := advance_spelled (t := t)
      (p := { lex := { rest := scan input, pos := 0 }, current := none, nodes := 0 }) spells (derives_enclosed derived).apart
      ((derives_indices derived).fits.mpr fits)
    have whole := completes_of_reaches (derives_recognized (t := t) derived [] (by simp)) (by simp)
    have none_counted : start.nodes = 0 := none_yet
    obtain ⟨last, read, ended, -⟩ := whole start (by rwa [append_nil]) (by omega)
    exact ⟨short, start, first, node, last, read, ended, rfl⟩

theorem derives_deeper {deeper : Nat}
    (derived : Derives category depth tokens node) (within : depth ≤ deeper) : Derives category deeper tokens node := by
  induction derived generalizing deeper with
  | ref depth index => exact .ref deeper index
  | parens inner ih =>
    obtain ⟨deeper, rfl⟩ : ∃ fewer, deeper = fewer + 1 := ⟨deeper - 1, by omega⟩
    exact .parens (ih (Nat.le_of_succ_le_succ within))
  | operand only ih => exact .operand (ih within)
  | and shorter last ihShorter ihLast => exact .and (ihShorter within) (ihLast within)
  | term only ih => exact .term (ih within)
  | or shorter last ihShorter ihLast => exact .or (ihShorter within) (ihLast within)

def printedTokens : Node → List Token
  | .ref index => [.ref index.toNat]
  | .and left right => .lparen :: (printedTokens left ++ .and :: printedTokens right) ++ [.rparen]
  | .or left right => .lparen :: (printedTokens left ++ .or :: printedTokens right) ++ [.rparen]

theorem printed_derives (natural : ∀ index ∈ node.indices, 0 ≤ index) :
    Derives .primary node.nesting (printedTokens node) node := by
  induction node with
  | ref index =>
    obtain ⟨index, rfl⟩ := Int.eq_ofNat_of_zero_le (natural index mem_cons_self)
    exact .ref 0 index
  | and left right ihLeft ihRight =>
    obtain ⟨naturalLeft, naturalRight⟩ := forall_mem_append.mp natural
    have front := derives_deeper (ihLeft naturalLeft) (le_max_left left.nesting right.nesting)
    have back := derives_deeper (ihRight naturalRight) (le_max_right left.nesting right.nesting)
    exact .parens (.term (.and (.operand front) back))
  | or left right ihLeft ihRight =>
    obtain ⟨naturalLeft, naturalRight⟩ := forall_mem_append.mp natural
    have front := derives_deeper (ihLeft naturalLeft) (le_max_left left.nesting right.nesting)
    have back := derives_deeper (ihRight naturalRight) (le_max_right left.nesting right.nesting)
    exact .parens (.or (.term (.operand front)) (.operand back))

theorem runes_append (front back : Bytes) : runes (front ++ back) = runes front ++ runes back := map_append

theorem printed_join {left right keyword : Bytes} (spelled : Spelling operator keyword)
    (before : ∀ rest tokens, Spells rest tokens → Spells (runes left ++ rest) (front ++ tokens))
    (after : ∀ rest tokens, Spells rest tokens → Spells (runes right ++ rest) (back ++ tokens))
    (rest : List Rune) (tokens : List Token) (more : Spells rest tokens) :
    Spells (runes (ascii "(" ++ left ++ (ascii " " ++ keyword ++ ascii " ") ++ right ++ ascii ")") ++ rest)
      (.lparen :: (front ++ operator :: back) ++ [.rparen] ++ tokens) := by
  have space : isSpace (rune 32) := by decide
  have blank : runes (ascii " ") = [rune 32] := rfl
  have closed := Spells.token .rparen more
  have spaced := Spells.space space (Spells.token spelled (Spells.space space (after _ _ closed)))
  have whole := Spells.token .lparen (before _ _ spaced)
  simpa only [runes_append, blank, append_assoc, cons_append, nil_append] using whole

theorem printed_spells (natural : ∀ index ∈ node.indices, 0 ≤ index) (rest : List Rune) (tokens : List Token)
    (more : Spells rest tokens) : Spells (runes node.string ++ rest) (printedTokens node ++ tokens) := by
  induction node generalizing rest tokens with
  | ref index =>
    have low : 0 ≤ index := natural index mem_cons_self
    obtain ⟨value, digits, filled⟩ := decimal_read index.natAbs
    have spelled := Spells.token (.ref filled digits) more
    rw [value] at spelled
    have same : index.toNat = index.natAbs := by omega
    rw [Node.string, printIndex, if_neg (by omega), printedTokens, same]
    exact spelled
  | and left right ihLeft ihRight =>
    obtain ⟨naturalLeft, naturalRight⟩ := forall_mem_append.mp natural
    have spelled : Spelling .and (ascii "AND") := .and (by decide)
    exact printed_join spelled (ihLeft naturalLeft) (ihRight naturalRight) rest tokens more
  | or left right ihLeft ihRight =>
    obtain ⟨naturalLeft, naturalRight⟩ := forall_mem_append.mp natural
    have spelled : Spelling .or (ascii "OR") := .or (by decide)
    exact printed_join spelled (ihLeft naturalLeft) (ihRight naturalRight) rest tokens more

theorem string_ascii (node : Node) : ∀ octet ∈ node.string, octet < 0x80 := by
  have texts : ∀ text ∈ [ascii "$", ascii "-", ascii "(", ascii " AND ", ascii " OR ", ascii ")"], ∀ octet ∈ text, octet < 0x80 := by
    simp [ascii]
  induction node with
  | ref index =>
    have digits : ∀ octet ∈ decimal index.natAbs, octet < 0x80 := fun octet mem =>
      UInt8.lt_of_le_of_lt ((decimal_read index.natAbs).2.1 octet mem).2 (by decide)
    rw [Node.string, forall_mem_append, printIndex]
    refine ⟨texts _ (by simp), ?_⟩
    split
    · exact forall_mem_append.mpr ⟨texts _ (by simp), digits⟩
    · exact digits
  | and left right ihLeft ihRight | or left right ihLeft ihRight =>
    simp only [Node.string, forall_mem_append]
    exact ⟨⟨⟨⟨texts _ (by simp), ihLeft⟩, texts _ (by simp)⟩, ihRight⟩, texts _ (by simp)⟩

theorem parse_string (parsed : parse t input = .ok node) (short : node.string.length ≤ maxPolicyLen)
    (shallow : node.nesting ≤ maxParseDepth) : parse t node.string = .ok node := by
  obtain ⟨-, ⟨tokens, -, derived⟩, bounded, fits⟩ := parse_ok_iff.mp parsed
  have natural := (derives_indices derived).natural
  refine parse_ok_iff.mpr ⟨short, ⟨printedTokens node, ?_, ?_⟩, bounded, fits⟩
  · rw [scan_ascii (string_ascii node)]
    have whole := printed_spells natural [] [] .done
    rw [append_nil, append_nil] at whole
    exact whole
  · exact .term (.operand (derives_deeper (printed_derives natural) shallow))

theorem parser_exact (t : Tables) :
    (∀ input node, parse t input = .ok node ↔ input.length ≤ maxPolicyLen ∧
      (∃ tokens, Spells (scan input) tokens ∧ Derives .orExpr maxParseDepth tokens node) ∧ node.size ≤ maxParseNodes ∧
        ∀ index ∈ node.indices, index < 2 ^ 63) ∧
    (∀ input node, parse t input = .ok node → node.string.length ≤ maxPolicyLen → node.nesting ≤ maxParseDepth →
      parse t node.string = .ok node) :=
  ⟨fun _ _ => parse_ok_iff, fun _ _ parsed short shallow => parse_string parsed short shallow⟩

end Exactness

def asciiDigit : Rune → Bool
  | .valid [octet] => decide (IsDecimalDigit octet)
  | _ => false

def asciiLetter : Rune → Bool
  | .valid [octet] => decide (65 ≤ upper octet ∧ upper octet ≤ 90)
  | _ => false

def asciiUpper : Rune → Rune
  | .valid [octet] => rune (upper octet)
  | other => other

theorem ascii_upper_other (other : Rune) (beyond : ∀ octet < 0x80, other ≠ rune octet) :
    asciiUpper other ∉ runes (ascii "ANDOR") := by
  have letters : ∀ letter ∈ ascii "ANDOR", letter < 0x80 := all_iff_forall_prop.mp (by decide)
  have low : ∀ octet, rune octet ∈ runes (ascii "ANDOR") → octet < 0x80 := by
    intro octet mem
    obtain ⟨letter, listed, same⟩ := mem_map.mp mem
    obtain rfl : letter = octet := by simpa [rune] using same
    exact letters letter listed
  intro mem
  unfold asciiUpper at mem
  split at mem
  · rename_i octet
    have small : octet < 0x80 := by
      by_cases lower : 97 ≤ octet ∧ octet ≤ 122
      · exact UInt8.lt_of_le_of_lt lower.2 (by decide)
      · simpa [upper, lower] using low _ mem
    exact beyond octet small rfl
  · obtain ⟨letter, listed, same⟩ := mem_map.mp mem
    exact beyond letter (letters letter listed) same.symm

theorem ascii_space_apart (space : Rune) (white : isSpace space) : asciiDigit space = false ∧ asciiLetter space = false := by
  unfold isSpace at white
  split at white
  · rename_i octet
    have low : octet ≤ 0x20 := by
      rcases Bool.or_eq_true_iff.mp white with blank | control
      · rw [beq_iff_eq.mp blank]
        decide
      · exact UInt8.le_trans (of_decide_eq_true (Bool.and_eq_true_iff.mp control).2) (by decide)
    have same : upper octet = octet := if_neg fun lower => absurd (UInt8.le_trans lower.1 low) (by decide)
    refine ⟨decide_eq_false fun digit => absurd (UInt8.le_trans digit.1 low) (by decide), decide_eq_false fun letter => ?_⟩
    rw [same] at letter
    exact absurd (UInt8.le_trans letter.1 low) (by decide)
  · exact ⟨rfl, rfl⟩
  · exact ⟨rfl, rfl⟩
  · cases white

def asciiTables : Tables where
  isDigit := asciiDigit
  isLetter := asciiLetter
  toUpper := asciiUpper
  quote := fun text => render (text.flatMap Rune.octets)
  digit_ascii _ _ := rfl
  letter_ascii _ _ := rfl
  upper_ascii _ _ := rfl
  upper_other := ascii_upper_other
  space_apart := ascii_space_apart

namespace OneKeywordEach

def input : Bytes := ascii "$0 or ($1 AND $2)"
def node : Node := .or (.ref 0) (.and (.ref 1) (.ref 2))

theorem one_keyword_each_read_back : parse asciiTables input = .ok node ∧ parse asciiTables node.string = .ok node :=
  ⟨rfl, (parser_exact asciiTables).2 input node rfl (by decide) (by decide)⟩

end OneKeywordEach

namespace LargeIndex

def input : Bytes := ascii "$9223372036854775808"
def node : Node := .ref 9223372036854775808

theorem large_index_rejected : input.length ≤ maxPolicyLen ∧
    (∃ tokens, Spells (scan input) tokens ∧ Derives .orExpr maxParseDepth tokens node) ∧ node.size ≤ maxParseNodes ∧
      ∀ other, parse asciiTables input ≠ .ok other := by
  refine ⟨by decide, ⟨[.ref 9223372036854775808], ?_, .term (.operand (.ref _ _))⟩, by decide, ?_⟩
  · have spelled : Spelling (.ref 9223372036854775808) input :=
      @Spelling.ref (ascii "9223372036854775808") (by decide) (List.all_iff_forall_prop.mp (by decide))
    exact .token spelled .done
  · intro other read
    have refused : (parse asciiTables input).toOption = none := rfl
    rw [read] at refused
    cases refused

end LargeIndex

end Panurus.Boolpolicy
