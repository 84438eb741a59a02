import CodeIndex.Parsing.Tree
import CodeIndex.Grammar.Automaton

/-!
# Finding the next token

Among the tokens that are possible in a state the longest match wins. Of equally long ones the token
with the higher precedence wins, then the more literal one, then the one that the grammar names
first. Blank text may stand before a token, unless the token must follow directly.

All tokens are matched side by side, character by character. Once a token is complete, only tokens
of at least its precedence go on; blank text never goes on after a complete token. A token that is
the null character alone also stands for the end of the text.
-/

namespace CodeIndex.Parsing

open Grammar

/-- A token with what is left of its pattern. -/
structure Candidate where
  token : Nat
  residual : Pattern
  precedence : Int
  literalness : Int
  deriving Inhabited

/-- A token that was found, with the place where its text begins and ends. -/
structure Found where
  token : Nat
  start : Cursor
  stop : Cursor
  deriving Inhabited

/-- How far the lexer has come. -/
structure Lexing where
  live : List Candidate
  /-- What is left of the blank text before the token. -/
  blank : Pattern
  /-- Only blank text has been read. -/
  blankOnly : Bool
  start : Cursor
  here : Cursor
  found : Option Found

namespace Candidate

/-- The better of two complete tokens of equal length. -/
def better (a b : Candidate) : Bool :=
  if a.precedence ≠ b.precedence then a.precedence > b.precedence
  else if a.literalness ≠ b.literalness then a.literalness > b.literalness
  else a.token < b.token

/-- The best of the complete candidates. -/
def best (cs : List Candidate) : Option Candidate :=
  (cs.filter (·.residual.nullable)).foldl (fun b c =>
    match b with
    | none => some c
    | some x => if c.better x then some c else some x) none

end Candidate

/-- One character at a time over the rest of the text. `fresh` are the candidates that may begin
after blank text. -/
def lexFrom (fresh : List Candidate) (endsText : Bool) : List Char → Lexing → Lexing
  | [], s =>
    let opening := if s.blank.nullable then fresh else []
    match Candidate.best (s.live ++ opening) with
    | some c => { s with found := some ⟨c.token, s.start, s.here⟩ }
    | none =>
      if !(s.blankOnly && s.blank.nullable) then s
      else if endsText then { s with found := some ⟨0, s.here, s.here⟩ }
      else match fresh.find? (·.residual = Pattern.char '\x00') with
        | some c => { s with found := some ⟨c.token, s.here, s.here⟩ }
        | none => s
  | c :: cs, s =>
    let opening := if s.blank.nullable then fresh else []
    let complete := Candidate.best (s.live ++ opening)
    let found := match complete with
      | some t => some ⟨t.token, s.start, s.here⟩
      | none => s.found
    let hasBlank := decide (s.blank ≠ .never)
    let advance (k : Candidate) : Option Candidate :=
      match k.residual.deriv c with
      | .never => none
      | p => some { k with residual := p }
    let moved := s.live.filterMap advance ++ opening.filterMap advance
    let blank := s.blank.deriv c
    let blankAlive := decide (blank ≠ .never)
    let onlyBlank := moved.isEmpty && blankAlive
    let stopHere := { s with found }
    if moved.isEmpty && !blankAlive then stopHere else
      let top := moved.foldl (fun m k => max m k.precedence)
        (if blankAlive then 0 else (moved.head?.map (·.precedence)).getD 0)
      let goesOn := match complete with
        | none => true
        | some t =>
          top > t.precedence ||
            (top = t.precedence && !onlyBlank &&
              !(hasBlank && !moved.any (·.token = t.token)))
      if !goesOn then stopHere else
        let here := s.here.next
        lexFrom fresh endsText cs
          { live := moved
            blank
            blankOnly := s.blankOnly && onlyBlank
            start := if onlyBlank then here else s.start
            here
            found }

/-- The candidates for a set of tokens: those that must follow directly, and the others. -/
def candidates (g : Prepared) (wanted : Array Nat) : List Candidate × List Candidate :=
  let all := wanted.toList.filterMap fun k =>
    (g.tokens[k]?.join).map fun t =>
      (t.immediate, (⟨k, t.pattern, t.precedence, t.literalness⟩ : Candidate))
  ((all.filter (·.1)).map (·.2), (all.filter (!·.1)).map (·.2))

/-- Match the tokens of a state at a place. The result also says how far the text was looked at. -/
def lexTokens (g : Prepared) (st : State) (c : Cursor) : Lexing :=
  let (direct, fresh) := candidates g st.wanted
  lexFrom fresh (st.valid.has 0) c.rest
    { live := direct, blank := g.separator, blankOnly := true, start := c, here := c,
      found := none }

/-! ## Hand-written scanners -/

/-- A token found by a hand-written scanner. -/
structure Scanned where
  /-- Its number among the grammar's externals. -/
  token : Nat
  start : Cursor
  stop : Cursor
  memory : Memory

/-- A hand-written scanner: from the tokens that are possible and what it remembers, it finds at
most one token at a place. -/
abbrev Scanner := (Nat → Bool) → Memory → Cursor → Option Scanned

/-- What a language is parsed with. -/
structure Parser where
  tables : Tables
  start : Automaton
  scan : Scanner
  deriving Inhabited

/-- Prepare a definition and its scanner for parsing. -/
def Parser.of (d : Definition) (scan : Scanner) : Parser :=
  let tables := d.prepare.tables
  { tables, start := tables.initial, scan }

/-- The scanner of a grammar that has no need of one. -/
def noScanner : Scanner := fun _ _ _ => none

end CodeIndex.Parsing
