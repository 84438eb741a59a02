import CodeIndex.Grammar.Pattern

/-!
# Grammar definitions

A grammar is written as an ordered list of named rules in an extended context-free notation:
literals, patterns, sequence, choice and repetition, annotated with precedence, associativity, field
names and aliases. Names that begin with an underscore are *hidden*: their nodes do not show in a
syntax tree.
-/

namespace CodeIndex.Grammar

/-- How tightly a rule binds: by number, or by a name that the grammar's orderings rank. -/
inductive Precedence where
  | none
  | number (n : Int)
  | name (s : String)
  deriving DecidableEq, Hashable, Repr, Inhabited

instance (n : Nat) : OfNat Precedence n := ⟨.number n⟩
instance : Neg Precedence := ⟨fun | .number n => .number (-n) | p => p⟩
instance : Coe String Precedence := ⟨.name⟩

inductive Assoc where
  | left
  | right
  deriving DecidableEq, Hashable, Repr

/-- Another name for a node; an anonymous one shows as a literal does. -/
structure Alias where
  name : String
  named : Bool
  deriving DecidableEq, Hashable, Repr

/-- The right-hand side of a grammar rule. -/
inductive Rule where
  | blank
  | literal (text : String)
  | pattern (p : Pattern)
  | ref (name : String)
  | seq (a b : Rule)
  | choice (a b : Rule)
  | repeat1 (a : Rule)
  | prec (p : Precedence) (assoc : Option Assoc) (a : Rule)
  | dynamic (n : Int) (a : Rule)
  | field (name : String) (a : Rule)
  | renamed (shown : Alias) (a : Rule)
  | token (a : Rule)
  | immediate (a : Rule)
  deriving DecidableEq, Hashable, Repr, Inhabited

instance : Coe String Rule := ⟨.literal⟩
instance : Coe Pattern Rule := ⟨.pattern⟩

/-- An entry of a precedence ordering: a named precedence, or a rule. -/
inductive Ranked where
  | name (s : String)
  | rule (name : String)
  deriving DecidableEq, Repr

instance : Coe String Ranked := ⟨.name⟩

/-- A grammar as it is written down; the first rule is the start rule. -/
structure Definition where
  rules : List (String × Rule)
  /-- What may stand between any two tokens. -/
  extras : List Rule := []
  /-- Tokens that a hand-written scanner finds. -/
  externals : List Rule := []
  /-- Rules that are substituted where they are used. -/
  inlined : List String := []
  /-- Hidden rules that stand for a family of nodes. -/
  families : List String := []
  /-- The token that keywords are recognised from. -/
  word : Option String := none
  /-- Each list ranks precedences from tight to loose. -/
  orderings : List (List Ranked) := []
  /-- Tokens that match nearly any text, left out where any token may come. -/
  freeText : List Rule := []

/-! ## Notation for rules -/

/-- A nonterminal. -/
def nt (name : String) : Rule := .ref name

def seq : List Rule → Rule
  | [] => .blank
  | [r] => r
  | r :: rs => .seq r (seq rs)

def choice : List Rule → Rule
  | [] => .blank
  | [r] => r
  | r :: rs => .choice r (choice rs)

def opt (r : Rule) : Rule := .choice r .blank

def many1 (r : Rule) : Rule := .repeat1 r

def many (r : Rule) : Rule := opt (many1 r)

def prec (p : Precedence) (r : Rule) : Rule := .prec p none r

def precLeft (p : Precedence) (r : Rule) : Rule := .prec p (some .left) r

def precRight (p : Precedence) (r : Rule) : Rule := .prec p (some .right) r

def dynamic (n : Int) (r : Rule) : Rule := .dynamic n r

def field (name : String) (r : Rule) : Rule := .field name r

/-- The rule's node shows under the name of another kind of node. -/
def renamed (name : String) (r : Rule) : Rule := .renamed ⟨name, true⟩ r

/-- The rule's node shows as the given literal. -/
def shownAs (text : String) (r : Rule) : Rule := .renamed ⟨text, false⟩ r

/-- One token, made of several parts. -/
def token (r : Rule) : Rule := .token r

/-- One token that follows the token before it directly. -/
def immediate (r : Rule) : Rule := .immediate r

def sepBy1 (sep r : Rule) : Rule := seq [r, many (seq [sep, r])]

def commaSep1 (r : Rule) : Rule := sepBy1 "," r

def commaSep (r : Rule) : Rule := opt (commaSep1 r)

/-! ## Reading a rule as one token -/

namespace Rule

/-- The text pattern of a rule without nonterminals. -/
def toPattern : Rule → Pattern
  | blank => .empty
  | literal s => .word s
  | pattern p => p
  | ref _ => .never
  | seq a b => .seqOf a.toPattern b.toPattern
  | choice a b => .altOf a.toPattern b.toPattern
  | repeat1 a => .plus a.toPattern
  | prec _ _ a | dynamic _ a | field _ a | renamed _ a | token a | immediate a => a.toPattern

/-- The numeric precedence written at the top of a token. -/
def tokenPrecedence : Rule → Int
  | prec (.number n) _ _ => n
  | token a | immediate a | field _ a | renamed _ a | dynamic _ a => a.tokenPrecedence
  | _ => 0

/-- Of two tokens with the same text the more literal one wins. -/
def literalness : Rule → Int
  | literal _ => 2
  | immediate a => a.literalness + 1
  | prec _ _ a | token a | field _ a | renamed _ a | dynamic _ a => a.literalness
  | _ => 0

/-- The text of a token that is one literal. -/
def literalText? : Rule → Option String
  | literal s => some s
  | prec _ _ a | token a | immediate a => a.literalText?
  | _ => none

def isImmediate : Rule → Bool
  | immediate _ => true
  | _ => false

end Rule

end CodeIndex.Grammar
