import CodeIndex.Grammar.Productions

/-!
# Parse trees

A cursor is a place in a text together with what follows it. A parse tree records where its leading
blank text, its first token and its end are, and what the parser weighs alternatives by: the cost of
the errors in it, and its dynamic precedence.
-/

namespace CodeIndex.Parsing

open Grammar

/-- A place in a text: what follows, and how many bytes and lines stand before. -/
structure Cursor where
  rest : List Char
  byte : Nat := 0
  row : Nat := 0
  column : Nat := 0
  deriving Inhabited

namespace Cursor

def next (c : Cursor) : Cursor :=
  match c.rest with
  | [] => c
  | '\n' :: rest => ⟨rest, c.byte + 1, c.row + 1, 0⟩
  | ch :: rest => ⟨rest, c.byte + ch.utf8Size, c.row, c.column + ch.utf8Size⟩

def peek? (c : Cursor) : Option Char := c.rest.head?

def atEnd (c : Cursor) : Bool := c.rest.isEmpty

/-- Move over the characters that satisfy `p`. -/
def skipWhile (p : Char → Bool) (c : Cursor) : Cursor :=
  go c.rest c
where
  go : List Char → Cursor → Cursor
    | [], c => c
    | ch :: cs, c => if p ch then go cs c.next else c

end Cursor

/-- What a hand-written scanner remembers between tokens. -/
abbrev Memory := List Nat

/-! ## Costs of errors -/

namespace Cost

def recovery : Nat := 500
def missing : Nat := 110
def skippedTree : Nat := 100
def skippedLine : Nat := 30
def skippedChar : Nat := 1
/-- Beyond this difference, weighed by progress, the dearer version is given up. -/
def maxDifference : Nat := 18 * skippedTree

end Cost

/-- The symbol of an error. -/
def errorSymbol : Nat := 65535

/-- The symbol of a run of skipped trees inside an error under construction. -/
def errorRunSymbol : Nat := 65534

/-- What is known of a tree besides its children. -/
structure Facts where
  symbol : Nat
  /-- The production a tree was built by. -/
  production : Option Nat := none
  /-- Where the blank text before the tree begins. -/
  lead : Cursor
  start : Cursor
  stop : Cursor
  extra : Bool := false
  missing : Bool := false
  /-- A keyword, which may also be read as a word. -/
  keyword : Bool := false
  /-- For a token of the hand-written scanner: what the scanner remembers after it. -/
  memory : Option Memory := none
  visible : Bool := false
  cost : Nat := 0
  dynamic : Int := 0
  visibleChildren : Nat := 0
  visibleDescendants : Nat := 0
  deriving Inhabited

/-- A parse tree. -/
inductive Tree where
  | mk (facts : Facts) (children : List Tree)
  deriving Inhabited

namespace Tree

def facts : Tree → Facts
  | mk f _ => f

def children : Tree → List Tree
  | mk _ cs => cs

def symbol (t : Tree) : Nat := t.facts.symbol

def isLeaf (t : Tree) : Bool := t.children.isEmpty

def setExtra (t : Tree) (extra : Bool) : Tree := mk { t.facts with extra } t.children

def cost (t : Tree) : Nat :=
  if t.facts.missing then Cost.missing + Cost.recovery else t.facts.cost

def isError (t : Tree) : Bool := t.symbol = errorSymbol

def isEnd (t : Tree) : Bool := t.symbol = 0

/-- The bytes of a tree, its leading blank text included. -/
def totalBytes (t : Tree) : Nat := t.facts.stop.byte - t.facts.lead.byte

def size (t : Tree) : Nat := t.facts.stop.byte - t.facts.start.byte

/-- How far a tree takes the parse: its visible nodes, and the runs of skipped trees. -/
def progress (t : Tree) : Nat :=
  t.facts.visibleDescendants + (if t.facts.visible then 1 else 0) +
    (if t.symbol = errorRunSymbol then 1 else 0)

def isErrorSymbol (s : Nat) : Bool := s = errorSymbol || s = errorRunSymbol

/-- A token. The end of the text counts as an extra. -/
def leaf (g : Prepared) (symbol : Nat) (lead start stop : Cursor) (keyword : Bool := false)
    (memory : Option Memory := none) : Tree :=
  mk { symbol, lead, start, stop, extra := symbol = 0, keyword, memory
       visible := symbol = errorSymbol || (g.symbols[symbol]?.map (·.visible)).getD false } []

/-- A token that the text lacks, put in where it would stand. -/
def missingLeaf (g : Prepared) (symbol : Nat) (at_ : Cursor) : Tree :=
  let t := leaf g symbol at_ at_ at_
  mk { t.facts with missing := true } []

/-- Build a tree over its children. `here` is where a tree without children stands. -/
def node (g : Prepared) (symbol : Nat) (production : Option Nat) (children : List Tree)
    (here : Cursor) : Tree :=
  let lead := (children.head?.map (·.facts.lead)).getD here
  let start := (children.head?.map (·.facts.start)).getD here
  let stop := (children.getLast?.map (·.facts.stop)).getD here
  let inError := isErrorSymbol symbol
  let steps : Array Step := match production with
    | some p => (g.productions[p]?.map fun q : Production => q.steps).getD #[]
    | none => #[]
  let count (acc : Facts × Nat) (c : Tree) : Facts × Nat :=
    let (f, i) := acc
    let own := if c.symbol = errorRunSymbol then 0 else c.cost
    let skipped :=
      if inError && !c.facts.extra && !(c.isError && c.isLeaf) then
        if c.facts.visible then Cost.skippedTree
        else if c.isLeaf then 0 else Cost.skippedTree * c.facts.visibleChildren
      else 0
    let renamed := !c.facts.extra && c.symbol ≠ 0 &&
      (steps[i]?.bind fun s : Step => s.renamed).isSome
    let shown := renamed || c.facts.visible
    ({ f with
        cost := f.cost + own + skipped
        dynamic := f.dynamic + c.facts.dynamic
        visibleDescendants := f.visibleDescendants + c.facts.visibleDescendants +
          (if shown then 1 else 0)
        visibleChildren := f.visibleChildren +
          (if shown then 1 else if c.isLeaf then 0 else c.facts.visibleChildren) },
      if c.facts.extra then i else i + 1)
  let base : Facts :=
    { symbol, production, lead, start, stop
      visible := symbol = errorSymbol || (g.symbols[symbol]?.map (·.visible)).getD false }
  let (f, _) := children.foldl count (base, 0)
  let f := if inError then
      { f with cost := f.cost + Cost.recovery + Cost.skippedChar * (stop.byte - start.byte) +
          Cost.skippedLine * (stop.row - start.row) }
    else f
  mk f children

/-- An error over the given trees. -/
def error (g : Prepared) (children : List Tree) (extra : Bool) (here : Cursor) : Tree :=
  (node g errorSymbol none children here).setExtra extra

/-- Compare trees of equal merit by their symbols, from the left. -/
def compareShape : Nat → Tree → Tree → Ordering
  | 0, _, _ => .eq
  | fuel + 1, a, b =>
    (compare a.symbol b.symbol).then <|
      (compare a.children.length b.children.length).then <|
        (a.children.zip b.children).foldl (fun o (x, y) => o.then (compareShape fuel x y)) .eq

/-- Two trees that a merge of parser versions need not keep apart. -/
def alike (a b : Tree) : Bool :=
  a.symbol = b.symbol &&
    ((a.cost > 0 && b.cost > 0) ||
      (a.facts.start.byte - a.facts.lead.byte = b.facts.start.byte - b.facts.lead.byte &&
        a.size = b.size && a.children.length = b.children.length &&
        a.facts.extra = b.facts.extra &&
        (a.facts.memory.getD []) = (b.facts.memory.getD [])))

end Tree

end CodeIndex.Parsing
