import CodeIndex.Parsing.Parser
import CodeIndex.Text.Span

/-!
# Syntax trees

What a parse tree shows: hidden nodes give way to their children, and each node bears the name and
the field that its production gives it. Nodes are numbered in the order in which a reader meets
them.
-/

namespace CodeIndex.Syntax

open Grammar Parsing

/-- What is known of a node besides its children. -/
structure NodeInfo where
  kind : String
  named : Bool
  field : Option String
  /-- A later sibling may be in the same field. -/
  moreInField : Bool
  startByte : Nat
  stopByte : Nat
  span : Span
  /-- The number of nodes that begin before it. -/
  index : Nat := 0
  deriving DecidableEq, Repr, Inhabited

/-- The text of a node, from the text that was parsed. -/
def NodeInfo.textIn (source : String) (i : NodeInfo) : String :=
  String.Pos.Raw.extract source ⟨i.startByte⟩ ⟨i.stopByte⟩

/-- A node of a syntax tree. -/
inductive Node where
  | mk (info : NodeInfo) (children : List Node)
  deriving Inhabited, Repr

/-- A place as a line and a column. -/
def position (c : Cursor) : Position := ⟨c.row, c.column⟩

namespace Node

def info : Node → NodeInfo
  | mk i _ => i

def children : Node → List Node
  | mk _ cs => cs

/-- The place of a tree in the node around it: its name there, its field, and the fields that come
after it. -/
structure Role where
  renamed : Option Alias := none
  field : Option String := none
  later : List String := []

/-- The node that a tree shows as. -/
def describe (f : Facts) (kind : String) (named : Bool) (r : Role) : NodeInfo where
  kind
  named
  field := r.field
  moreInField := match r.field with
    | some n => r.later.contains n
    | none => false
  startByte := f.start.byte
  stopByte := f.stop.byte
  span := ⟨position f.start, position f.stop⟩

/-- The role of step `i` of a production inside a node with the role `outer`. A tree without a field
of its own takes that of the hidden node it is in. -/
def Role.ofStep (g : Prepared) (steps : Array Step) (outer : Role) (i : Nat) : Role where
  renamed := steps[i]?.bind fun s : Step => s.renamed
  field := (steps[i]?.bind fun s : Step => s.field).or outer.field
  later := g.laterFields steps i ++ outer.later

mutual

/-- The nodes that a tree shows as. -/
def ofTree (g : Prepared) (r : Role) : Tree → List Node
  | .mk f cs =>
    let steps : Array Step := match f.production with
      | some p => (g.productions[p]?.map fun q : Production => q.steps).getD #[]
      | none => #[]
    match r.renamed with
    | some a => [mk (describe f a.name a.named r) (ofTrees g steps {} 0 cs)]
    | none =>
      if f.visible then
        let (name, named) := if f.symbol = errorSymbol then ("ERROR", true)
          else match g.symbols[f.symbol]? with
            | some i => (i.name, i.named)
            | none => ("", false)
        [mk (describe f name named r) (ofTrees g steps {} 0 cs)]
      else ofTrees g steps r 0 cs

/-- The nodes that the children of a tree show as, from step `i` of its production on. -/
def ofTrees (g : Prepared) (steps : Array Step) (outer : Role) (i : Nat) : List Tree → List Node
  | [] => []
  | t :: ts =>
    if t.facts.extra then ofTree g {} t ++ ofTrees g steps outer i ts
    else
      let r := Role.ofStep g steps outer i
      let r := if t.symbol = 0 then { r with renamed := none } else r
      ofTree g r t ++ ofTrees g steps outer (i + 1) ts

end

mutual

/-- Number the nodes from `k` on; the result also has the first number not used. -/
def number (k : Nat) : Node → Node × Nat
  | mk i cs =>
    let (cs, next) := numberAll (k + 1) cs
    (mk { i with index := k } cs, next)

def numberAll (k : Nat) : List Node → List Node × Nat
  | [] => ([], k)
  | c :: cs =>
    let (c, k) := number k c
    let (cs, k) := numberAll k cs
    (c :: cs, k)

end

/-- The syntax tree of a text. -/
def parse (l : Parser) (text : String) : Node :=
  match ofTree l.tables.grammar {} (Parsing.parse l text) with
  | n :: _ => (n.number 0).1
  | [] => default

/-- The child that a position leads to: the first that ends after it, if it does not begin after it.
A node without text is reached by its own position. -/
def childAt (p : Position) (cs : List Node) : Option Node :=
  let reaches (n : Node) : Bool :=
    let s := n.info.span
    if s.start = s.stop then p ≤ s.stop else p < s.stop
  match cs.find? reaches with
  | some n => if n.info.span.start ≤ p then some n else none
  | none => none

/-- The smallest node at a position, looking at most `fuel` deep. -/
def descend (p : Position) : Nat → Node → Node
  | 0, n => n
  | fuel + 1, n =>
    match childAt p n.children with
    | some c => descend p fuel c
    | none => n

mutual

def depth : Node → Nat
  | mk _ cs => depthAll cs + 1

def depthAll : List Node → Nat
  | [] => 0
  | c :: cs => max (depth c) (depthAll cs)

end

/-- The smallest node at a position. -/
def at? (n : Node) (p : Position) : Node := n.descend p n.depth

end Node

end CodeIndex.Syntax
