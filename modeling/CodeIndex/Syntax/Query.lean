import CodeIndex.Syntax.Node

/-!
# Queries over syntax trees

A query is a list of patterns. A pattern names a kind of node and asks for children, in order, that
match patterns themselves; nodes can be captured under a label.
-/

namespace CodeIndex.Syntax

/-- A pattern for a node. -/
inductive Shape where
  | mk (kind : String) (field : Option String) (labels : List String) (children : List Shape)
  deriving Inhabited

namespace Shape

/-- A node of the given kind. -/
def node (kind : String) (children : List Shape := []) : Shape := mk kind none [] children

/-- The shape in the given field of its parent. -/
def inField (name : String) : Shape → Shape
  | mk k _ ls cs => mk k (some name) ls cs

/-- The shape, captured under a label. -/
def as (label : String) : Shape → Shape
  | mk k f ls cs => mk k f (ls ++ [label]) cs

mutual

/-- The labels of a pattern, each where it is written: those of the children come first. -/
def labels : Shape → List String
  | mk _ _ ls cs => labelsAll cs ++ ls

def labelsAll : List Shape → List String
  | [] => []
  | c :: cs => labels c ++ labelsAll cs

end

end Shape

/-- A query: patterns that are all looked for. -/
abbrev Query := List Shape

/-- The labels of a query in order of first appearance. -/
def Query.labels (q : Query) : List String := (q.flatMap Shape.labels).eraseDups

/-- Each element of a list with those after it. -/
def picks {α : Type} : List α → List (α × List α)
  | [] => []
  | x :: xs => (x, xs) :: picks xs

/-- Nodes captured by one match, in order, and the number of the last node it looked at. -/
structure Match where
  captures : List (String × NodeInfo)
  finish : Nat

/-- The nodes among which one in the given field is looked for: after a node of that field that is
the last one possible there, none is. -/
def inReach (field : Option String) : List Node → List Node
  | [] => []
  | n :: ns =>
    if field.isSome && n.info.field = field && !n.info.moreInField then [n]
    else n :: inReach field ns

def Shape.field : Shape → Option String
  | .mk _ f _ _ => f

mutual

/-- The matches of a pattern at a node. -/
def matchesAt : Shape → Node → List Match
  | .mk kind field labels shapes, n =>
    if n.info.kind = kind && n.info.named && (field.isNone || n.info.field = field) then
      (matchesAmong shapes n.children).map fun m =>
        ⟨labels.map (·, n.info) ++ m.captures, max n.info.index m.finish⟩
    else []

/-- The matches of several patterns at nodes of a list, in order. -/
def matchesAmong : List Shape → List Node → List Match
  | [], _ => [⟨[], 0⟩]
  | s :: ss, ns =>
    (picks ns).take (inReach s.field ns).length |>.flatMap fun (n, later) =>
      (matchesAt s n).flatMap fun m =>
        (matchesAmong ss later).map fun m' =>
          ⟨m.captures ++ m'.captures, max m.finish m'.finish⟩

end

mutual

/-- All nodes of a tree with their depths, in order. -/
def Node.nodes (depth : Nat) : Node → List (Nat × Node)
  | .mk i cs => (depth, .mk i cs) :: Node.nodesAll (depth + 1) cs

def Node.nodesAll (depth : Nat) : List Node → List (Nat × Node)
  | [] => []
  | c :: cs => Node.nodes depth c ++ Node.nodesAll depth cs

end

/-- All matches of a query in a tree: first those that are complete first; of those that one node
completes, the one that began further out, then the one of the earlier pattern. -/
def Query.matches (q : Query) (tree : Node) : List Match :=
  let found := (tree.nodes 0).flatMap fun (depth, n) =>
    q.zipIdx.flatMap fun (s, i) => (matchesAt s n).map fun m => ((m.finish, depth, i), m)
  let earlier (a b : (Nat × Nat × Nat) × Match) : Bool :=
    let (f, d, i) := a.1
    let (f', d', i') := b.1
    f < f' || (f = f' && (d < d' || (d = d' && i ≤ i')))
  (found.mergeSort earlier).map (·.2)

end CodeIndex.Syntax
