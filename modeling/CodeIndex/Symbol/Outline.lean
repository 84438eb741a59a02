import CodeIndex.Symbol.Kind
import CodeIndex.Syntax.Capture

/-!
# Outlines

Captures in document order are nested by their spans: each comes under the nearest earlier capture
that contains it. A definition takes its name from the capture below it that is labelled as its
name. The captures that others may come under are kept on a stack, and so are the symbols that a
walk has still to meet.
-/

namespace CodeIndex

open Syntax (Capture)

/-- A tree of captures. -/
inductive CaptureTree where
  | mk (capture : Capture) (children : List CaptureTree)
  deriving Inhabited

namespace CaptureTree

def capture : CaptureTree → Capture
  | mk c _ => c

def children : CaptureTree → List CaptureTree
  | mk _ cs => cs

end CaptureTree

/-- Trees of captures, side by side. -/
abbrev Forest := List CaptureTree

/-- A capture that others may still come under, and the trees in front of it. -/
structure OpenCapture where
  capture : Capture
  before : Array CaptureTree

/-- How far captures are nested: the stack of those that are open, innermost first, and the closed
trees below the innermost one. -/
structure Nesting where
  closed : Array CaptureTree := #[]
  stack : List OpenCapture := []

namespace Nesting

/-- Close captures, innermost first, for as long as a condition holds of them. -/
def closeWhile (p : Capture → Bool) : Array CaptureTree → List OpenCapture → Nesting
  | closed, [] => ⟨closed, []⟩
  | closed, o :: rest =>
    if p o.capture then closeWhile p (o.before.push (.mk o.capture closed.toList)) rest
    else ⟨closed, o :: rest⟩

/-- Take the next capture: those that do not contain it are closed, and it is opened. -/
def take (n : Nesting) (c : Capture) : Nesting :=
  let n := closeWhile (fun o => !decide (o.span.Contains c.span)) n.closed n.stack
  ⟨#[], ⟨c, n.closed⟩ :: n.stack⟩

/-- The trees when there are no more captures to come. -/
def forest (n : Nesting) : Forest := (closeWhile (fun _ => true) n.closed n.stack).closed.toList

end Nesting

/-- Nest captures that are given in document order. -/
def Forest.ofCaptures (cs : List Capture) : Forest := (cs.foldl Nesting.take {}).forest

/-- A symbol of an outline. -/
inductive Symbol where
  | mk (name : String) (kind : SymbolKind) (range selection : Span) (children : List Symbol)
  deriving Inhabited, Repr

namespace Symbol

def name : Symbol → String
  | mk n _ _ _ _ => n

def kind : Symbol → SymbolKind
  | mk _ k _ _ _ => k

/-- The whole construct. -/
def range : Symbol → Span
  | mk _ _ r _ _ => r

/-- The name of the construct, or all of it when it has none. -/
def selection : Symbol → Span
  | mk _ _ _ s _ => s

def children : Symbol → List Symbol
  | mk _ _ _ _ cs => cs

mutual

/-- How many symbols there are, this one and those below it. -/
def size : Symbol → Nat
  | mk _ _ _ _ cs => sizeAll cs + 1

def sizeAll : List Symbol → Nat
  | [] => 0
  | s :: ss => size s + sizeAll ss

end

theorem size_eq (s : Symbol) : s.size = sizeAll s.children + 1 := by
  cases s with
  | mk => rfl

theorem sizeAll_append (ss ss' : List Symbol) : sizeAll (ss ++ ss') = sizeAll ss + sizeAll ss' := by
  induction ss with
  | nil => simp [sizeAll]
  | cons s ss ih => simp [sizeAll, ih, Nat.add_assoc]

theorem sizeAll_reverse (ss : List Symbol) : sizeAll ss.reverse = sizeAll ss := by
  induction ss with
  | nil => rfl
  | cons s ss ih => simp [sizeAll, sizeAll_append, ih, Nat.add_comm]

/-- How far a walk has come: the symbols it has met, and the stack of those that are still to be
met, the next one on top, which is at the end. -/
structure Walk where
  met : Array Symbol := #[]
  stack : Array Symbol

namespace Walk

/-- The walk from a symbol down. -/
def start (s : Symbol) : Walk := { stack := #[s] }

/-- One turn: the symbol on top of the stack is met, and its children take its place, the first on
top. -/
@[inline]
def step (w : Walk) : Option Walk :=
  w.stack.back?.map fun s => ⟨w.met.push s, w.stack.pop ++ s.children.reverse⟩

/-- How many symbols are still to be met. -/
def left (w : Walk) : Nat := sizeAll w.stack.toList

theorem exists_of_step {w w' : Walk} (h : w.step = some w') :
    ∃ (below : Array Symbol) (s : Symbol), w.stack = below.push s ∧
      w' = ⟨w.met.push s, below ++ s.children.reverse⟩ := by
  obtain ⟨s, top, rfl⟩ := Option.map_eq_some_iff.1 h
  obtain ⟨below, stack⟩ := Array.back?_eq_some_iff.1 top
  exact ⟨below, s, stack, by simp [stack]⟩

/-- Each turn meets one symbol. -/
theorem left_step {w w' : Walk} (h : w.step = some w') : w.left = w'.left + 1 := by
  obtain ⟨below, s, stack, rfl⟩ := exists_of_step h
  simp [left, stack, sizeAll_append, sizeAll_reverse, sizeAll, size_eq s, Nat.add_assoc]

/-- The symbols that the walk has met when the stack is empty. -/
def run (w : Walk) : Array Symbol :=
  match _ : w.step with
  | none => w.met
  | some w' => w'.run
termination_by w.left
decreasing_by
  have turn := left_step ‹w.step = some w'›
  omega

end Walk

/-- The symbol and those below it, parents first. -/
def walk (s : Symbol) : List Symbol := (Walk.start s).run.toList

/-- The walks of symbols side by side, one after the other. -/
def walkAll (ss : List Symbol) : List Symbol := ss.flatMap walk

/-- `t` is the name of a capture with this label. -/
def isNameOf (label : String) (t : CaptureTree) : Bool := t.capture.label = label ++ ".name"

mutual

/-- The symbol of a tree: its name is the first child labelled as one, its children are the
others. -/
def ofTree : CaptureTree → Symbol
  | .mk c ts =>
    let named := (ts.find? (isNameOf c.label)).map (·.capture)
    mk ((named.map (·.text)).getD c.text) (Label.kind c.label.toList) c.span
      ((named.map (·.span)).getD c.span) (ofChildren c.label ts)

/-- The symbols of a definition's children, without the first that is its name. -/
def ofChildren (label : String) : List CaptureTree → List Symbol
  | [] => []
  | t :: ts => if isNameOf label t then ofTrees ts else ofTree t :: ofChildren label ts

def ofTrees : List CaptureTree → List Symbol
  | [] => []
  | t :: ts => ofTree t :: ofTrees ts

end

end Symbol

/-- The outline of captures in document order. -/
def outline (cs : List Capture) : List Symbol := Symbol.ofTrees (Forest.ofCaptures cs)

end CodeIndex
