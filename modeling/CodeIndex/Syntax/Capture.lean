import CodeIndex.Syntax.Query
import CodeIndex.Unicode.Blank

/-!
# Captures of a document

The nodes that a query captures, as labelled pieces of text in document order.
-/

namespace CodeIndex.Syntax

/-- A labelled piece of a document. -/
structure Capture where
  label : String
  span : Span
  text : String
  deriving DecidableEq, Repr, Inhabited

/-- A node under a label, as a match reports it. -/
abbrev Report := String × NodeInfo

/-- Reports that agree in label and range of bytes are one. -/
def Report.Same (a b : Report) : Prop :=
  a.1 = b.1 ∧ a.2.startByte = b.2.startByte ∧ a.2.stopByte = b.2.stopByte

instance (a b : Report) : Decidable (Report.Same a b) :=
  inferInstanceAs (Decidable (_ ∧ _ ∧ _))

/-- Keep the first of each set of equal reports. -/
def firstReports (rs : List Report) : List Report :=
  (rs.foldl (fun kept r => if kept.any fun k => decide (Report.Same k r) then kept else r :: kept)
    []).reverse

/-- Document order: by start, and the longer span first when two start together. -/
def Capture.before (a b : Capture) : Bool :=
  a.span.start < b.span.start || (a.span.start = b.span.start && b.span.stop ≤ a.span.stop)

def Capture.ofReport (source : String) (r : Report) : Capture :=
  ⟨r.1, r.2.span, r.2.textIn source⟩

/-- The captures of a stream of reports, in document order. Captures with equal spans keep the order
of their first reports. -/
def Capture.collect (source : String) (rs : List Report) : List Capture :=
  ((firstReports rs).map (Capture.ofReport source)).mergeSort Capture.before

/-- The captures of a query in a parsed text. -/
def captures (source : String) (root : Node) (q : Query) : List Capture :=
  Capture.collect source ((q.matches root).flatMap (·.captures))

/-- The word at exactly this position: a named node without children, with some text in it. -/
def leafAt (source : String) (root : Node) (p : Position) : Option (String × Span) :=
  let n := root.at? p
  let text := n.info.textIn source
  if !n.info.named || !n.children.isEmpty || Unicode.isBlankText text then none
  else some (text, n.info.span)

/-- The word at a position. Right after a word, the position one column to the left counts too. -/
def identifierAt (source : String) (root : Node) (p : Position) : Option (String × Span) :=
  (leafAt source root p).or
    (if p.character = 0 then none else leafAt source root ⟨p.line, p.character - 1⟩)

end CodeIndex.Syntax
