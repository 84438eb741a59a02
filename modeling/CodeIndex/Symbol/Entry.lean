import CodeIndex.Symbol.Outline

/-!
# What one document contributes to the index

Its definitions are the symbols of its outline, each at its name. Its usages are the captured words,
one for each span, without those that are the name of a definition.
-/

namespace CodeIndex

open Syntax (Capture)

/-- A span of a document. -/
structure Location where
  uri : String
  span : Span
  deriving DecidableEq, Repr, Inhabited, Hashable

/-- A name at a location. The kind of a definition is always known, that of a usage only
sometimes. -/
structure Entry where
  name : String
  kind : Option SymbolKind
  location : Location
  deriving DecidableEq, Repr, Inhabited

/-- The definitions and usages of one document. -/
structure Contribution where
  definitions : List Entry := []
  usages : List Entry := []
  deriving DecidableEq, Repr, Inhabited

/-- The definitions of a document with the given outline captures. -/
def definitionsOf (uri : String) (outlineCaptures : List Capture) : List Entry :=
  (Symbol.walkAll (outline outlineCaptures)).map fun s => ⟨s.name, some s.kind, uri, s.selection⟩

/-- Take up a usage: the first capture of a span gives the name, the first that tells a kind the
kind. -/
def addUsage (uri : String) (usages : List Entry) (c : Capture) : List Entry :=
  let kind := Label.usageKind? c.label.toList
  if usages.any (·.location.span = c.span) then
    usages.map fun u =>
      if u.location.span = c.span && u.kind.isNone then { u with kind } else u
  else usages ++ [⟨c.text, kind, uri, c.span⟩]

/-- The usages of a document, apart from the spans that are declared. -/
def usagesOf (uri : String) (declared : List Span) (captures : List Capture) : List Entry :=
  (captures.filter fun c => !declared.contains c.span).foldl (addUsage uri) []

/-- What a document with the given captures contributes. -/
def Contribution.ofCaptures (uri : String) (outlineCaptures usageCaptures : List Capture) :
    Contribution :=
  let definitions := definitionsOf uri outlineCaptures
  ⟨definitions, usagesOf uri (definitions.map (·.location.span)) usageCaptures⟩

end CodeIndex
