import CodeIndex.Symbol.Entry
import CodeIndex.Search.Fuzzy

/-!
# The named definitions of a document

A name capture belongs to the capture right before it if that one contains it and its label extends
that one's label. The owner gives the location; the nearest enclosing definition that has a name is
the container.
-/

namespace CodeIndex

open Syntax (Capture)

/-- A definition as a symbol search reports it. -/
structure NamedSymbol where
  name : String
  kind : SymbolKind
  container : Option String
  location : Location
  deriving DecidableEq, Repr, Inhabited

/-- A definition that is open at some point of a document, with its name once that has been met. -/
structure OpenDefinition where
  capture : Capture
  name : Option String := none
  deriving Repr, Inhabited

/-- The definitions around a span, innermost first: those that do not contain it are closed. -/
def enclosing (s : Span) (ds : List OpenDefinition) : List OpenDefinition :=
  ds.dropWhile fun d => !d.capture.span.Contains s

/-- The named definitions from a point of a document on. `ds` are the open definitions, innermost
first; `fresh` tells that the capture right before is the innermost of them. -/
def namedFrom (uri : String) : List OpenDefinition → Bool → List Capture → List NamedSymbol
  | _, _, [] => []
  | ds, fresh, c :: cs =>
    let around := enclosing c.span ds
    if !Label.isName c.label.toList then
      namedFrom uri ({ capture := c } :: around) true cs
    else
      let symbol (container : Option String) (span : Span) : NamedSymbol :=
        ⟨c.text, Label.kind c.label.toList, container, ⟨uri, span⟩⟩
      match around with
      | d :: outer =>
        if fresh && around.length = ds.length &&
            Label.extends_ c.label.toList d.capture.label.toList then
          symbol (outer.findSome? (·.name)) d.capture.span ::
            namedFrom uri ({ d with name := d.name.or (some c.text) } :: outer) false cs
        else
          symbol (around.findSome? (·.name)) c.span :: namedFrom uri around false cs
      | [] => symbol none c.span :: namedFrom uri [] false cs

/-- The named definitions of a document with the given outline captures. -/
def namedSymbols (uri : String) (cs : List Capture) : List NamedSymbol := namedFrom uri [] false cs

/-- Those whose name matches the query. -/
def matchingSymbols (uri query : String) (cs : List Capture) : List NamedSymbol :=
  (namedSymbols uri cs).filter fun s => Fuzzy.fuzzyMatch query s.name

end CodeIndex
