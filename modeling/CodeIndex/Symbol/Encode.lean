import CodeIndex.Json.Basic
import CodeIndex.Symbol.Named

/-!
# Symbols as JSON

The same shapes are used in answers on the command line and on the wire, but for two things: on the
wire a location's span is called its range, and kinds are numbers.
-/

namespace CodeIndex

/-- How kinds and locations are written. -/
structure Encoding where
  kind : SymbolKind → Json
  /-- The key of a location's span. -/
  span : String

namespace Encoding

/-- Kinds by name. -/
def named : Encoding := ⟨fun k => k.name, "span"⟩

/-- Kinds by number. -/
def wire : Encoding := ⟨fun k => k.code, "range"⟩

def position (p : Position) : Json := .obj [("line", p.line), ("character", p.character)]

def ofSpan (s : Span) : Json := .obj [("start", position s.start), ("end", position s.stop)]

def location (e : Encoding) (l : Location) : Json := .obj [("uri", l.uri), (e.span, ofSpan l.span)]

mutual

def symbol (e : Encoding) : Symbol → Json
  | .mk name kind range selection children => .obj [
      ("name", name), ("kind", e.kind kind), ("range", ofSpan range),
      ("selectionRange", ofSpan selection), ("children", .arr (symbols e children))]

def symbols (e : Encoding) : List Symbol → List Json
  | [] => []
  | s :: ss => symbol e s :: symbols e ss

end

def namedSymbol (e : Encoding) (s : NamedSymbol) : Json :=
  .obj <| [("name", .str s.name), ("kind", e.kind s.kind)] ++
    (s.container.map fun c => ("containerName", Json.str c)).toList ++
    [("location", e.location s.location)]

end Encoding

end CodeIndex
