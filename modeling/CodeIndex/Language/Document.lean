import CodeIndex.Language.Facets
import CodeIndex.Symbol.Named
import CodeIndex.Symbol.References

/-!
# Parsed documents

A text together with its syntax tree, and what can be read off it. How texts are parsed is left open
here: whatever the trees are, documents are read off them in the same way.
-/

namespace CodeIndex

open Syntax

/-- A way to parse texts: the syntax tree of each text in each language. -/
class Trees where
  parse : Language → String → Node

structure Document where
  language : Language
  text : String
  root : Node

namespace Document

def parse [Trees] (l : Language) (text : String) : Document := ⟨l, text, Trees.parse l text⟩

/-- Parse a text in the language with the given identifier; an unknown one gives nothing. -/
def parse? [Trees] (languageId text : String) : Option Document :=
  (Language.ofId? languageId).map (parse · text)

def captures (d : Document) (f : Facet) : List Capture :=
  Syntax.captures d.text d.root (d.language.query f)

def identifierAt (d : Document) (p : Position) : Option (String × Span) :=
  Syntax.identifierAt d.text d.root p

def outline (d : Document) : List Symbol := CodeIndex.outline (d.captures .outline)

/-- The spans of the word at a position, within the document. -/
def highlights (d : Document) (p : Position) : List Span :=
  match d.identifierAt p with
  | none => []
  | some (word, _) =>
    let spans := ((d.captures .identifiers).filter (·.text = word)).map (·.span)
    spans.foldr (fun s out => if out.head? = some s then out else s :: out) []

/-- What the document contributes to the index under the given address. -/
def contribution (d : Document) (uri : String) : Contribution :=
  .ofCaptures uri (d.captures .outline) (d.captures .usages)

/-- The named definitions that match a query. -/
def symbols (d : Document) (uri query : String) : List NamedSymbol :=
  matchingSymbols uri query (d.captures .outline)

end Document

/-- What a text contributes to the index; a language that is not supported contributes nothing. -/
def contributionOf [Trees] (uri languageId text : String) : Contribution :=
  match Document.parse? languageId text with
  | some d => d.contribution uri
  | none => {}

/-- The definitions of a text that match a query. -/
def symbolsOf [Trees] (uri languageId text query : String) : List NamedSymbol :=
  match Document.parse? languageId text with
  | some d => d.symbols uri query
  | none => []

end CodeIndex
