import CodeIndex.Index.Update
import CodeIndex.Symbol.References

/-!
# Questions about a position

The word at a position of a document is looked up in the document and in the index. Only a search
for references brings the index up to date first.
-/

namespace CodeIndex

open Std (TreeMap)

/-- A word that completes what is being typed. -/
structure Completion where
  label : String
  kind : Option SymbolKind := none
  deriving DecidableEq, Repr

namespace SymbolIndex

/-- The references to the word at a position. -/
def references [Trees] [Digest] (read : Reader) (i : SymbolIndex) (d : Document) (uri : String)
    (p : Position) (includeDeclaration : Bool) : List Location × SymbolIndex :=
  match d.identifierAt p with
  | none => ([], i)
  | some (word, _) =>
    let (_, i) := i.update read
    (selectReferences (i.snapshot.usagesOf word) (i.snapshot.definitionsOf word) uri p
      includeDeclaration, i)

/-- The definitions of a word in a document's own outline. -/
def localDefinitions (d : Document) (uri word : String) : List Location :=
  ((Symbol.walkAll d.outline).filter (·.name = word)).map fun s => ⟨uri, s.selection⟩

/-- The definitions of the word at a position: those in the document, or else all that are known. -/
def definitions (i : SymbolIndex) (d : Document) (uri : String) (p : Position) : List Location :=
  match d.identifierAt p with
  | none => []
  | some (word, _) => match localDefinitions d uri word with
    | [] => (i.snapshot.definitionsOf word).map (·.location)
    | own => own

/-- The words of a document, apart from what stands at a position. -/
def localCompletions (d : Document) (p : Position) : List Completion :=
  ((d.captures .identifiers).filter fun c => !decide (c.span.ContainsPosition p)).map fun c =>
    ⟨c.text, none⟩

/-- The words to complete what is typed at a position: those of the document, and over them all
defined names with the kinds of their first definitions. -/
def completions (i : SymbolIndex) (d : Document) (p : Position) : TreeMap String Completion :=
  let known := i.snapshot.definitionNames.map fun (name, kind) => (⟨name, some kind⟩ : Completion)
  (localCompletions d p ++ known).foldl (fun t c => t.insert c.label c) {}

end SymbolIndex

end CodeIndex
