import CodeIndex.Symbol.Entry

/-!
# Choosing among references

The entries that share a name are put into buckets by their kinds. The kind of the entry under the
cursor tells which are given: its own bucket and that of unknown kind, or all where nothing is
known.
-/

namespace CodeIndex

/-- The entry covers the position. -/
def Entry.At (uri : String) (p : Position) (e : Entry) : Prop :=
  e.location.uri = uri ∧ e.location.span.ContainsPosition p

instance (uri : String) (p : Position) (e : Entry) : Decidable (e.At uri p) :=
  inferInstanceAs (Decidable (_ ∧ _))

/-- The locations of entries by kind, in the order in which the kinds were met. -/
abbrev Buckets := List (Option SymbolKind × Array Location)

namespace Buckets

/-- Add an entry to the bucket of its kind, or open one for it at the end. -/
def push : Buckets → Entry → Buckets
  | [], e => [(e.kind, #[e.location])]
  | (k, ls) :: rest, e =>
    if k = e.kind then (k, ls.push e.location) :: rest else (k, ls) :: push rest e

/-- The bucket of a kind, empty if there is none. -/
def ofKind (b : Buckets) (kind : Option SymbolKind) : List Location :=
  ((b.lookup kind).getD #[]).toList

/-- All locations, bucket after bucket. -/
def all (b : Buckets) : List Location := b.flatMap (·.2.toList)

end Buckets

/-- The entry under the cursor: a usage if there is one, else a definition. -/
def entryAt (usages definitions : List Entry) (uri : String) (p : Position) : Option Entry :=
  (usages.find? fun e => e.At uri p).or (definitions.find? fun e => e.At uri p)

/-- The locations of the entries that may mean the same as the one under the cursor. -/
def selectReferences (usages definitions : List Entry) (uri : String) (p : Position)
    (includeDeclaration : Bool) : List Location :=
  if usages.isEmpty && definitions.isEmpty then []
  else
    let entries := usages ++ (if includeDeclaration then definitions else [])
    let buckets : Buckets := entries.foldl .push []
    match (entryAt usages definitions uri p).bind (·.kind) with
    | none => buckets.all
    | some kind => buckets.ofKind (some kind) ++ buckets.ofKind none

end CodeIndex
