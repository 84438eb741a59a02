import CodeIndex.Symbol.Entry
import Std.Data.TreeMap

/-!
# What is known of all files

A snapshot holds what each file contributes, and for every name the definitions and usages of all
files. The entries of a name stand in the order in which their files were last taken up.
-/

namespace CodeIndex

open Std (TreeMap)

/-- What one file contributes, and the digest of the text that it was found in. -/
structure Slice where
  digest : UInt64
  contribution : Contribution
  deriving DecidableEq, Repr

/-- Entries by name. -/
abbrev EntryTable := TreeMap String (Array Entry)

namespace EntryTable

/-- The entries of a name. -/
def entries (t : EntryTable) (name : String) : List Entry := (t[name]?.getD #[]).toList

/-- Put an entry behind the others of its name. -/
def add (t : EntryTable) (e : Entry) : EntryTable :=
  t.alter e.name fun old => some ((old.getD #[]).push e)

def addAll (t : EntryTable) (es : List Entry) : EntryTable := es.foldl add t

/-- Drop a file's entries of one name; a name that is left without entries goes too. -/
def dropName (uri : String) (t : EntryTable) (name : String) : EntryTable :=
  t.alter name fun old => old.bind fun es =>
    let rest := es.filter (·.location.uri ≠ uri)
    if rest.isEmpty then none else some rest

/-- Drop a file's entries under the names of the given ones. -/
def dropAll (t : EntryTable) (uri : String) (es : List Entry) : EntryTable :=
  ((es.map (·.name)).eraseDups).foldl (dropName uri) t

end EntryTable

structure Snapshot where
  files : TreeMap String Slice := {}
  definitions : EntryTable := {}
  usages : EntryTable := {}

namespace Snapshot

/-- The definitions of a name. -/
def definitionsOf (s : Snapshot) (name : String) : List Entry := s.definitions.entries name

/-- The usages of a name. -/
def usagesOf (s : Snapshot) (name : String) : List Entry := s.usages.entries name

/-- Every defined name in order, with the kind of its first definition. -/
def definitionNames (s : Snapshot) : List (String × SymbolKind) :=
  s.definitions.toList.filterMap fun (name, es) =>
    (es[0]?.bind (·.kind)).map fun kind => (name, kind)

/-- The addresses of all files, in order. -/
def uris (s : Snapshot) : List String := s.files.keys

def containsFile (s : Snapshot) (uri : String) : Bool := s.files.contains uri

def fileCount (s : Snapshot) : Nat := s.files.size

/-- Take out a file with all its entries. -/
def removeFile (s : Snapshot) (uri : String) : Snapshot :=
  match s.files[uri]? with
  | none => s
  | some old => {
    files := s.files.erase uri
    definitions := s.definitions.dropAll uri old.contribution.definitions
    usages := s.usages.dropAll uri old.contribution.usages }

/-- Take up a file, in the place of what was known of it. -/
def insertFile (s : Snapshot) (uri : String) (slice : Slice) : Snapshot :=
  let s := s.removeFile uri
  { files := s.files.insert uri slice
    definitions := s.definitions.addAll slice.contribution.definitions
    usages := s.usages.addAll slice.contribution.usages }

end Snapshot

end CodeIndex
