import CodeIndex.Index.Resolve
import CodeIndex.Scan.Sources
import CodeIndex.Search.Batches

/-!
# Workspaces

A workspace holds the open documents and the index of all files. A question about an open document
is answered from its buffer, one about any other file from the file's text on disk. While a document
is open, news of its file leave the index alone.
-/

namespace CodeIndex

open Std (TreeMap)

/-- An open document. -/
structure Buffer where
  languageId : String
  text : String
  version : Int
  deriving DecidableEq, Repr

structure Workspace where
  root : Option String := none
  config : Config := {}
  documents : TreeMap String Buffer := {}
  index : SymbolIndex := {}

namespace Workspace

/-- A workspace with the given settings and nothing in it. -/
def new (config : Config) : Workspace := { config }

variable [Trees] [Digest] [FolderWalk] [Prefilter.Builder]

/-- Take up all source files below a root. Their number is given back. -/
def indexRoot (disk : Disk) (w : Workspace) (root : String) :
    Except ScanError (Nat × Workspace) :=
  (scan disk w.config root).map fun files =>
    let queued := files.foldl (fun i f => i.fileAdded f.uri) w.index
    (files.length, { w with index := (queued.update disk.read).2 })

/-- The workspace of a root, with the settings that lie in it. -/
def «open» (disk : Disk) (root : String) : Except ScanError Workspace :=
  ((new (Config.load disk.read root)).indexRoot disk root).map fun (_, w) =>
    { w with root := some root }

/-! ## Open documents -/

def openDocument (w : Workspace) (uri languageId text : String) (version : Int) : Workspace :=
  { w with
    documents := w.documents.insert uri ⟨languageId, text, version⟩
    index := w.index.textGiven uri languageId text }

/-- Change the text of an open document. A change from an older version than the present one, or to
a document that is not open, is refused. -/
def changeDocument (w : Workspace) (uri text : String) (version : Int) : Bool × Workspace :=
  match w.documents[uri]? with
  | none => (false, w)
  | some d =>
    if version < d.version then (false, w)
    else (true, w.openDocument uri d.languageId text version)

/-- Close a document: its file on disk counts again, if it can be one that is indexed. -/
def closeDocument (w : Workspace) (uri : String) : Workspace :=
  if w.documents.contains uri then
    let documents := w.documents.erase uri
    match w.index.cache.obtain uri with
    | .ok (_, cache) => { w with documents, index := { w.index with cache }.fileUpdated uri }
    | .error _ => { w with documents, index := w.index.fileRemoved uri }
  else w

def isOpen (w : Workspace) (uri : String) : Bool := w.documents.contains uri

/-! ## News of files -/

def fileAdded (w : Workspace) (uri : String) : Workspace :=
  if w.isOpen uri then w else { w with index := w.index.fileAdded uri }

def fileUpdated (w : Workspace) (uri : String) : Workspace :=
  if w.isOpen uri then { w with index := { w.index with cache := w.index.cache.invalidate uri } }
  else { w with index := w.index.fileUpdated uri }

def fileRemoved (w : Workspace) (uri : String) : Workspace :=
  if w.isOpen uri then { w with index := { w.index with cache := w.index.cache.remove uri } }
  else { w with index := w.index.fileRemoved uri }

def update (read : Reader) (w : Workspace) : UpdateStats × Workspace :=
  let (stats, index) := w.index.update read
  (stats, { w with index })

/-! ## Questions -/

/-- The language and text at an address: an open document's, or else the file's. -/
def source (read : Reader) (w : Workspace) (uri : String) : Option (String × String) × Workspace :=
  match w.documents[uri]? with
  | some d => (some (d.languageId, d.text), w)
  | none =>
    let (source, cache) := w.index.cache.source read uri
    (source.map fun (language, text) => (language.id, text),
      { w with index := { w.index with cache } })

/-- The document at an address. -/
def document (read : Reader) (w : Workspace) (uri : String) : Option Document × Workspace :=
  let (source, w) := w.source read uri
  (source.bind fun (languageId, text) => Document.parse? languageId text, w)

def outline (read : Reader) (w : Workspace) (uri : String) : Option (List Symbol) × Workspace :=
  let (d, w) := w.document read uri
  (d.map (·.outline), w)

def references (read : Reader) (w : Workspace) (uri : String) (p : Position)
    (includeDeclaration : Bool) : List Location × Workspace :=
  match w.document read uri with
  | (none, w) => ([], w)
  | (some d, w) =>
    let (found, index) := w.index.references read d uri p includeDeclaration
    (found, { w with index })

def definitions (read : Reader) (w : Workspace) (uri : String) (p : Position) :
    List Location × Workspace :=
  match w.document read uri with
  | (none, w) => ([], w)
  | (some d, w) => (w.index.definitions d uri p, w)

def highlights (read : Reader) (w : Workspace) (uri : String) (p : Position) :
    List Span × Workspace :=
  match w.document read uri with
  | (none, w) => ([], w)
  | (some d, w) => (d.highlights p, w)

def completions (read : Reader) (w : Workspace) (uri : String) (p : Position) :
    TreeMap String Completion × Workspace :=
  match w.document read uri with
  | (none, w) => ({}, w)
  | (some d, w) => (w.index.completions d p, w)

/-- All open documents in order of their addresses, and all known files. -/
def searchSpace (w : Workspace) : SearchSpace where
  openTexts := w.documents.toList.map fun (uri, d) => ⟨uri, d.languageId, d.text⟩
  uris := w.index.snapshot.uris
  batchSize := w.config.search.batchSize

/-- Search for symbols, in the mode that the settings give unless another is asked for. -/
def search (read : Reader) (w : Workspace) (query : String) (mode : Option SearchMode)
    (cancelled : Bool) : List NamedSymbol × Workspace :=
  let cancel : Cancellation := if cancelled then some 0 else none
  let st := w.searchSpace.run read w.index.cache query (mode.getD w.config.search.mode) cancel
  (st.symbols, { w with index := { w.index with cache := st.cache } })

end Workspace

end CodeIndex
