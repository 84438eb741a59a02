import CodeIndex.Files.Cache
import CodeIndex.Index.Snapshot
import CodeIndex.Language.Document

/-!
# Keeping the index up to date

News of files only wait in a queue, the last news of each file alone. An update takes them all: it
loads the files that have to be read again and makes a new snapshot. Texts that have not changed
keep what is known of them: that a text is the same as before is told by its digest.
-/

namespace CodeIndex

open Std (TreeMap)

/-- A way to take digests of texts. Different texts may have the same digest. -/
class Digest where
  ofText : String → UInt64

/-- What a text contributes, with the digest of the text. -/
def Slice.ofText [Trees] [Digest] (uri languageId text : String) : Slice :=
  ⟨Digest.ofText text, contributionOf uri languageId text⟩

/-- What is to be done about a file. -/
inductive Change where
  /-- Read the file. -/
  | reload
  /-- Take this text for the file's. -/
  | text (languageId text : String)
  | remove
  deriving DecidableEq, Repr

/-- What becomes of a file in an update. -/
inductive Outcome where
  | replace (slice : Slice)
  | unchanged
  | remove
  deriving DecidableEq, Repr

/-- How many files an update took up, left as they were and took out. -/
structure UpdateStats where
  indexed : Nat := 0
  unchanged : Nat := 0
  removed : Nat := 0
  deriving DecidableEq, Repr

structure SymbolIndex where
  cache : FileCache := {}
  queue : TreeMap String Change := {}
  snapshot : Snapshot := {}

namespace SymbolIndex

/-! ## News -/

/-- Put news of a file in the queue, in the place of older news of it. -/
def enqueue (i : SymbolIndex) (uri : String) (change : Change) : SymbolIndex :=
  { i with queue := i.queue.insert uri change }

def fileAdded (i : SymbolIndex) (uri : String) : SymbolIndex := i.enqueue uri .reload

/-- The file has changed: what was read of it is forgotten. -/
def fileUpdated (i : SymbolIndex) (uri : String) : SymbolIndex :=
  { i with cache := i.cache.invalidate uri }.enqueue uri .reload

def fileRemoved (i : SymbolIndex) (uri : String) : SymbolIndex :=
  { i with cache := i.cache.remove uri }.enqueue uri .remove

/-- The file's text is the given one, whatever is on disk. -/
def textGiven (i : SymbolIndex) (uri languageId text : String) : SymbolIndex :=
  i.enqueue uri (.text languageId text)

def hasPending (i : SymbolIndex) : Bool := !i.queue.isEmpty

/-! ## Updates -/

/-- The language and text that a change asks to take up. -/
def changeSource (read : Reader) (cache : FileCache) (uri : String) :
    Change → Option (String × String) × FileCache
  | .remove => (none, cache)
  | .text languageId text => (some (languageId, text), cache)
  | .reload =>
    let (source, cache) := cache.source read uri
    (source.map fun (language, text) => (language.id, text), cache)

/-- What becomes of a file that is to have the given text, or none. -/
def outcome [Trees] [Digest] (current : Snapshot) (uri : String) :
    Option (String × String) → Outcome
  | none => .remove
  | some (languageId, text) =>
    if (current.files[uri]?).any (·.digest = Digest.ofText text) then .unchanged
    else .replace (Slice.ofText uri languageId text)

/-- The outcomes of changes, which may put files into the cache. -/
def outcomes [Trees] [Digest] (read : Reader) (current : Snapshot) :
    FileCache → List (String × Change) → List (String × Outcome) × FileCache
  | cache, [] => ([], cache)
  | cache, (uri, change) :: rest =>
    let (source, cache) := changeSource read cache uri change
    let (others, cache) := outcomes read current cache rest
    ((uri, outcome current uri source) :: others, cache)

/-- Put the outcome for one file into effect. -/
def applyOutcome : Snapshot × UpdateStats → String × Outcome → Snapshot × UpdateStats
  | (s, stats), (uri, .replace slice) =>
    (s.insertFile uri slice, { stats with indexed := stats.indexed + 1 })
  | (s, stats), (_, .unchanged) => (s, { stats with unchanged := stats.unchanged + 1 })
  | (s, stats), (uri, .remove) =>
    (s.removeFile uri,
      if s.containsFile uri then { stats with removed := stats.removed + 1 } else stats)

/-- Take all news from the queue into a new snapshot. -/
def update [Trees] [Digest] (read : Reader) (i : SymbolIndex) : UpdateStats × SymbolIndex :=
  let (outcomes, cache) := outcomes read i.snapshot i.cache i.queue.toList
  let (snapshot, stats) := outcomes.foldl applyOutcome (i.snapshot, {})
  (stats, { cache, queue := {}, snapshot })

end SymbolIndex

/-- The digests that the program itself takes. -/
instance (priority := low) : Digest := ⟨hash⟩

end CodeIndex
