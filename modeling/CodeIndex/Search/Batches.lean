import CodeIndex.Config
import CodeIndex.Files.Cache
import CodeIndex.Language.Document
import CodeIndex.Search.Prefilter

/-!
# Searching a workspace for symbols

Open documents are searched first. Then all other files are loaded in batches, and those that may
hold a match are searched too. Between batches it is told how many are done. Before each document,
each batch and each loaded file the search looks whether it has been cancelled, and if so it ends
with what it has found.
-/

namespace CodeIndex

/-- An open document as a search sees it. -/
structure OpenText where
  uri : String
  languageId : String
  text : String
  deriving DecidableEq, Repr

/-- What a search looks through. -/
structure SearchSpace where
  openTexts : List OpenText
  /-- The addresses of files; those of open documents among them are skipped. -/
  uris : List String
  batchSize : Nat

/-- What a search has come to: the symbols found, the batches done at each report, and the cache
that the files were loaded into. -/
structure SearchState where
  symbols : List NamedSymbol := []
  progress : List (Nat × Nat) := []
  cache : FileCache

namespace SearchSpace

/-- Lists of at most `n + 1` items, one after the other. -/
def chunks {α : Type} (n : Nat) : List α → List (List α)
  | [] => []
  | x :: xs => (x :: xs.take n) :: chunks n (xs.drop n)
termination_by xs => xs.length
decreasing_by simp only [List.length_drop, List.length_cons]; omega

/-- The files that are not open. -/
def unopened (s : SearchSpace) : List String :=
  s.uris.filter fun u => !s.openTexts.any (·.uri = u)

/-- The files that are not open, in batches. -/
def batches (s : SearchSpace) : List (List String) := chunks (s.batchSize - 1) s.unopened

/-- Load files. Those that cannot be had are left out. -/
def loadAll (read : Reader) : FileCache → List String → List OpenText × FileCache
  | cache, [] => ([], cache)
  | cache, uri :: rest =>
    let (source, cache) := cache.source read uri
    let (others, cache) := loadAll read cache rest
    ((source.map fun (language, text) => ⟨uri, language.id, text⟩).toList ++ others, cache)

/-! ## The search step by step -/

/-- A moment at which a search looks whether it has been cancelled. -/
inductive Moment where
  /-- Before the open document at a place. -/
  | document (place : Nat)
  /-- Before a batch, when so many are done. -/
  | batch (done : Nat)
  /-- Before the loaded file at a place, when so many batches are done. -/
  | file (done place : Nat)

/-- How many batches are done at a moment. -/
def Moment.done : Moment → Nat
  | document _ => 0
  | batch done => done
  | file done _ => done

/-- Search texts one after the other, until the search is cancelled; tell whether it was. -/
def collect (found : OpenText → List NamedSymbol) (cancelled : Nat → Bool) :
    Nat → List OpenText → List NamedSymbol × Bool
  | _, [] => ([], false)
  | place, t :: ts =>
    if cancelled place then ([], true)
    else
      let (symbols, stopped) := collect found cancelled (place + 1) ts
      (found t ++ symbols, stopped)

/-- Search batches, so many of which are done, until the search is cancelled. A batch that is broken
off is not reported. -/
def sweep (read : Reader) (found : OpenText → List NamedSymbol) (cancelled : Moment → Bool)
    (total : Nat) : Nat → SearchState → List (List String) → SearchState
  | _, st, [] => st
  | done, st, batch :: rest =>
    if cancelled (.batch done) then st
    else
      let (loaded, cache) := loadAll read st.cache batch
      let (symbols, stopped) := collect found (fun place => cancelled (.file done place)) 0 loaded
      if stopped then ⟨st.symbols ++ symbols, st.progress, cache⟩
      else
        sweep read found cancelled total (done + 1)
          ⟨st.symbols ++ symbols, st.progress ++ [(done + 1, total)], cache⟩ rest

theorem sweep_cons (read : Reader) (found : OpenText → List NamedSymbol) (cancelled : Moment → Bool)
    (total done : Nat) (st : SearchState) (batch : List String) (rest : List (List String)) :
    sweep read found cancelled total done st (batch :: rest) =
      if cancelled (.batch done) then st
      else
        let loaded := loadAll read st.cache batch
        let texts := collect found (fun place => cancelled (.file done place)) 0 loaded.1
        if texts.2 then ⟨st.symbols ++ texts.1, st.progress, loaded.2⟩
        else
          sweep read found cancelled total (done + 1)
            ⟨st.symbols ++ texts.1, st.progress ++ [(done + 1, total)], loaded.2⟩ rest := rfl

/-- The symbols that a search finds in a text, if it passes the test. -/
def inText [Trees] (test : String → Bool) (query : String) (t : OpenText) : List NamedSymbol :=
  if test t.text then symbolsOf t.uri t.languageId t.text query else []

/-- A search that looks whether it has been cancelled at each moment. Files whose text fails the
test are not parsed. -/
def search [Trees] (s : SearchSpace) (read : Reader) (cache : FileCache) (query : String)
    (mode : SearchMode) (test : String → Bool) (cancelled : Moment → Bool) : SearchState :=
  let (symbols, stopped) :=
    collect (inText (fun _ => true) query) (fun place => cancelled (.document place)) 0 s.openTexts
  match mode with
  | .off => ⟨[], [], cache⟩
  | .documents => ⟨symbols, [], cache⟩
  | .workspace =>
    if stopped then ⟨symbols, [], cache⟩
    else sweep read (inText test query) cancelled s.batches.length 0 ⟨symbols, [], cache⟩ s.batches

end SearchSpace

/-! ## Searches that are cancelled at a report -/

/-- When a search is cancelled: never, before its start, or at the report of so many batches. -/
abbrev Cancellation := Option Nat

/-- The search is cancelled by the time that so many batches are done. -/
def Cancellation.by (c : Cancellation) (done : Nat) : Bool := c.any (· ≤ done)

/-- Search for the symbols that match a query, in files that may hold one. -/
def SearchSpace.run [Trees] [Prefilter.Builder] (s : SearchSpace) (read : Reader)
    (cache : FileCache) (query : String) (mode : SearchMode) (cancel : Cancellation) :
    SearchState :=
  s.search read cache query mode (Prefilter.passes query) fun m => cancel.by m.done

end CodeIndex
