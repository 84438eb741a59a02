import CodeIndex.Proofs.Workspace.Buffers
import Mathlib.Algebra.Order.Floor.Div
import Mathlib.Data.Nat.Basic

/-!
# Searching in batches

A search loads the files that are not open in batches, into a cache that other searches use too.
None of this shows in what it finds: the symbols of the open documents, followed by those of the
files one after the other.

**What batches do** (`SearchSpace.Through`). When batches are through, the symbols of their files
have been added, there is a report for each, and the addresses of all other files are as before.
Loads do not change what is seen at an address (`FileCache.Loads.view`), so each batch finds what
the first state shows.

Main results: `through_sweep`, `run_uncancelled`.
-/

namespace CodeIndex

variable {read : Reader} {c : FileCache}

namespace SearchSpace

/-! ## Chunks of a list -/

section

variable {α : Type} (n : Nat)

theorem chunks_cons (x : α) (xs : List α) :
    chunks n (x :: xs) = (x :: xs).take (n + 1) :: chunks n ((x :: xs).drop (n + 1)) := by
  rw [chunks, List.take_succ_cons, List.drop_succ_cons]

theorem flatten_chunks (xs : List α) : (chunks n xs).flatten = xs := by
  induction xs using chunks.induct n with
  | case1 => simp [chunks]
  | case2 x xs ih =>
    rw [chunks_cons, List.flatten_cons, List.drop_succ_cons, ih, ← List.drop_succ_cons (a := x),
      List.take_append_drop]

theorem flatten_take_chunks (k : Nat) (xs : List α) :
    ((chunks n xs).take k).flatten = xs.take (k * (n + 1)) := by
  induction k generalizing xs with
  | zero => simp
  | succ k ih =>
    cases xs with
    | nil => simp [chunks]
    | cons x xs =>
      rw [chunks_cons, List.take_succ_cons, List.flatten_cons, ih, Nat.succ_mul,
        Nat.add_comm (k * _), ← List.take_add]

theorem length_chunks (xs : List α) : (chunks n xs).length = xs.length ⌈/⌉ (n + 1) := by
  have ceil (m : Nat) : m ⌈/⌉ (n + 1) = (m + n) / (n + 1) := by
    rw [Nat.ceilDiv_eq_add_pred_div]; rfl
  induction xs using chunks.induct n with
  | case1 => simp [chunks]
  | case2 x xs ih =>
    rw [chunks, List.length_cons, List.length_cons, ih, ceil, ceil, List.length_drop]
    rcases Nat.lt_or_ge xs.length n with short | full
    · have none : xs.length - n + n = n := by omega
      rw [none, Nat.div_eq_of_lt n.lt_succ_self]
      exact (Nat.div_eq_of_lt_le (by omega) (by omega)).symm
    · rw [Nat.sub_add_cancel full, ← Nat.add_div_right _ n.succ_pos]
      congr 1
      omega

end

variable (s : SearchSpace)

theorem flatten_batches : s.batches.flatten = s.unopened := flatten_chunks _ _

theorem flatten_take_batches (k : Nat) :
    (s.batches.take k).flatten = s.unopened.take (k * max 1 s.batchSize) := by
  rw [batches, flatten_take_chunks]
  congr 2
  omega

theorem length_batches : s.batches.length = s.unopened.length ⌈/⌉ max 1 s.batchSize := by
  rw [batches, length_chunks]
  congr 1
  omega

/-! ## Steps of the search -/

theorem collect_never (found : OpenText → List NamedSymbol) (place : Nat) (ts : List OpenText) :
    collect found (fun _ => false) place ts = (ts.flatMap found, false) := by
  induction ts generalizing place with
  | nil => rfl
  | cons t ts ih => simp [collect, ih]

/-! ## Loaded files -/

/-- The text at an address, as a search loads it. -/
def textAt? (read : Reader) (c : FileCache) (uri : String) : Option OpenText :=
  (c.view read uri).map fun (language, text) => ⟨uri, language.id, text⟩

/-- What loading files gives and leaves behind. -/
structure Loaded (read : Reader) (c : FileCache) (uris : List String)
    (r : List OpenText × FileCache) : Prop where
  texts : r.1 = uris.flatMap fun uri => (textAt? read c uri).toList
  loads : FileCache.Loads read c r.2
  untouched : ∀ v ∉ uris, r.2.get? v = c.get? v

theorem textAt?_congr {c' : FileCache} (same : ∀ uri, c'.view read uri = c.view read uri) :
    textAt? read c' = textAt? read c := by
  funext uri
  rw [textAt?, textAt?, same]

theorem loaded_loadAll (valid : c.Valid) (read : Reader) (uris : List String) :
    Loaded read c uris (loadAll read c uris) := by
  induction uris generalizing c with
  | nil => exact ⟨rfl, valid.loads_refl read, fun _ _ => rfl⟩
  | cons uri uris ih =>
    have got := valid.source read uri
    have rest := ih got.valid
    refine ⟨?_, got.loads.trans rest.loads, fun v other => ?_⟩
    · show (Option.map _ (c.source read uri).1).toList ++
        (loadAll read (c.source read uri).2 uris).1 = _
      rw [got.found, rest.texts, textAt?_congr got.loads.view, List.flatMap_cons]
      rfl
    · rw [List.mem_cons, not_or] at other
      exact (rest.untouched v other.2).trans (FileCache.get?_source read other.1)

variable [Trees]

/-- The symbols of open documents that match. -/
def openSymbols (s : SearchSpace) (query : String) : List NamedSymbol :=
  s.openTexts.flatMap fun t => symbolsOf t.uri t.languageId t.text query

/-- The symbols that a search finds in the file at an address, if its text can be had and passes the
test. -/
def inFile (read : Reader) (c : FileCache) (test : String → Bool) (query uri : String) :
    List NamedSymbol :=
  match c.view read uri with
  | some (language, text) => if test text then symbolsOf uri language.id text query else []
  | none => []

theorem inFile_congr {c' : FileCache} (same : ∀ uri, c'.view read uri = c.view read uri)
    (test : String → Bool) (query : String) :
    inFile read c' test query = inFile read c test query := by
  funext uri
  rw [inFile, inFile, same]

theorem Loaded.flatMap_inText {uris : List String} {r : List OpenText × FileCache}
    (loaded : Loaded read c uris r) (test : String → Bool) (query : String) :
    r.1.flatMap (inText test query) = uris.flatMap (inFile read c test query) := by
  rw [loaded.texts, List.flatMap_assoc]
  refine List.flatMap_congr fun uri _ => ?_
  rw [textAt?, inFile]
  cases c.view read uri with
  | none => rfl
  | some source => exact List.flatMap_singleton ..

/-- The symbols of the files of a batch, followed by those of other batches that are loaded
later. -/
theorem Loaded.flatMap_append {batch : List String} {r : List OpenText × FileCache}
    (loaded : Loaded read c batch r) (test : String → Bool) (query : String)
    (batches : List (List String)) :
    r.1.flatMap (inText test query) ++ batches.flatten.flatMap (inFile read r.2 test query) =
      (batch :: batches).flatten.flatMap (inFile read c test query) := by
  rw [loaded.flatMap_inText, inFile_congr loaded.loads.view, List.flatten_cons, List.flatMap_append]

theorem openSymbols_eq (query : String) :
    s.openSymbols query = s.openTexts.flatMap (inText (fun _ => true) query) := rfl

/-! ## What batches do -/

/-- What has happened to a state when batches are through, the first of them after `done` others. -/
structure Through (found : String → List NamedSymbol) (total done : Nat)
    (batches : List (List String)) (st st' : SearchState) : Prop where
  symbols : st'.symbols = st.symbols ++ batches.flatten.flatMap found
  progress : st'.progress = st.progress ++ (List.range' (done + 1) batches.length).map (·, total)
  untouched : ∀ v ∉ batches.flatten, st'.cache.get? v = st.cache.get? v

variable {query cancel total}

theorem Through.cons {test : String → Bool} {done : Nat} {batch : List String}
    {batches : List (List String)} {st st' : SearchState} {r : List OpenText × FileCache}
    (loaded : Loaded read st.cache batch r)
    (rest : Through (inFile read r.2 test query) total (done + 1) batches
      ⟨st.symbols ++ r.1.flatMap (inText test query), st.progress ++ [(done + 1, total)], r.2⟩
      st') :
    Through (inFile read st.cache test query) total done (batch :: batches) st st' := by
  refine ⟨?_, ?_, fun v other => ?_⟩
  · rw [rest.symbols, List.append_assoc, loaded.flatMap_append]
  · rw [rest.progress, List.length_cons, List.range'_succ, List.map_cons, List.append_assoc,
      List.singleton_append]
  · rw [List.flatten_cons, List.mem_append, not_or] at other
    exact (rest.untouched v other.2).trans (loaded.untouched v other.1)

theorem through_sweep (test : String → Bool) (done : Nat) (st : SearchState)
    (valid : st.cache.Valid) (batches : List (List String)) :
    Through (inFile read st.cache test query) total done batches st
      (sweep read (inText test query) (fun _ => false) total done st batches) := by
  induction batches generalizing done st with
  | nil => exact ⟨(List.append_nil _).symm, (List.append_nil _).symm, fun _ _ => rfl⟩
  | cons batch batches ih =>
    have loaded := loaded_loadAll valid read batch
    rw [sweep_cons, if_neg Bool.false_ne_true]
    simp only [collect_never, if_neg Bool.false_ne_true]
    exact .cons loaded (@ih (done + 1) ⟨_, _, (loadAll read st.cache batch).2⟩ loaded.loads.valid)

theorem search_never (c : FileCache) (query : String) (test : String → Bool) :
    s.search read c query .workspace test (fun _ => false) =
      sweep read (inText test query) (fun _ => false) s.batches.length 0
        ⟨s.openSymbols query, [], c⟩ s.batches := by
  simp only [search, collect_never, if_neg Bool.false_ne_true, ← openSymbols_eq]

/-- What a search of all files does if it is not cancelled. -/
theorem through_search (valid : c.Valid) (test : String → Bool) :
    Through (inFile read c test query) s.batches.length 0 s.batches
      ⟨s.openSymbols query, [], c⟩
      (s.search read c query .workspace test fun _ => false) := by
  rw [search_never]
  exact through_sweep test 0 ⟨_, _, c⟩ valid s.batches

theorem symbols_search (valid : c.Valid) (test : String → Bool) :
    (s.search read c query .workspace test fun _ => false).symbols =
      s.openSymbols query ++ s.unopened.flatMap (inFile read c test query) := by
  rw [(s.through_search valid test).symbols, flatten_batches]

variable [Prefilter.Builder]

theorem run_none (c : FileCache) (mode : SearchMode) :
    s.run read c query mode none =
      s.search read c query mode (Prefilter.passes query) fun _ => false := rfl

theorem symbols_run_documents (c : FileCache) (query : String) :
    (s.run read c query .documents none).symbols = s.openSymbols query := by
  rw [run_none, openSymbols_eq, search, collect_never]

/-- What a search of all files finds if it is not cancelled. -/
theorem symbols_run (valid : c.Valid) :
    (s.run read c query .workspace none).symbols =
      s.openSymbols query ++ s.unopened.flatMap (inFile read c (Prefilter.passes query) query) := by
  rw [run_none, symbols_search s valid]

end SearchSpace

/-! ## A small example -/

namespace Example

/-- A text with one class. -/
def fooBar : String := "class fooBar:0"

/-- A parser that knows the tree of this text in Python. -/
@[reducible]
def classes : Trees :=
  let node (kind : String) (field : Option String) (start stop index : Nat)
      (children : List Syntax.Node) : Syntax.Node :=
    .mk { kind, named := true, field, moreInField := false, startByte := start, stopByte := stop,
          span := ⟨⟨0, start⟩, ⟨0, stop⟩⟩, index } children
  let definition := node "class_definition" none 0 14 1 [node "identifier" (some "name") 6 12 2 []]
  ⟨fun _ text => if text = fooBar then node "module" none 0 14 0 [definition] else default⟩

theorem captures_of_ordered {source : String} {root : Syntax.Node} {q : Syntax.Query}
    {cs : List Syntax.Capture}
    (reported : (Syntax.firstReports ((q.matches root).flatMap (·.captures))).map
      (Syntax.Capture.ofReport source) = cs)
    (ordered : cs.Pairwise fun a b => a.before b = true) : Syntax.captures source root q = cs :=
  (List.mergeSort_of_pairwise (reported ▸ ordered)).trans reported

/-- A disk with this text under every path. -/
def everywhere : Reader := fun _ => .ok fooBar.toUTF8

/-- The class as a search finds it in a file. -/
def fooBarIn (uri : String) : NamedSymbol :=
  ⟨"fooBar", .class, none, ⟨uri, ⟨⟨0, 0⟩, ⟨0, 14⟩⟩⟩⟩

theorem captures_fooBar : (@Document.parse classes .python fooBar).captures .outline =
    [⟨"definition.class", ⟨⟨0, 0⟩, ⟨0, 14⟩⟩, fooBar⟩,
      ⟨"definition.class.name", ⟨⟨0, 6⟩, ⟨0, 12⟩⟩, "fooBar"⟩] :=
  captures_of_ordered (by decide +kernel) (by decide)

theorem symbolsOf_fooBar (uri query : String) : @symbolsOf classes uri "python" fooBar query =
    if Fuzzy.fuzzyMatch query "fooBar" then [fooBarIn uri] else [] := by
  show matchingSymbols uri query ((@Document.parse classes .python fooBar).captures .outline) = _
  rw [captures_fooBar, matchingSymbols]
  show [fooBarIn uri].filter _ = _
  rw [List.filter_singleton, cond_eq_ite]
  rfl

theorem textAt_everywhere (path : String) : textAt everywhere path = some fooBar := by
  show textOf fooBar.toUTF8 = some fooBar
  decide +kernel

theorem view_everywhere {uri path : String} {language : Language}
    (h : fileAt uri = .ok (path, language)) :
    FileCache.view {} everywhere uri = some (language, fooBar) := by
  simp only [FileCache.view, h, FileCache.kept_empty, Option.none_or, textAt_everywhere,
    Option.map_some]

theorem inFile_fooBar {uri path : String} (h : fileAt uri = .ok (path, .python))
    (test : String → Bool) (query : String) :
    @SearchSpace.inFile classes everywhere {} test query uri =
      if test fooBar && Fuzzy.fuzzyMatch query "fooBar" then [fooBarIn uri] else [] := by
  have found := symbolsOf_fooBar uri query
  simp only [SearchSpace.inFile, view_everywhere h]
  show ite _ (@symbolsOf classes uri "python" fooBar query) _ = _
  rw [found]
  cases test fooBar <;> rfl

theorem passes_fooBar :
    (Prefilter.passes "foo" fooBar && Fuzzy.fuzzyMatch "foo" "fooBar") = true := by decide

end Example

/-! ## Searches that are not cancelled -/

namespace SearchSpace

/-- **A search that is not cancelled finds the symbols of the open documents and then those of the
other files in their order, whatever the size of its batches, and reports each batch.** -/
theorem run_uncancelled [Trees] [Prefilter.Builder] (s : SearchSpace) (valid : c.Valid)
    (query : String) :
    (s.run read c query .workspace none).symbols =
        s.openSymbols query ++ s.unopened.flatMap (inFile read c (Prefilter.passes query) query) ∧
      (s.run read c query .workspace none).progress =
        (List.range' 1 (s.unopened.length ⌈/⌉ max 1 s.batchSize)).map
          (·, s.unopened.length ⌈/⌉ max 1 s.batchSize) ∧
      ∀ n, ({ s with batchSize := n }.run read c query .workspace none).symbols =
        (s.run read c query .workspace none).symbols := by
  refine ⟨s.symbols_run valid, ?_, fun n => ?_⟩
  · rw [run_none, (s.through_search valid _).progress, length_batches]
    rfl
  · rw [symbols_run _ valid, symbols_run _ valid]
    rfl

/-- Two files of which one is not open, each named twice, and one that is not supported. -/
theorem run_uncancelled_fooBar :
    let _ := Example.classes
    let s : SearchSpace := ⟨[⟨"file:///o.py", "python", Example.fooBar⟩],
      ["file:///m.py", "file:///o.py", "file:///m.txt", "file:///m.py"], 0⟩
    FileCache.Valid {} ∧
      (s.run Example.everywhere {} "foo" .workspace none).symbols =
        [Example.fooBarIn "file:///o.py", Example.fooBarIn "file:///m.py",
          Example.fooBarIn "file:///m.py"] ∧
      (s.run Example.everywhere {} "foo" .workspace none).progress = [(1, 3), (2, 3), (3, 3)] := by
  intro _ s
  have found := @run_uncancelled Example.everywhere {} Example.classes .own s
    FileCache.valid_empty "foo"
  refine ⟨FileCache.valid_empty, ?_, ?_⟩
  · have other : s.unopened = ["file:///m.py", "file:///m.txt", "file:///m.py"] := by decide
    have none : fileAt "file:///m.txt" = .error (.unsupported "/m.txt") := by decide +kernel
    have opened : s.openSymbols "foo" = [Example.fooBarIn "file:///o.py"] := by
      show symbolsOf _ "python" Example.fooBar _ ++ [] = _
      rw [Example.symbolsOf_fooBar, List.append_nil]
      rfl
    have nothing :
        inFile Example.everywhere {} (Prefilter.passes "foo") "foo" "file:///m.txt" = [] := by
      simp only [inFile, FileCache.view, none]
    rw [found.1, opened, other]
    simp only [List.flatMap_cons, Example.inFile_fooBar Example.fileAt_m, nothing,
      Example.passes_fooBar]
    rfl
  · rw [found.2.1]
    decide

end SearchSpace

end CodeIndex
