import CodeIndex.Proofs.Search.Batches
import CodeIndex.Proofs.Search.Prefilter
import Mathlib.Data.List.Flatten

/-!
# What a query finds

The symbols of a text that match a query are some of its symbols, in their order, and each as it
would be without the query. So the results of two queries, or with and without the prefilter, can be
compared symbol by symbol.

**Longer queries (`run_narrows`).** Who types on finds some of what was found before, in the same
order. What the matcher and the prefilter let through for a query, they let through for each
beginning of it; for the prefilter this needs a query that is short enough to be tested for.

**The prefilter (`run_eq_untested_iff`).** A search finds all that it would find without the
prefilter just when each text with a match shows the query. A text may fail to where a match begins
at a capital letter inside a name (`hump_hidden`), or after a separator other than `_` and `-`,
or where the letters are not in one word.

Main results: `run_narrows`, `run_eq_untested_iff`.
-/

namespace CodeIndex

/-! ## Lists in parts -/

theorem flatMap_eq_iff_of_sublist {α β : Type} {f g : α → List β} (xs : List α)
    (part : ∀ x, (f x).Sublist (g x)) :
    xs.flatMap f = xs.flatMap g ↔ ∀ x ∈ xs, f x = g x := by
  refine ⟨fun same => ?_, List.flatMap_congr⟩
  induction xs with
  | nil => nofun
  | cons x xs ih =>
    rw [List.flatMap_cons, List.flatMap_cons] at same
    have first := (part x).length_le
    have others := (List.Sublist.flatMap_right xs fun x _ => part x).length_le
    have total := congrArg List.length same
    rw [List.length_append, List.length_append] at total
    obtain ⟨equal, rest⟩ := List.append_inj same (by omega)
    exact List.forall_mem_cons.2 ⟨equal, ih rest⟩

variable {read : Reader} {c : FileCache}

section

variable [Trees]

/-! ## Longer queries -/

theorem symbolsOf_sublist {q r : String} (h : q.toList <+: r.toList)
    (uri languageId text : String) :
    (symbolsOf uri languageId text r).Sublist (symbolsOf uri languageId text q) := by
  unfold symbolsOf
  cases Document.parse? languageId text with
  | none => exact List.Sublist.refl []
  | some d => exact List.monotone_filter_right _ fun s => Fuzzy.fuzzyMatch_of_prefix h

namespace SearchSpace

theorem openSymbols_sublist (s : SearchSpace) {q r : String} (h : q.toList <+: r.toList) :
    (s.openSymbols r).Sublist (s.openSymbols q) :=
  List.Sublist.flatMap_right _ fun t _ => symbolsOf_sublist h t.uri t.languageId t.text

/-- A file has no more symbols for a longer query, if what passes the test for this one passes that
for the shorter one. -/
theorem inFile_sublist {q r : String} (h : q.toList <+: r.toList) {test test' : String → Bool}
    (imp : ∀ text, test' text = true → test text = true) (uri : String) :
    (inFile read c test' r uri).Sublist (inFile read c test q uri) := by
  unfold inFile
  cases c.view read uri with
  | none => exact List.Sublist.refl []
  | some source =>
    obtain ⟨language, text⟩ := source
    by_cases passed : test' text = true
    · simp only [passed, imp text passed, if_true]
      exact symbolsOf_sublist h uri language.id text
    · simp only [passed]
      exact List.nil_sublist _

/-! ## The prefilter -/

theorem inFile_eq_iff (test : String → Bool) (query uri : String) :
    inFile read c test query uri = inFile read c (fun _ => true) query uri ↔
      ∀ language text, c.view read uri = some (language, text) →
        symbolsOf uri language.id text query ≠ [] → test text = true := by
  unfold inFile
  cases c.view read uri with
  | none => simp
  | some source =>
    obtain ⟨language, text⟩ := source
    have here : (if test text then symbolsOf uri language.id text query else []) =
          symbolsOf uri language.id text query ↔
        (symbolsOf uri language.id text query ≠ [] → test text = true) := by
      cases test text with
      | true => simp
      | false => simp [eq_comm (a := [])]
    refine here.trans ⟨?_, fun all => all language text rfl⟩
    rintro passed _ _ ⟨⟩
    exact passed

/-- A search with a test of texts finds everything just when each text with symbols passes. -/
theorem search_eq_iff (s : SearchSpace) (valid : c.Valid) (test : String → Bool) (query : String) :
    (s.search read c query .workspace test fun _ => false).symbols =
        (s.search read c query .workspace (fun _ => true) fun _ => false).symbols ↔
      ∀ uri ∈ s.unopened, ∀ language text, c.view read uri = some (language, text) →
        symbolsOf uri language.id text query ≠ [] → test text = true := by
  have smaller : ∀ uri,
      (inFile read c test query uri).Sublist (inFile read c (fun _ => true) query uri) :=
    inFile_sublist (List.prefix_refl _) fun _ _ => rfl
  rw [symbols_search s valid, symbols_search s valid, List.append_right_inj,
    flatMap_eq_iff_of_sublist _ smaller]
  simp only [inFile_eq_iff]

end SearchSpace

end

theorem Example.standsIn_fooBar : Prefilter.StandsIn "fooBar" (some ' ') fooBar := by
  refine ⟨"class ".toList, [':', '0'], rfl, rfl, ?_⟩
  rintro _ ⟨⟩
  decide

namespace SearchSpace

/-- **Who types on finds some of what was found before, in the same order,** as long as the files
are the same. The caches may differ by what was loaded. -/
theorem run_narrows [Trees] [Prefilter.Builder] (s : SearchSpace) {c' : FileCache} (valid : c.Valid)
    (valid' : c'.Valid) (same : ∀ uri, c'.view read uri = c.view read uri) {q r : String}
    (h : q.toList <+: r.toList) (short : r.length ≤ 200) (mode : SearchMode) :
    (s.run read c' r mode none).symbols.Sublist (s.run read c q mode none).symbols := by
  have opened := s.openSymbols_sublist h
  cases mode with
  | off => exact List.Sublist.refl []
  | documents =>
    rw [symbols_run_documents, symbols_run_documents]
    exact opened
  | workspace =>
    have files : ∀ uri, (inFile read c (Prefilter.passes r) r uri).Sublist
        (inFile read c (Prefilter.passes q) q uri) :=
      inFile_sublist h fun text => Prefilter.passes_of_prefix h short
    rw [symbols_run s valid', symbols_run s valid, inFile_congr same]
    exact opened.append (List.Sublist.flatMap_right _ fun uri _ => files uri)

/-- A query and a longer one, which is asked with the cache that the first search left. -/
theorem run_narrows_fooBar :
    let _ := Example.classes
    let s : SearchSpace := ⟨[], ["file:///m.py"], 1⟩
    let c' := (s.run Example.everywhere {} "f" .workspace none).cache
    FileCache.Valid {} ∧ c'.Valid ∧
      (∀ uri, c'.view Example.everywhere uri = FileCache.view {} Example.everywhere uri) ∧
      "f".toList <+: "f B".toList ∧ "f B".length ≤ 200 ∧
      (s.run Example.everywhere c' "f B" .workspace none).symbols.Sublist
        (s.run Example.everywhere {} "f" .workspace none).symbols := by
  intro _ s c'
  have loads : FileCache.Loads Example.everywhere {} c' :=
    s.loads_search FileCache.valid_empty "f" .workspace _ _
  exact ⟨FileCache.valid_empty, loads.valid, loads.view, by decide, by decide,
    run_narrows s FileCache.valid_empty loads.valid loads.view (by decide) (by decide) .workspace⟩

/-- **A search finds all that it would find without the prefilter just when each text with a match
shows the query.** All texts in which a name stands do so just when the name shows the query where
it stands, and a match does if it begins where the prefilter looks for it, with word characters
alone after it. -/
theorem run_eq_untested_iff [Trees] [Prefilter.Builder] (s : SearchSpace) (valid : c.Valid)
    (query : String) :
    (∀ name prev, (∀ text, Prefilter.StandsIn name prev text → Prefilter.passes query text = true) ↔
        Prefilter.Shown query prev name.toList) ∧
      (∀ prev before first rest, Fuzzy.MatchesAt query before.getLast? first rest →
        'İ' ∉ query.toList → Prefilter.BeginsAfter (before.getLast?.or prev) →
        (∀ d ∈ rest, Unicode.isWord d = true) →
        Prefilter.Shown query prev (before ++ first :: rest)) ∧
      ((s.run read c query .workspace none).symbols =
          (s.search read c query .workspace (fun _ => true) fun _ => false).symbols ↔
        ∀ uri ∈ s.unopened, ∀ language text, c.view read uri = some (language, text) →
          symbolsOf uri language.id text query ≠ [] → Prefilter.Shown query none text.toList) := by
  refine ⟨fun _ _ => Prefilter.forall_passes_iff,
    fun _ _ _ _ here plain begins words => .of_matchesAt here plain begins words, ?_⟩
  rw [run_none, search_eq_iff s valid]
  simp only [Prefilter.passes_iff]

/-- A match at the beginning of a name, and a file with this name. -/
theorem run_eq_untested_iff_fooBar :
    let _ := Example.classes
    let s : SearchSpace := ⟨[], ["file:///m.py"], 1⟩
    FileCache.Valid {} ∧ Fuzzy.MatchesAt "foo" none 'f' "ooBar".toList ∧
      Prefilter.Shown "foo" (some ' ') "fooBar".toList ∧
      Prefilter.passes "foo" Example.fooBar = true ∧
      (s.run Example.everywhere {} "foo" .workspace none).symbols =
        (s.search Example.everywhere {} "foo" .workspace (fun _ => true)
          fun _ => false).symbols := by
  intro _ s
  have known := @run_eq_untested_iff Example.everywhere {} Example.classes .own s
    FileCache.valid_empty "foo"
  have here : Fuzzy.MatchesAt "foo" none 'f' "ooBar".toList :=
    ⟨'f', ['o', 'o'], by decide +kernel, trivial, by decide +kernel, by decide +kernel⟩
  have shown : Prefilter.Shown "foo" (some ' ') "fooBar".toList :=
    known.2.1 (some ' ') [] 'f' "ooBar".toList here (by decide) (by decide)
      (List.all_eq_true.1 (by decide +kernel))
  have passes : Prefilter.passes "foo" Example.fooBar = true :=
    (known.1 "fooBar" (some ' ')).2 shown _ Example.standsIn_fooBar
  refine ⟨FileCache.valid_empty, here, shown, passes, known.2.2.2 ?_⟩
  intro uri file language text seen _
  obtain rfl : uri = "file:///m.py" := by simpa [s, unopened] using file
  obtain ⟨-, rfl⟩ := Prod.mk.inj (Option.some.inj
    (seen.symm.trans (Example.view_everywhere Example.fileAt_m)))
  exact Prefilter.passes_iff.1 passes

/-- **A match that begins at a capital letter inside a name is missed.** -/
theorem hump_hidden :
    let _ := Example.classes
    let s : SearchSpace := ⟨[], ["file:///m.py"], 1⟩
    Fuzzy.fuzzyMatch "bar" "fooBar" = true ∧
      Prefilter.StandsIn "fooBar" (some ' ') Example.fooBar ∧ Unicode.isWord ' ' = false ∧
      Prefilter.passes "bar" Example.fooBar = false ∧
      (s.run Example.everywhere {} "bar" .workspace none).symbols = [] ∧
      (s.search Example.everywhere {} "bar" .workspace (fun _ => true) fun _ => false).symbols =
        [Example.fooBarIn "file:///m.py"] := by
  intro _ s
  have matched : Fuzzy.fuzzyMatch "bar" "fooBar" = true := by decide +kernel
  have hidden : Prefilter.passes "bar" Example.fooBar = false := by decide +kernel
  have unopened : s.unopened = ["file:///m.py"] := by decide
  refine ⟨matched, Example.standsIn_fooBar, by decide +kernel, hidden, ?_, ?_⟩
  · rw [symbols_run s FileCache.valid_empty, unopened, List.flatMap_singleton,
      Example.inFile_fooBar Example.fileAt_m, hidden]
    rfl
  · rw [symbols_search s FileCache.valid_empty, unopened, List.flatMap_singleton,
      Example.inFile_fooBar Example.fileAt_m, matched]
    rfl

end SearchSpace

end CodeIndex
