import CodeIndex.Proofs.Index.Freshness
import CodeIndex.Proofs.Search.Batches
import CodeIndex.Proofs.Symbol.Walk

/-!
# Words looked up in the index

What the index says of a word depends on the lists of its entries alone, however the index came to
hold them.

**Definitions.** A word is looked up in the outline of its document, and in the index if it is not
defined there.

**Theorem (`run_definitions`).** Let the index hold what the document contributes. Then the
definitions found in the outline are those that the index has for the document, in the same order.
So the index alone tells the answer: the definitions of the word in the document, or all its
definitions if there are none.

**Completions.** The words of the document are put into a map, and the defined names over them.

**Theorem (`run_completions`).** After any history, a word is offered if and only if it stands in
the document apart from the position or is defined in the index. It comes with the kind of its first
definition. News that wait in the queue do not count, and asking changes neither the queue nor the
snapshot.

Both rest on the layout of the snapshot (`Snapshot.LaidOut`). The definitions of a name that bear an
address are those which the file there contributes, in their order, and each name with definitions
has a kind.
-/

namespace CodeIndex

namespace SymbolIndex

variable {name : String} {p : Position}

/-! ## Definitions -/

theorem localDefinitions_eq (d : Document) (uri word : String) :
    localDefinitions d uri word =
      ((d.contribution uri).definitions.filter (·.name = word)).map (·.location) := by
  rw [localDefinitions, Document.contribution, Contribution.ofCaptures, CodeIndex.definitionsOf,
    List.filter_map, List.map_map]
  rfl

section

variable [Trees] {d : Document}

theorem contributionOf_of_parse {languageId text : String}
    (parsed : Document.parse? languageId text = some d) (uri : String) :
    contributionOf uri languageId text = d.contribution uri := by
  rw [contributionOf, parsed]

/-- **The definitions of a word, by the index alone.** They are those that the index has for the
document, or else all that it has, when it holds what the document contributes. -/
theorem run_definitions [Digest] (events : List Event) {uri languageId text word : String}
    {span : Span} (parsed : Document.parse? languageId text = some d)
    (stored : (run events).snapshot.contribution uri = contributionOf uri languageId text)
    (pointed : d.identifierAt p = some (word, span)) :
    let known := (run events).snapshot.definitionsOf word
    let own := known.filter (·.location.uri = uri)
    (run events).definitions d uri p =
      if own = [] then known.map (·.location) else own.map (·.location) := by
  intro known own
  obtain ⟨order, laid⟩ := (sound_univ_run events).laid
  have found : localDefinitions d uri word = own.map (·.location) := by
    rw [localDefinitions_eq, ← contributionOf_of_parse parsed, ← stored,
      ← laid.filter_definitionsOf]
  unfold definitions
  rw [pointed]
  dsimp only
  rw [found]
  by_cases elsewhere : own = []
  · rw [elsewhere, List.map_nil, if_pos rfl]
  · rw [if_neg elsewhere]
    split
    · rename_i nothing
      exact absurd (List.map_eq_nil_iff.1 nothing) elsewhere
    · rfl

end

end SymbolIndex

namespace Example

theorem definitions_fooBar (uri : String) :
    (@contributionOf classes uri "python" fooBar).definitions =
      [⟨"fooBar", some .class, ⟨uri, ⟨⟨0, 6⟩, ⟨0, 12⟩⟩⟩⟩] := by
  show definitionsOf uri ((@Document.parse classes .python fooBar).captures .outline) = _
  rw [captures_fooBar, definitionsOf, Symbol.walkAll_eq_preorderAll]
  rfl

/-- The text is given under two addresses and taken up. -/
def fooBarTwice : List Event :=
  [.textGiven "file:///a.py" "python" fooBar, .textGiven "file:///m.py" "python" fooBar,
    .update noFiles]

theorem contribution_fooBarTwice (uri : String) (huri : uri ∈ ["file:///a.py", "file:///m.py"]) :
    let _ := classes
    let _ := digests
    (SymbolIndex.run fooBarTwice).snapshot.contribution uri =
      contributionOf uri "python" fooBar := by
  intro _ _
  let before := SymbolIndex.run (fooBarTwice.take 2)
  have queued : before.queue[uri]? = some (.text "python" fooBar) := by
    have both : before.queue = (({} : Std.TreeMap String Change).insert "file:///a.py"
        (.text "python" fooBar)).insert "file:///m.py" (.text "python" fooBar) := rfl
    rw [both, lookup_insert, lookup_insert]
    simp only [List.mem_cons, List.not_mem_nil, or_false] at huri
    rcases huri with rfl | rfl <;> simp
  have valid := (SymbolIndex.sound_univ_run (fooBarTwice.take 2)).valid
  exact Snapshot.contribution_of_files
    ((SymbolIndex.files_update valid noFiles queued).trans rfl)

end Example

namespace SymbolIndex

theorem run_definitions_own :
    let _ := Example.classes
    let _ := Example.digests
    let i := run Example.fooBarTwice
    (⟨"fooBar", some .class, ⟨"file:///a.py", ⟨⟨0, 6⟩, ⟨0, 12⟩⟩⟩⟩ : Entry) ∈
        i.snapshot.definitionsOf "fooBar" ∧
      i.definitions (Document.parse .python Example.fooBar) "file:///m.py" ⟨0, 8⟩ =
        [⟨"file:///m.py", ⟨⟨0, 6⟩, ⟨0, 12⟩⟩⟩] := by
  intro _ _ i
  obtain ⟨order, laid⟩ := (sound_univ_run Example.fooBarTwice).laid
  have known : ∀ uri ∈ ["file:///a.py", "file:///m.py"],
      (i.snapshot.definitionsOf "fooBar").filter (·.location.uri = uri) =
        [⟨"fooBar", some .class, ⟨uri, ⟨⟨0, 6⟩, ⟨0, 12⟩⟩⟩⟩] := by
    intro uri huri
    rw [laid.filter_definitionsOf, Example.contribution_fooBarTwice uri huri,
      Example.definitions_fooBar]
    rfl
  constructor
  · apply List.mem_of_mem_filter
    rw [known "file:///a.py" (by simp)]
    exact List.mem_singleton.2 rfl
  · have parsed : Document.parse? "python" Example.fooBar =
        some (Document.parse .python Example.fooBar) := rfl
    have pointed : (Document.parse .python Example.fooBar).identifierAt ⟨0, 8⟩ =
        some ("fooBar", ⟨⟨0, 6⟩, ⟨0, 12⟩⟩) := by decide +kernel
    have stored := Example.contribution_fooBarTwice "file:///m.py" (by simp)
    rw [run_definitions Example.fooBarTwice parsed stored pointed, known "file:///m.py" (by simp)]
    rfl

/-! ## Completions -/

/-- When the words with some label are all of one kind, it does not matter which was put in last. -/
theorem lookup_foldl_insert {kind : Option SymbolKind} (cs : List Completion)
    (t : Std.TreeMap String Completion) (alike : ∀ c ∈ cs, c.label = name → c.kind = kind) :
    (cs.foldl (fun t c => t.insert c.label c) t)[name]? =
      if ⟨name, kind⟩ ∈ cs then some ⟨name, kind⟩ else t[name]? := by
  induction cs generalizing t with
  | nil => simp
  | cons c cs ih =>
    obtain ⟨first, rest⟩ := List.forall_mem_cons.1 alike
    obtain ⟨label, kind'⟩ := c
    rw [List.foldl_cons, ih _ rest, lookup_insert]
    by_cases same : name = label
    · obtain rfl := first same.symm
      simp [same]
    · simp [same]

theorem mem_localCompletions {d : Document} {kind : Option SymbolKind} :
    ⟨name, kind⟩ ∈ localCompletions d p ↔
      (∃ w ∈ d.captures .identifiers, w.text = name ∧ ¬ w.span.ContainsPosition p) ∧
        kind = none := by
  simp only [localCompletions, List.mem_map, List.mem_filter]
  constructor
  · rintro ⟨w, ⟨hw, apart⟩, ⟨⟩⟩
    exact ⟨⟨w, hw, rfl, by simpa using apart⟩, rfl⟩
  · rintro ⟨⟨w, hw, rfl, apart⟩, rfl⟩
    exact ⟨w, ⟨hw, by simpa using apart⟩, rfl⟩

/-- The defined names with the kinds of their first definitions. -/
def knownCompletions (s : Snapshot) : List Completion :=
  s.definitionNames.map fun (name, kind) => ⟨name, some kind⟩

theorem mem_knownCompletions {s : Snapshot} {kind : Option SymbolKind} :
    ⟨name, kind⟩ ∈ knownCompletions s ↔
      kind.isSome ∧ (s.definitionsOf name).head?.bind (·.kind) = kind := by
  simp only [knownCompletions, List.mem_map, Prod.exists]
  constructor
  · rintro ⟨name, kind, hc, ⟨⟩⟩
    exact ⟨rfl, Snapshot.mem_definitionNames.1 hc⟩
  · rintro ⟨known, first⟩
    obtain ⟨kind, rfl⟩ := Option.isSome_iff_exists.1 known
    exact ⟨name, kind, Snapshot.mem_definitionNames.2 first, rfl⟩

theorem completions_eq (i : SymbolIndex) (d : Document) (p : Position) :
    i.completions d p =
      (knownCompletions i.snapshot).foldl (fun t c => t.insert c.label c)
        ((localCompletions d p).foldl (fun t c => t.insert c.label c) {}) := by
  unfold completions
  exact List.foldl_append

/-- What the map has for a name: with the kind of its first definition, or without one if only the
document has the name. -/
theorem lookup_completions (i : SymbolIndex) (d : Document) (p : Position) (name : String)
    {kind : Option SymbolKind}
    (first : (i.snapshot.definitionsOf name).head?.bind (·.kind) = kind) :
    (i.completions d p)[name]? =
      if kind.isSome then some ⟨name, kind⟩
      else if ⟨name, none⟩ ∈ localCompletions d p then some ⟨name, none⟩ else none := by
  have known : ∀ c ∈ knownCompletions i.snapshot, c.label = name → c.kind = kind := by
    rintro ⟨label, kind'⟩ hc rfl
    exact (mem_knownCompletions.1 hc).2.symm.trans first
  have own : ∀ c ∈ localCompletions d p, c.label = name → c.kind = none := by
    rintro ⟨label, kind'⟩ hc rfl
    exact (mem_localCompletions.1 hc).2
  rw [completions_eq, lookup_foldl_insert _ _ known, lookup_foldl_insert _ _ own]
  simp [mem_knownCompletions, first]

theorem isSome_kind_iff {s : Snapshot} {order : List String} (laid : s.LaidOut order)
    (name : String) :
    ((s.definitionsOf name).head?.bind (·.kind)).isSome ↔ s.definitionsOf name ≠ [] := by
  rw [← laid.exists_mem_definitionNames, Option.isSome_iff_exists]
  simp only [Snapshot.mem_definitionNames]

end SymbolIndex

namespace Workspace

/-- Completions are those of the index, which stays as it is but for its cache. -/
theorem completions_eq [Trees] (read : Reader) (w : Workspace) (uri : String) (p : Position) :
    (w.completions read uri p).1 =
        (match (w.document read uri).1 with
          | some d => w.index.completions d p
          | none => {}) ∧
      (w.completions read uri p).2.index.queue = w.index.queue ∧
      (w.completions read uri p).2.index.snapshot = w.index.snapshot := by
  obtain ⟨c, loaded⟩ := w.exists_document_eq read uri
  unfold completions
  rw [← Prod.eta (w.document read uri), loaded]
  cases (w.document read uri).1 with
  | none => exact ⟨rfl, rfl, rfl⟩
  | some d => exact ⟨rfl, rfl, rfl⟩

end Workspace

namespace SymbolIndex

/-- **Completions after any history.** A word is offered if and only if it stands in the document
apart from the position, or is defined in the index as it is. It has the kind of its first
definition, if it is defined. A workspace that is asked for completions keeps its queue and its
snapshot. -/
theorem run_completions [Trees] [Digest] (events : List Event) :
    (∀ (d : Document) (p : Position) (name : String) (c : Completion),
      ((run events).completions d p)[name]? = some c ↔
        ((∃ w ∈ d.captures .identifiers, w.text = name ∧ ¬ w.span.ContainsPosition p) ∨
          (run events).snapshot.definitionsOf name ≠ []) ∧
        c = ⟨name, ((run events).snapshot.definitionsOf name).head?.bind (·.kind)⟩) ∧
    ∀ (read : Reader) (w : Workspace) (uri : String) (p : Position),
      (w.completions read uri p).1 =
          (match (w.document read uri).1 with
            | some d => w.index.completions d p
            | none => {}) ∧
        (w.completions read uri p).2.index.queue = w.index.queue ∧
        (w.completions read uri p).2.index.snapshot = w.index.snapshot := by
  refine ⟨fun d p name c => ?_, Workspace.completions_eq⟩
  obtain ⟨order, laid⟩ := (sound_univ_run events).laid
  have defined := isSome_kind_iff laid name
  rw [lookup_completions _ d p name rfl]
  by_cases known : (run events).snapshot.definitionsOf name = []
  · simp [known, mem_localCompletions, eq_comm]
  · rw [if_pos (defined.2 known)]
    simp [known, eq_comm]

end SymbolIndex

end CodeIndex
