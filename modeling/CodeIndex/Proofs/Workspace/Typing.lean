import CodeIndex.Proofs.Index.Locations
import CodeIndex.Proofs.Index.Resolve
import CodeIndex.Proofs.Workspace.Unopened

/-!
# The word that is being typed

Completions leave out the word at the position itself, unless it stands elsewhere in the document.
It can come back through the index, which may have it from the same document.

**Theorem (`completions_omit_iff`).** In every state that a workspace can come to, let a word of
an open document stand at the position and nowhere else in the document, and let no other file
define it. Then it is left out of the completions if and only if what the index has on record for
the document does not define it.

**Failure (`typed_word_offered`).** The name of a class that is being typed is offered back once the
document has been taken up.

The words of the document that are not at the position do not have it, so what is left is the index.
Of its definitions of the word all are the document's, and these are the ones on record for it
(`definitionsOf_eq_of_own`).
-/

namespace CodeIndex

open Syntax (Capture)

/-- Where no other file defines a name, its definitions are those that the file contributes. -/
theorem Snapshot.LaidOut.definitionsOf_eq_of_own {s : Snapshot} {order : List String}
    (laid : s.LaidOut order) {uri name : String}
    (own : ∀ e ∈ s.definitionsOf name, e.location.uri = uri) :
    s.definitionsOf name = (s.contribution uri).definitions.filter (·.name = name) := by
  rw [← laid.filter_definitionsOf]
  exact (List.filter_eq_self.2 fun e he => decide_eq_true (own e he)).symm

namespace Workspace

section

variable {w : Workspace} {uri word : String} {b : Buffer} {d : Document} {c : Capture}
  {p : Position}

theorem document_of_open [Trees] (read : Reader) (opened : w.documents[uri]? = some b) :
    w.document read uri = (Document.parse? b.languageId b.text, w) := by
  simp only [document, source, opened]
  rfl

/-- A word that stands at a position alone is not among the words apart from it. -/
theorem not_mem_localCompletions (alone : (d.captures .identifiers).filter (·.text = word) = [c])
    (here : c.span.ContainsPosition p) : ⟨word, none⟩ ∉ SymbolIndex.localCompletions d p := by
  rw [SymbolIndex.mem_localCompletions]
  rintro ⟨⟨c', hc', same, apart⟩, -⟩
  have only : c' ∈ [c] := alone ▸ List.mem_filter.2 ⟨hc', decide_eq_true same⟩
  exact apart (List.mem_singleton.1 only ▸ here)

variable [Trees] [Digest] {T : Set String}

/-- **The word that is being typed is left out of the completions if and only if what the index has
on record for the document itself does not define it**, when it stands nowhere else in the document
and no other file defines it. -/
theorem completions_omit_iff [FolderWalk] [Prefilter.Builder] (reached : Reached T w)
    (opened : w.documents[uri]? = some b) (parsed : Document.parse? b.languageId b.text = some d)
    (alone : (d.captures .identifiers).filter (·.text = word) = [c])
    (here : c.span.ContainsPosition p)
    (own : ∀ e ∈ w.index.snapshot.definitionsOf word, e.location.uri = uri) (read : Reader) :
    (w.completions read uri p).1[word]? = none ↔
      ∀ e ∈ (w.index.snapshot.contribution uri).definitions, e.name ≠ word := by
  obtain ⟨order, laid⟩ := reached.tended.sound.laid
  have known := SymbolIndex.isSome_kind_iff laid word
  have answered : (w.completions read uri p).1 = w.index.completions d p := by
    rw [(completions_eq read w uri p).1, document_of_open read opened, parsed]
  rw [answered, SymbolIndex.lookup_completions _ d p word rfl,
    if_neg (not_mem_localCompletions alone here), ite_eq_right_iff, known,
    laid.definitionsOf_eq_of_own own]
  simp

end

end Workspace

/-! ## A small example -/

namespace Example

/-- A workspace in which a class is typed. -/
def typing : Workspace :=
  let _ := classes
  let _ := digests
  (Workspace.new {}).run [.openDocument "file:///m.py" "python" fooBar 1]

theorem reached_typing : @Workspace.Reached classes digests .own .own Set.univ typing :=
  let _ := classes
  let _ := digests
  .event (.openDocument "file:///m.py" "python" fooBar 1) (.begins (.new {})) trivial

theorem words_fooBar : (@Document.parse classes .python fooBar).captures .identifiers =
    [⟨"identifier", ⟨⟨0, 6⟩, ⟨0, 12⟩⟩, "fooBar"⟩] :=
  captures_of_ordered (by decide +kernel) (by decide)

theorem parsed_fooBar : @Document.parse? classes "python" fooBar =
    some (@Document.parse classes .python fooBar) := rfl

theorem alone_fooBar : ((@Document.parse classes .python fooBar).captures .identifiers).filter
    (·.text = "fooBar") = [⟨"identifier", ⟨⟨0, 6⟩, ⟨0, 12⟩⟩, "fooBar"⟩] := by
  rw [words_fooBar]
  rfl

/-- What is on record once the class has been taken up. -/
theorem contribution_typed (v : String) :
    let _ := classes
    let _ := digests
    (typing.update noFiles).2.index.snapshot.contribution v =
      if v = "file:///m.py" then contributionOf "file:///m.py" "python" fooBar else {} := by
  intro _ _
  have valid := reached_typing.tended.sound.valid
  have queue : typing.index.queue[v]? =
      if v = "file:///m.py" then some (.text "python" fooBar) else none := by
    have one : typing.index.queue =
      ({} : Std.TreeMap String Change).insert "file:///m.py" (.text "python" fooBar) := rfl
    simp [one, lookup_insert]
  by_cases same : v = "file:///m.py"
  · subst same
    exact Snapshot.contribution_of_files
      ((SymbolIndex.files_update valid noFiles (queue.trans (if_pos rfl))).trans rfl)
  · have kept := SymbolIndex.files_update_of_not_mem valid noFiles (queue.trans (if_neg same))
    have none : typing.index.snapshot.files[v]? = none := by
      have empty : typing.index.snapshot.files = {} := rfl
      simp [empty]
    rw [if_neg same, Snapshot.contribution, Workspace.update, kept, none]
    rfl

end Example

namespace Workspace

/-- A class that has not been taken up yet. -/
theorem completions_omit_iff_typing :
    let _ := Example.classes
    let _ := Example.digests
    let w := Example.typing
    let c : Capture := ⟨"identifier", ⟨⟨0, 6⟩, ⟨0, 12⟩⟩, "fooBar"⟩
    Reached Set.univ w ∧ w.documents["file:///m.py"]? = some ⟨"python", Example.fooBar, 1⟩ ∧
      Document.parse? "python" Example.fooBar = some (.parse .python Example.fooBar) ∧
      ((Document.parse .python Example.fooBar).captures .identifiers).filter (·.text = "fooBar") =
        [c] ∧
      c.span.ContainsPosition ⟨0, 9⟩ ∧ w.index.snapshot.definitionsOf "fooBar" = [] ∧
      (w.completions Example.noFiles "file:///m.py" ⟨0, 9⟩).1["fooBar"]? = none := by
  intro _ _ w c
  have opened : w.documents["file:///m.py"]? = some ⟨"python", Example.fooBar, 1⟩ := by
    decide +kernel
  have here : c.span.ContainsPosition ⟨0, 9⟩ := by decide
  have unknown : w.index.snapshot.definitionsOf "fooBar" = [] := rfl
  have own : ∀ e ∈ w.index.snapshot.definitionsOf "fooBar", e.location.uri = "file:///m.py" := by
    rw [unknown]
    exact List.forall_mem_nil _
  have nothing : (w.index.snapshot.contribution "file:///m.py").definitions = [] := rfl
  refine ⟨Example.reached_typing, opened, Example.parsed_fooBar, Example.alone_fooBar, here,
    unknown, ?_⟩
  refine (completions_omit_iff Example.reached_typing opened Example.parsed_fooBar
    Example.alone_fooBar here own _).2 ?_
  exact nothing ▸ List.forall_mem_nil _

/-- **The name of a class that is being typed is offered back once the document has been taken up**,
though it stands nowhere else in the document and no other file defines it. -/
theorem typed_word_offered :
    let _ := Example.classes
    let _ := Example.digests
    let w := (Example.typing.update Example.noFiles).2
    let c : Capture := ⟨"identifier", ⟨⟨0, 6⟩, ⟨0, 12⟩⟩, "fooBar"⟩
    Reached Set.univ w ∧ w.documents["file:///m.py"]? = some ⟨"python", Example.fooBar, 1⟩ ∧
      Document.parse? "python" Example.fooBar = some (.parse .python Example.fooBar) ∧
      ((Document.parse .python Example.fooBar).captures .identifiers).filter (·.text = "fooBar") =
        [c] ∧
      c.span.ContainsPosition ⟨0, 9⟩ ∧
      (∀ e ∈ w.index.snapshot.definitionsOf "fooBar", e.location.uri = "file:///m.py") ∧
      (w.completions Example.noFiles "file:///m.py" ⟨0, 9⟩).1["fooBar"]? =
        some ⟨"fooBar", some .class⟩ := by
  intro _ _ w c
  have reached : Reached Set.univ w :=
    .event (.update Example.noFiles) Example.reached_typing (Example.readsIn_noFiles _)
  have opened : w.documents["file:///m.py"]? = some ⟨"python", Example.fooBar, 1⟩ := by
    decide +kernel
  obtain ⟨order, laid⟩ := reached.tended.sound.laid
  have own : ∀ e ∈ w.index.snapshot.definitionsOf "fooBar", e.location.uri = "file:///m.py" := by
    intro e he
    obtain ⟨-, v, -, hv⟩ := laid.definitions.mem_entries.1 he
    by_cases same : v = "file:///m.py"
    · rw [← same]
      exact (laid.owned v).definitions e hv
    · rw [Example.contribution_typed, if_neg same] at hv
      cases hv
  have first : (w.index.snapshot.definitionsOf "fooBar").head?.bind (·.kind) = some .class := by
    rw [laid.definitionsOf_eq_of_own own, Example.contribution_typed, if_pos rfl,
      Example.definitions_fooBar]
    rfl
  refine ⟨reached, opened, Example.parsed_fooBar, Example.alone_fooBar, by decide, own, ?_⟩
  have answered : (w.completions Example.noFiles "file:///m.py" ⟨0, 9⟩).1 =
      w.index.completions (.parse .python Example.fooBar) ⟨0, 9⟩ := by
    rw [(completions_eq Example.noFiles w _ _).1, document_of_open _ opened, Example.parsed_fooBar]
  rw [answered, SymbolIndex.lookup_completions _ _ _ _ first]
  rfl

end Workspace

end CodeIndex
