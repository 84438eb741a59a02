import CodeIndex.Proofs.Index.Reload
import CodeIndex.Proofs.Workspace.Buffers

/-!
# Files that are not open

What the index holds of a file that is not open comes from a text that the cache keeps.

**States** (`Workspace.Reached`). A workspace begins with nothing or with the files below a root.
After that documents are opened, changed and closed, there is news of files, questions are asked,
updates are made, and the files below further roots are taken up, in any order and on any disks.

**The invariant** (`SymbolIndex.Settled`). A text waits in the queue only for an open document. A
file on record that is not open and of which there is no news has a text in the cache with the
digest on record. The cache forgets a text only where there is news of the file or its document is
open; a document that is closed leaves news behind; and an update that reads a file keeps its text.
Questions only load files, and a text that is kept stays (`Asked`).

**Theorem (`reached_unopened`).** So each such file is on record with the text that the cache keeps,
when no two texts have the same digest. A search for references from a file that is not open parses
the text that the file's entries were found in.
-/

namespace CodeIndex

variable {T O O' : Set String} {read : Reader} {c : FileCache} {uri v : String}

namespace SymbolIndex

/-! ## Files that are queued one after the other -/

theorem queue_foldl_fileAdded (uris : List String) (i : SymbolIndex) :
    (uris.foldl fileAdded i).queue[v]? = if v ∈ uris then some .reload else i.queue[v]? := by
  induction uris generalizing i with
  | nil => simp
  | cons uri uris ih =>
    rw [List.foldl_cons, ih, fileAdded, queue_enqueue]
    by_cases hv : v = uri <;> simp [hv]

theorem cache_foldl_fileAdded (uris : List String) (i : SymbolIndex) :
    (uris.foldl fileAdded i).cache = i.cache := by
  induction uris generalizing i with
  | nil => rfl
  | cons uri uris ih => exact ih (i.fileAdded uri)

theorem snapshot_foldl_fileAdded (uris : List String) (i : SymbolIndex) :
    (uris.foldl fileAdded i).snapshot = i.snapshot := by
  induction uris generalizing i with
  | nil => rfl
  | cons uri uris ih => exact ih (i.fileAdded uri)

/-! ## The index and its cache -/

variable [Trees] [Digest] {i : SymbolIndex}

/-- A sound index in which texts wait for files in `O` only, and the record of any other file of
which there is no news is that of the text in the cache. -/
structure Settled (T O : Set String) (i : SymbolIndex) : Prop where
  sound : i.Sound T
  queued : ∀ uri languageId text : String,
    i.queue[uri]? = some (Change.text languageId text) → uri ∈ O
  kept : ∀ (uri : String) slice, uri ∉ O → i.queue[uri]? = none →
    i.snapshot.files[uri]? = some slice →
      ∃ text, i.cache.kept uri = some text ∧ slice.digest = Digest.ofText text

theorem settled_empty : Settled T O {} := ⟨sound_empty, by simp, by simp⟩

/-- News of a file, which may take the file into `O` or out of it and change what is kept of it. -/
theorem Settled.news (settled : i.Settled T O) (sound : Sound T { i with cache := c })
    (elsewhere : ∀ v, v ≠ uri → c.kept v = i.cache.kept v)
    (same : ∀ v, v ≠ uri → (v ∈ O' ↔ v ∈ O)) {change : Change}
    (texts : ∀ languageId text, change = .text languageId text → uri ∈ O' ∧ text ∈ T) :
    (enqueue { i with cache := c } uri change).Settled T O' := by
  refine ⟨sound.enqueue uri fun l t h => (texts l t h).2, ?_, ?_⟩
  · intro v languageId text hq
    rcases queued_enqueue hq with ⟨rfl, rfl⟩ | ⟨other, old⟩
    · exact (texts languageId text rfl).1
    · exact (same v other).2 (settled.queued v languageId text old)
  · intro v slice out hq hs
    rw [queue_enqueue] at hq
    by_cases hv : v = uri
    · rw [if_pos hv] at hq
      cases hq
    · rw [if_neg hv] at hq
      obtain ⟨text, hk, digest⟩ :=
        settled.kept v slice (fun h => out ((same v hv).2 h)) hq hs
      exact ⟨text, (elsewhere v hv).trans hk, digest⟩

/-- What is kept of files in `O` does not matter. -/
theorem Settled.withCache (settled : i.Settled T O) (sound : Sound T { i with cache := c })
    (elsewhere : ∀ v, v ∉ O → c.kept v = i.cache.kept v) :
    Settled T O { i with cache := c } := by
  refine ⟨sound, settled.queued, fun v slice out idle hs => ?_⟩
  obtain ⟨text, hk, digest⟩ := settled.kept v slice out idle hs
  exact ⟨text, (elsewhere v out).trans hk, digest⟩

theorem Settled.loads (settled : i.Settled T O) (reads : ReadsIn read T)
    (loads : FileCache.Loads read i.cache c) : Settled T O { i with cache := c } := by
  refine ⟨settled.sound.loads reads loads, settled.queued, fun v slice out idle hs => ?_⟩
  obtain ⟨text, hk, digest⟩ := settled.kept v slice out idle hs
  exact ⟨text, loads.kept_of_some settled.sound.valid hk, digest⟩

theorem Settled.update (settled : i.Settled T O) (reads : ReadsIn read T) :
    (i.update read).2.Settled T O := by
  have valid := settled.sound.valid
  refine ⟨settled.sound.update reads, by simp [queue_update], fun v slice out _ hs => ?_⟩
  cases hq : i.queue[v]? with
  | none =>
    rw [files_update_of_not_mem valid read hq] at hs
    obtain ⟨text, hk, digest⟩ := settled.kept v slice out hq hs
    exact ⟨text, (loads_update valid read).kept_of_some valid hk, digest⟩
  | some change =>
    rw [files_update valid read hq] at hs
    cases change with
    | remove => cases hs
    | text languageId text => exact absurd (settled.queued v languageId text hq) out
    | reload =>
      rw [wanted] at hs
      cases seen : i.cache.view read v with
      | none =>
        rw [seen] at hs
        cases hs
      | some source =>
        obtain ⟨language, text⟩ := source
        refine ⟨text, kept_update valid hq seen, ?_⟩
        rw [seen, Option.map_some, settle_outcome] at hs
        split at hs
        · rename_i same
          simpa [hs] using same
        · cases hs
          rfl

/-! ### Files below a root -/

theorem Settled.foldl_fileAdded (settled : i.Settled T O) (uris : List String) :
    (uris.foldl SymbolIndex.fileAdded i).Settled T O := by
  induction uris generalizing i with
  | nil => exact settled
  | cons uri uris ih =>
    exact ih (settled.news settled.sound (fun _ _ => rfl) (fun _ _ => Iff.rfl) nofun)

end SymbolIndex

namespace Workspace

/-! ## What can happen -/

/-- All texts that come with the event are from `T`. -/
def Event.TextsIn (T : Set String) : Event → Prop
  | openDocument _ _ text _ | changeDocument _ text _ => text ∈ T
  | closeDocument _ | fileAdded _ | fileUpdated _ | fileRemoved _ => True
  | update read | outline read _ | references read _ _ _ | definitions read _ _
  | highlights read _ _ | completions read _ _ | search read _ _ _ => ReadsIn read T

section

variable {w w' : Workspace}

theorem isOpen_eq (w : Workspace) (uri : String) : w.isOpen uri = (w.documents[uri]?).isSome :=
  Std.TreeMap.contains_eq_isSome_getElem?

variable [Trees]

theorem document_loads (valid : w.index.cache.Valid) (read : Reader) (uri : String) :
    ∃ c, FileCache.Loads read w.index.cache c ∧
      (w.document read uri).2 = { w with index := { w.index with cache := c } } := by
  simp only [document, source]
  split
  · exact ⟨w.index.cache, valid.loads_refl read, rfl⟩
  · exact ⟨_, (valid.source read uri).loads, rfl⟩

theorem kept_document (valid : w.index.cache.Valid) (closed : ¬ w.isOpen uri) {d : Document}
    (parsed : (w.document read uri).1 = some d) :
    (w.document read uri).2.index.cache.kept uri = some d.text := by
  have got := valid.source read uri
  simp only [document, source, documents_of_closed closed] at parsed ⊢
  obtain ⟨⟨languageId, text⟩, found, hd⟩ := Option.bind_eq_some_iff.1 parsed
  obtain ⟨⟨language, text'⟩, seen, he⟩ := Option.map_eq_some_iff.1 found
  obtain ⟨language', -, rfl⟩ := Option.map_eq_some_iff.1 hd
  cases he
  rw [got.found] at seen
  rw [got.kept, Function.update_self, seen]
  rfl

variable [Digest]

/-- The states that a workspace can come to. -/
inductive Reached [FolderWalk] [Prefilter.Builder] (T : Set String) : Workspace → Prop
  | begins {w : Workspace} : Begins T w → Reached T w
  | event {w : Workspace} (e : Event) : Reached T w → e.TextsIn T → Reached T (w.step e)
  /-- A search was called off on the way. -/
  | stopped {w : Workspace} {read : Reader} (query : String) (mode : SearchMode)
      (cancel : Cancellation) : Reached T w → ReadsIn read T →
      Reached T { w with index := { w.index with
        cache := (w.searchSpace.run read w.index.cache query mode cancel).cache } }
  /-- The files below a further root were taken up. -/
  | rooted {w w' : Workspace} {disk : Disk} {root : String} {n : Nat} :
      Reached T w → ReadsIn disk.read T → w.indexRoot disk root = .ok (n, w') → Reached T w'

theorem indexRoot_of_scan [FolderWalk] {disk : Disk} {root : String} {files : List SourceFile}
    (scanned : scan disk w.config root = .ok files) :
    w.indexRoot disk root = .ok (files.length, { w with
      index :=
        (((files.map (·.uri)).foldl SymbolIndex.fileAdded w.index).update disk.read).2 }) := by
  rw [indexRoot, scanned, List.foldl_map]
  rfl

theorem scan_of_indexRoot [FolderWalk] {disk : Disk} {root : String} {n : Nat}
    (rooted : w.indexRoot disk root = .ok (n, w')) :
    ∃ files, scan disk w.config root = .ok files := by
  unfold indexRoot at rooted
  cases hs : scan disk w.config root with
  | error e => rw [hs] at rooted; cases rooted
  | ok files => exact ⟨files, rfl⟩

/-! ### Questions -/

/-- What a question leaves behind: files that were loaded, and perhaps an update. -/
inductive Asked (read : Reader) (w : Workspace) : Workspace → Prop
  | loaded {c : FileCache} : FileCache.Loads read w.index.cache c →
      Asked read w { w with index := { w.index with cache := c } }
  | updated {c : FileCache} : FileCache.Loads read w.index.cache c →
      Asked read w ({ w with index := { w.index with cache := c } }.update read).2

theorem asked_document (valid : w.index.cache.Valid) (read : Reader) (uri : String) :
    Asked read w (w.document read uri).2 := by
  obtain ⟨c, loads, left⟩ := document_loads valid read uri
  rw [left]
  exact .loaded loads

theorem asked_answer (valid : w.index.cache.Valid) (read : Reader) (uri : String) {α : Type}
    (none? : α) (answer : Document → Workspace → α) :
    Asked read w (match w.document read uri with
      | (none, w) => (none?, w)
      | (some d, w) => (answer d w, w) : α × Workspace).2 := by
  have asked := asked_document valid read uri
  split <;> rename_i hd <;> rwa [hd] at asked

theorem asked_references (valid : w.index.cache.Valid) (read : Reader) (uri : String)
    (p : Position) (includeDeclaration : Bool) :
    Asked read w (w.references read uri p includeDeclaration).2 := by
  obtain ⟨c, loads, left⟩ := document_loads valid read uri
  unfold references
  split
  · rename_i hd
    rw [hd] at left
    subst left
    exact .loaded loads
  · rename_i hd
    rw [hd] at left
    simp only [SymbolIndex.references]
    split
    · subst left
      exact .loaded loads
    · subst left
      exact .updated loads

theorem asked_search [Prefilter.Builder] (valid : w.index.cache.Valid) (read : Reader)
    (query : String) (mode : Option SearchMode) (cancelled : Bool) :
    Asked read w (w.search read query mode cancelled).2 :=
  .loaded (w.searchSpace.loads_search valid query _ _ _)

/-! ## The invariant -/

/-- The index is settled but for the open documents. -/
def Tended (T : Set String) (w : Workspace) : Prop :=
  w.index.Settled T {uri | w.isOpen uri = true}

theorem tended_new (config : Config) : (new config).Tended T := SymbolIndex.settled_empty

theorem Tended.asked (tended : w.Tended T) (reads : ReadsIn read T) (asked : Asked read w w') :
    w'.Tended T := by
  cases asked with
  | loaded loads => exact tended.loads reads loads
  | updated loads => exact (tended.loads reads loads).update reads

/-! ### Documents -/

theorem Tended.openDocument (tended : w.Tended T) (uri languageId : String) {text : String}
    (version : Int) (mem : text ∈ T) : (w.openDocument uri languageId text version).Tended T := by
  refine SymbolIndex.Settled.news tended tended.sound (fun _ _ => rfl) (fun v hv => ?_) ?_
  · simp [isOpen_eq, Workspace.openDocument, lookup_insert, hv]
  · rintro _ _ ⟨⟩
    exact ⟨by simp [isOpen_eq, Workspace.openDocument, lookup_insert], mem⟩

theorem Tended.changeDocument (tended : w.Tended T) (uri : String) {text : String}
    (version : Int) (mem : text ∈ T) : (w.changeDocument uri text version).2.Tended T := by
  unfold Workspace.changeDocument
  split
  · exact tended
  · split
    · exact tended
    · exact tended.openDocument uri _ version mem

theorem Tended.closeDocument (tended : w.Tended T) (uri : String) :
    (w.closeDocument uri).Tended T := by
  have sound := tended.sound
  have closed : ∀ v, v ≠ uri →
      ((w.documents.erase uri).contains v = true ↔ w.isOpen v = true) := fun v hv => by
    rw [Std.TreeMap.contains_eq_isSome_getElem?, lookup_erase, if_neg hv, isOpen_eq]
  unfold Workspace.closeDocument
  split
  · split
    · rename_i h c hc
      have ob := sound.valid.obtain hc
      refine SymbolIndex.Settled.news tended ((sound.obtain hc).invalidate uri) (fun v hv => ?_)
        closed nofun
      exact (congrFun (ob.valid.kept_invalidate uri) v).trans
        ((Function.update_of_ne hv ..).trans (congrFun ob.kept v))
    · refine SymbolIndex.Settled.news tended (sound.drop uri) (fun v hv => ?_) closed nofun
      exact (congrFun (FileCache.kept_remove uri) v).trans (Function.update_of_ne hv ..)
  · exact tended

/-! ### News of files -/

theorem Tended.fileAdded (tended : w.Tended T) (uri : String) : (w.fileAdded uri).Tended T := by
  unfold Workspace.fileAdded
  split
  · exact tended
  · exact SymbolIndex.Settled.news tended tended.sound (fun _ _ => rfl) (fun _ _ => Iff.rfl) nofun

/-- News that make the cache forget a file reach the index, unless the file is open. -/
theorem Tended.forget (tended : w.Tended T) {uri : String} {change : Change}
    (sound : SymbolIndex.Sound T { w.index with cache := c })
    (forgotten : c.kept = Function.update w.index.cache.kept uri none)
    (news : ∀ languageId text, change ≠ .text languageId text) :
    (if w.isOpen uri then { w with index := { w.index with cache := c } }
      else { w with index := SymbolIndex.enqueue { w.index with cache := c } uri change }).Tended
        T := by
  have elsewhere : ∀ v, v ≠ uri → c.kept v = w.index.cache.kept v := fun v hv => by
    rw [forgotten, Function.update_of_ne hv]
  split
  · rename_i isOpen
    refine SymbolIndex.Settled.withCache tended sound fun v out => elsewhere v ?_
    rintro rfl
    exact out isOpen
  · exact SymbolIndex.Settled.news tended sound elsewhere (fun _ _ => Iff.rfl)
      fun l t h => absurd h (news l t)

theorem Tended.fileUpdated (tended : w.Tended T) (uri : String) :
    (w.fileUpdated uri).Tended T :=
  tended.forget (tended.sound.invalidate uri) (tended.sound.valid.kept_invalidate uri) nofun

theorem Tended.fileRemoved (tended : w.Tended T) (uri : String) :
    (w.fileRemoved uri).Tended T :=
  tended.forget (tended.sound.drop uri) (FileCache.kept_remove uri) nofun

/-! ### Roots -/

theorem Tended.indexRoot [FolderWalk] (tended : w.Tended T) {disk : Disk} {root : String} {n : Nat}
    (reads : ReadsIn disk.read T) (rooted : w.indexRoot disk root = .ok (n, w')) :
    w'.Tended T := by
  obtain ⟨files, scanned⟩ := scan_of_indexRoot rooted
  rw [indexRoot_of_scan scanned] at rooted
  cases rooted
  exact (SymbolIndex.Settled.foldl_fileAdded tended _).update reads

/-! ### All that can happen -/

theorem Tended.step [Prefilter.Builder] (tended : w.Tended T) (e : Event) (within : e.TextsIn T) :
    (w.step e).Tended T := by
  have valid := tended.sound.valid
  cases e with
  | openDocument uri languageId text version =>
    exact tended.openDocument uri languageId version within
  | changeDocument uri text version => exact tended.changeDocument uri version within
  | closeDocument uri => exact tended.closeDocument uri
  | fileAdded uri => exact tended.fileAdded uri
  | fileUpdated uri => exact tended.fileUpdated uri
  | fileRemoved uri => exact tended.fileRemoved uri
  | update read => exact tended.asked within (.updated (valid.loads_refl read))
  | outline read uri => exact tended.asked within (asked_document valid read uri)
  | references read uri p includeDeclaration =>
    exact tended.asked within (asked_references valid read uri p includeDeclaration)
  | definitions read uri p =>
    refine tended.asked within ?_
    exact asked_answer valid read uri [] fun d w => w.index.definitions d uri p
  | highlights read uri p =>
    exact tended.asked within (asked_answer valid read uri [] fun d _ => d.highlights p)
  | completions read uri p =>
    refine tended.asked within ?_
    exact asked_answer valid read uri {} fun d w => w.index.completions d p
  | search read query mode cancelled =>
    exact tended.asked within (asked_search valid read query mode cancelled)

theorem Begins.tended [FolderWalk] (begins : Begins T w) : w.Tended T := by
  cases begins with
  | new config => exact tended_new config
  | @opened disk root _ reads opened =>
    unfold Workspace.open at opened
    cases rooted : (Workspace.new (Config.load disk.read root)).indexRoot disk root with
    | error e => rw [rooted] at opened; cases opened
    | ok found =>
      obtain ⟨n, w⟩ := found
      have started : w.Tended T := (tended_new _).indexRoot reads rooted
      rw [rooted] at opened
      cases opened
      exact started

theorem Reached.tended [FolderWalk] [Prefilter.Builder] (reached : Reached T w) : w.Tended T := by
  induction reached with
  | begins begins => exact begins.tended
  | event e _ within ih => exact ih.step e within
  | @stopped w read query mode cancel _ reads ih =>
    exact ih.loads reads (w.searchSpace.loads_search ih.sound.valid query mode _ _)
  | rooted _ reads rooted ih => exact ih.indexRoot reads rooted

/-! ## Files that are not open -/

theorem Tended.slice_eq (tended : w.Tended T) (faithful : Faithful T) (closed : ¬ w.isOpen uri)
    (idle : w.index.queue[uri]? = none) {slice : Slice}
    (known : w.index.snapshot.files[uri]? = some slice) :
    ∃ text languageId, w.index.cache.kept uri = some text ∧
      slice = Slice.ofText uri languageId text := by
  obtain ⟨text, hk, digest⟩ := tended.kept uri slice closed idle known
  obtain ⟨languageId, same⟩ :=
    tended.sound.eq_of_digest faithful (tended.sound.kept uri text hk) known digest
  exact ⟨text, languageId, hk, same⟩

/-- A search for references from a word reads the index after an update. -/
theorem references_of_identifier {d : Document} {p : Position} {word : String} {span : Span}
    (parsed : (w.document read uri).1 = some d) (found : d.identifierAt p = some (word, span))
    (includeDeclaration : Bool) :
    w.references read uri p includeDeclaration =
      let after := ((w.document read uri).2.update read).2
      (selectReferences (after.index.snapshot.usagesOf word)
        (after.index.snapshot.definitionsOf word) uri p includeDeclaration, after) := by
  unfold references
  generalize w.document read uri = asked at parsed ⊢
  obtain ⟨d', w'⟩ := asked
  cases parsed
  simp only [SymbolIndex.references, found]
  rfl

/-- After a search for references from a file that is not open, the file is on record with the text
that was parsed, if at all. -/
theorem Tended.slice_references (tended : w.Tended T) (faithful : Faithful T)
    (closed : ¬ w.isOpen uri) (reads : ReadsIn read T) {d : Document}
    (parsed : (w.document read uri).1 = some d) {slice : Slice}
    (known : ((w.document read uri).2.update read).2.index.snapshot.files[uri]? = some slice) :
    ∃ languageId, slice = Slice.ofText uri languageId d.text := by
  have kept := kept_document tended.sound.valid closed parsed
  obtain ⟨c, loads, left⟩ := document_loads tended.sound.valid read uri
  rw [left] at kept known
  have asked := tended.asked reads (.loaded loads)
  have still : ((({ w with index := { w.index with cache := c } } : Workspace).update
      read).2).index.cache.kept uri = some d.text :=
    (SymbolIndex.loads_update asked.sound.valid read).kept_of_some asked.sound.valid kept
  obtain ⟨text, languageId, hk, same⟩ := (tended.asked reads (.updated loads)).slice_eq faithful
    closed (by simp [Workspace.update, SymbolIndex.queue_update]) known
  rw [still] at hk
  cases hk
  exact ⟨languageId, same⟩

/-- **A file on record that is not open and of which there is no news is on record with the text
that the cache keeps.** A search for references from a word of a file that is not open parses a text
of which the index, as it is searched, has the file's entries, if it has any. -/
theorem reached_unopened [FolderWalk] [Prefilter.Builder] (faithful : Faithful T)
    (reached : Reached T w) (closed : ¬ w.isOpen uri) :
    (∀ slice, w.index.queue[uri]? = none → w.index.snapshot.files[uri]? = some slice →
      ∃ text languageId, w.index.cache.kept uri = some text ∧
        slice = Slice.ofText uri languageId text) ∧
    ∀ read p includeDeclaration d word span, ReadsIn read T →
      (w.document read uri).1 = some d → d.identifierAt p = some (word, span) →
      ∃ after, w.references read uri p includeDeclaration =
          (selectReferences (after.index.snapshot.usagesOf word)
            (after.index.snapshot.definitionsOf word) uri p includeDeclaration, after) ∧
        ∀ slice, after.index.snapshot.files[uri]? = some slice →
          ∃ languageId, slice = Slice.ofText uri languageId d.text := by
  have tended := reached.tended
  refine ⟨fun slice idle known => tended.slice_eq faithful closed idle known, ?_⟩
  intro read p includeDeclaration d word span reads parsed found
  exact ⟨_, references_of_identifier parsed found includeDeclaration, fun slice known =>
    tended.slice_references faithful closed reads parsed known⟩

end

/-- A file that was open and is read from disk again. -/
theorem reached_unopened_closed :
    let _ := Example.trees
    let _ := Example.digests
    let w := (new {}).run [.openDocument "file:///m.py" "python" "y" 1, .update Example.noFiles,
      .closeDocument "file:///m.py", .update Example.oneFile]
    ¬ w.isOpen "file:///m.py" ∧ w.index.queue["file:///m.py"]? = none ∧
      w.index.snapshot.files["file:///m.py"]? = some (Slice.ofText "file:///m.py" "python" "x") ∧
      ∃ text languageId, w.index.cache.kept "file:///m.py" = some text ∧
        Slice.ofText "file:///m.py" "python" "x" =
          Slice.ofText "file:///m.py" languageId text := by
  intro _ _ w
  have reads := Example.readsIn_noFiles {"x", "y"}
  have reached : Reached {"x", "y"} w :=
    .event (.update Example.oneFile) (.event (.closeDocument "file:///m.py")
      (.event (.update Example.noFiles) (.event (.openDocument "file:///m.py" "python" "y" 1)
        (.begins (.new {})) (Or.inr rfl)) reads) trivial) Example.readsIn_oneFile
  have closed : ¬ w.isOpen "file:///m.py" := by decide +kernel
  have idle : w.index.queue["file:///m.py"]? = none := by decide +kernel
  have known : w.index.snapshot.files["file:///m.py"]? =
      some (Slice.ofText "file:///m.py" "python" "x") := by decide +kernel
  exact ⟨closed, idle, known,
    (reached_unopened Example.faithful_written reached closed).1 _ idle known⟩

end Workspace

end CodeIndex
