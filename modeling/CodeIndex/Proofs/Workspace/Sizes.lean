import CodeIndex.Proofs.Scan.Found
import CodeIndex.Proofs.Workspace.Roots

/-!
# The sizes of indexed files

Files come into the index in two ways. A scan leaves out files that are larger than the settings
allow. News of a file have it loaded whatever its size.

**Theorem (`withinSizes_iff`).** Let no document be open. No file that an update takes up is larger
than the settings allow if and only if the news since the last update report no such file. The same
holds of the update that ends a scan: the files that the scan has found are never too large.

**Failure (`told_exceeds`).** A file that a scan leaves out for its size is indexed when it is
reported.
-/

namespace CodeIndex

variable {T : Set String} {read : Reader} {uri : String}

/-- The address leads to a file that is larger than the settings allow. -/
def Config.Exceeded (c : Config) (read : Reader) (uri : String) : Prop :=
  ∃ path bytes, Uri.path? uri = some path ∧ read path = .ok bytes ∧
    c.effectiveMaxFileBytes < bytes.size

namespace SymbolIndex

/-- There is news of the file, and it can be loaded. -/
def Reports (i : SymbolIndex) (read : Reader) (uri : String) : Prop :=
  i.queue[uri]? = some .reload ∧ (i.cache.view read uri).isSome = true

variable [Trees] [Digest] {i : SymbolIndex}

/-- Of the files that wait without a text, those that are reported and can be loaded are on record
after an update. -/
theorem mem_files_update_iff (valid : i.cache.Valid) (read : Reader) (queued : uri ∈ i.queue)
    (no_text : ∀ languageId text : String, i.queue[uri]? ≠ some (.text languageId text)) :
    uri ∈ (i.update read).2.snapshot.files ↔ i.Reports read uri := by
  obtain ⟨change, queued⟩ :=
    Option.isSome_iff_exists.1 (Std.TreeMap.mem_iff_isSome_getElem?.1 queued)
  rw [Std.TreeMap.mem_iff_isSome_getElem?, files_update valid read queued, Reports, queued]
  cases change with
  | remove => simp [wanted, outcome, Outcome.settle]
  | text languageId text => exact absurd queued (no_text languageId text)
  | reload =>
    rw [wanted]
    cases i.cache.view read uri with
    | none => simp [outcome, Outcome.settle]
    | some source =>
      obtain ⟨language, text⟩ := source
      rw [Option.map_some, settle_outcome]
      refine iff_of_true ?_ ⟨rfl, rfl⟩
      split
      · rename_i known
        exact Option.isSome_of_any known
      · rfl

end SymbolIndex

theorem not_exceeded_of_scan [FolderWalk] {disk : Disk} {config : Config} {root : String}
    {files : List SourceFile} {f : SourceFile} (scanned : scan disk config root = .ok files)
    (mem : f ∈ files) (leads_back : Uri.path? f.uri = some f.path) :
    ¬ config.Exceeded disk.read f.uri := by
  rintro ⟨path, bytes, found, readable, large⟩
  rw [leads_back] at found
  cases found
  exact absurd (admits_of_scan scanned mem readable).2 (Nat.not_le.2 large)

namespace Workspace

/-- None of the given files is on record and larger than the settings allow. -/
def WithinSizes (w : Workspace) (read : Reader) (uris : Set String) : Prop :=
  ∀ uri ∈ uris, uri ∈ w.index.snapshot.files → ¬ w.config.Exceeded read uri

section

variable [Trees] [Digest] {w : Workspace}

/-- When no text waits, an update takes up no file that is too large if and only if none is
reported. -/
theorem withinSizes_update_iff (valid : w.index.cache.Valid)
    (no_text : ∀ uri languageId text : String, w.index.queue[uri]? ≠ some (.text languageId text))
    (read : Reader) :
    (w.update read).2.WithinSizes read {uri | uri ∈ w.index.queue} ↔
      ∀ uri, w.index.Reports read uri → ¬ w.config.Exceeded read uri := by
  refine forall_congr' fun uri => ?_
  have recorded (queued : uri ∈ w.index.queue) :=
    SymbolIndex.mem_files_update_iff valid read queued (no_text uri)
  constructor
  · intro within reports
    have queued : uri ∈ w.index.queue :=
      Std.TreeMap.mem_iff_isSome_getElem?.2 (by rw [reports.1]; rfl)
    exact within queued ((recorded queued).2 reports)
  · exact fun within queued found => within ((recorded queued).1 found)

theorem no_text_of_settled {i : SymbolIndex} (settled : i.Settled T {uri | w.isOpen uri = true})
    (closed : ∀ uri, ¬ w.isOpen uri) (uri languageId text : String) :
    i.queue[uri]? ≠ some (.text languageId text) :=
  fun queued => closed uri (settled.queued uri languageId text queued)

/-- **Without open documents, no file that an update takes up is too large if and only if the news
report none that is.** The same holds when the files below a root are taken up. -/
theorem withinSizes_iff [FolderWalk] [Prefilter.Builder] (reached : Reached T w)
    (closed : ∀ uri, ¬ w.isOpen uri) :
    (∀ read : Reader, (w.update read).2.WithinSizes read {uri | uri ∈ w.index.queue} ↔
        ∀ uri, w.index.Reports read uri → ¬ w.config.Exceeded read uri) ∧
      ∀ (disk : Disk) (root : String) files, scan disk w.config root = .ok files →
        (∀ f ∈ files, Uri.path? f.uri = some f.path) →
        ∃ w', w.indexRoot disk root = .ok (files.length, w') ∧
          (w'.WithinSizes disk.read {uri | uri ∈ w.index.queue ∨ uri ∈ files.map (·.uri)} ↔
            ∀ uri, w.index.Reports disk.read uri → ¬ w.config.Exceeded disk.read uri) := by
  have settled := reached.tended
  refine ⟨withinSizes_update_iff settled.sound.valid (no_text_of_settled settled closed), ?_⟩
  intro disk root files scanned leads_back
  refine ⟨_, indexRoot_of_scan scanned, ?_⟩
  -- What the scan has found is put into the queue, and then there is an update.
  have settled := settled.foldl_fileAdded (files.map (·.uri))
  have queue (uri : String) :
      ((files.map (·.uri)).foldl SymbolIndex.fileAdded w.index).queue[uri]? =
        if uri ∈ files.map (·.uri) then some .reload else w.index.queue[uri]? :=
    SymbolIndex.queue_foldl_fileAdded _ _
  have cache := SymbolIndex.cache_foldl_fileAdded (files.map (·.uri)) w.index
  generalize (files.map (·.uri)).foldl SymbolIndex.fileAdded w.index = i at settled queue cache ⊢
  have processed : {uri | uri ∈ w.index.queue ∨ uri ∈ files.map (·.uri)} =
      {uri | uri ∈ i.queue} := by
    ext uri
    simp only [Set.mem_ofPred_eq, Std.TreeMap.mem_iff_isSome_getElem?, queue]
    split <;> simp [*]
  have updated := withinSizes_update_iff (w := { w with index := i }) settled.sound.valid
    (no_text_of_settled settled closed) disk.read
  rw [processed]
  refine updated.trans (forall_congr' fun uri => ?_)
  by_cases found : uri ∈ files.map (·.uri)
  · obtain ⟨f, mem, rfl⟩ := List.mem_map.1 found
    have fits := not_exceeded_of_scan scanned mem (leads_back f mem)
    exact iff_of_true (fun _ => fits) fun _ => fits
  · rw [SymbolIndex.Reports, SymbolIndex.Reports, queue, if_neg found, cache]

end

end Workspace

/-! ## A reported file -/

namespace Example

/-- A workspace that was told of one file. -/
def told (config : Config) : Workspace := (Workspace.new config).fileAdded "file:///m.py"

theorem reached_told (config : Config) :
    @Workspace.Reached trees digests .own .own Set.univ (told config) :=
  let _ := trees
  let _ := digests
  .event (.fileAdded "file:///m.py") (.begins (.new config)) trivial

theorem closed_told (config : Config) (uri : String) : ¬ (told config).isOpen uri := by
  have documents : (told config).documents = {} := rfl
  simp [Workspace.isOpen, documents]

theorem queue_told (config : Config) :
    (told config).index.queue[uri]? = if uri = "file:///m.py" then some .reload else none := by
  have queue : (told config).index.queue =
      ({} : Std.TreeMap String Change).insert "file:///m.py" .reload := rfl
  simp [queue, lookup_insert]

end Example

namespace Workspace

/-- A file of one byte that is reported, and is found below a root too. -/
theorem withinSizes_iff_told :
    let _ := Example.trees
    let _ := Example.digests
    let w := Example.told {}
    let disk := Example.diskWith "x"
    let files : List SourceFile := [⟨"/m.py", ["m.py"], .python⟩]
    Reached Set.univ w ∧ (∀ uri, ¬ w.isOpen uri) ∧
      scan disk w.config "/" = .ok files ∧ (∀ f ∈ files, Uri.path? f.uri = some f.path) ∧
      (w.update disk.read).2.WithinSizes disk.read {uri | uri ∈ w.index.queue} ∧
      ∃ w', w.indexRoot disk "/" = .ok (1, w') ∧
        w'.WithinSizes disk.read {uri | uri ∈ w.index.queue ∨ uri ∈ files.map (·.uri)} := by
  intro _ _ w disk files
  have reached : Reached Set.univ w := Example.reached_told {}
  have closed : ∀ uri, ¬ w.isOpen uri := Example.closed_told {}
  have scanned : scan disk w.config "/" = .ok files := by decide +kernel
  have leads_back : ∀ f ∈ files, Uri.path? f.uri = some f.path := by decide +kernel
  have address : files.map (·.uri) = ["file:///m.py"] := by decide +kernel
  have small : ∀ uri, w.index.Reports disk.read uri → ¬ w.config.Exceeded disk.read uri := by
    intro uri reports
    have reported := reports.1
    rw [Example.queue_told] at reported
    split at reported
    · rename_i same
      have found : uri ∈ files.map (·.uri) := by rw [address, same]; exact List.mem_singleton_self _
      obtain ⟨f, mem, rfl⟩ := List.mem_map.1 found
      exact not_exceeded_of_scan scanned mem (leads_back f mem)
    · cases reported
  have within := withinSizes_iff reached closed
  obtain ⟨w', rooted, below⟩ := within.2 disk "/" files scanned leads_back
  exact ⟨reached, closed, scanned, leads_back, (within.1 disk.read).2 small, w', rooted,
    below.2 small⟩

/-- **A file that a scan leaves out for its size is indexed when it is reported.** -/
theorem told_exceeds :
    let _ := Example.trees
    let _ := Example.digests
    let w := Example.told { scan := { maxFileBytes := 3 } }
    let disk := Example.diskWith "x = 1"
    Reached Set.univ w ∧ (∀ uri, ¬ w.isOpen uri) ∧ scan disk w.config "/" = .ok [] ∧
      "file:///m.py" ∈ w.index.queue ∧
      "file:///m.py" ∈ (w.update disk.read).2.index.snapshot.files ∧
      w.config.Exceeded disk.read "file:///m.py" := by
  intro _ _ w disk
  have path : Uri.path? "file:///m.py" = some "/m.py" := by decide +kernel
  have size : (disk.read "/m.py").toOption.map (·.size) = some 5 := by decide +kernel
  refine ⟨Example.reached_told _, Example.closed_told _, by decide +kernel, by decide +kernel,
    by decide +kernel, "/m.py", ?_⟩
  cases content : disk.read "/m.py" with
  | error e => simp [content, Except.toOption] at size
  | ok bytes =>
    refine ⟨bytes, path, rfl, ?_⟩
    have size : bytes.size = 5 := by simpa [content, Except.toOption] using size
    rw [size]
    decide

end Workspace

end CodeIndex
