import CodeIndex.Proofs.Workspace.Unopened

/-!
# Open buffers and the files below a root

The files below a root are all queued to be read from disk, those of open documents too. News of a
single file are kept from the index while its document is open, but a root is not.

**Theorem (`indexRoot_stores_iff`).** Let every open document be taken up from its buffer. When the
files below a root are taken up, a document stays taken up from its buffer if and only if its file
does not lie below the root, or the text that is read for it has the digest on record or contributes
the same as the buffer (`SymbolIndex.ReloadKeeps`).

**Failure (`indexRoot_replaces_buffer`).** A buffer that was edited loses its entries to those of
the file on disk.
-/

namespace CodeIndex

variable {T : Set String} {read : Reader} {uri : String}

/-! ## Reading a file again -/

namespace SymbolIndex

variable [Trees] [Digest] {i : SymbolIndex} {entries : Contribution}

/-- There is a text to be read at the address, and taking it up leaves these entries in place: it
has the digest that is on record, or it contributes the same. -/
def ReloadKeeps (i : SymbolIndex) (read : Reader) (uri : String) (entries : Contribution) : Prop :=
  ∃ language text, i.cache.view read uri = some (language, text) ∧
    ((i.snapshot.files[uri]?).any (·.digest = Digest.ofText text) ∨
      contributionOf uri language.id text = entries)

/-- A file that is queued to be read keeps its entries in an update just when the text to be read
does. -/
theorem Sound.stores_update_reload_iff (sound : i.Sound T) (read : Reader)
    (stored : i.snapshot.Stores uri entries) (queued : i.queue[uri]? = some .reload) :
    (i.update read).2.snapshot.Stores uri entries ↔ i.ReloadKeeps read uri entries := by
  obtain ⟨order, before⟩ := sound.laid
  obtain ⟨order', after⟩ := laidOut_update before sound.valid read
  rw [before.stores_iff] at stored
  rw [after.stores_iff, files_update sound.valid read queued, wanted, ReloadKeeps]
  cases i.cache.view read uri with
  | none => simp [outcome, Outcome.settle]
  | some source =>
    obtain ⟨language, text⟩ := source
    rw [Option.map_some, settle_outcome]
    split
    · rename_i same
      exact iff_of_true stored ⟨language, text, rfl, Or.inl same⟩
    · rename_i differs
      simp [differs, Slice.ofText]

theorem Sound.stores_update_of_idle (sound : i.Sound T) (stored : i.snapshot.Stores uri entries)
    (idle : i.queue[uri]? = none) : (i.update read).2.snapshot.Stores uri entries := by
  obtain ⟨order, before⟩ := sound.laid
  obtain ⟨order', after⟩ := laidOut_update before sound.valid read
  rw [after.stores_iff, files_update_of_not_mem sound.valid read idle]
  exact before.stores_iff.1 stored

end SymbolIndex

/-- Every open document is taken up from its buffer, and there is no news of it. -/
def Workspace.BuffersIndexed [Trees] (w : Workspace) : Prop :=
  ∀ (uri : String) d, w.documents[uri]? = some d →
    w.index.queue[uri]? = none ∧
      w.index.snapshot.Stores uri (contributionOf uri d.languageId d.text)

/-! ## A small example -/

namespace Example

/-- A workspace with one open document, which is taken up from its buffer. -/
def buffered : Workspace :=
  let _ := trees
  let _ := digests
  (Workspace.new {}).run [.openDocument "file:///m.py" "python" "x" 1, .update noFiles]

/-- A disk with one file. -/
def diskWith (text : String) : Disk := { root := .folder [("m.py", .file text.toUTF8)] }

theorem reached_buffered : @Workspace.Reached trees digests .own .own {"x"} buffered :=
  let _ := trees
  let _ := digests
  .event (.update noFiles) (.event (.openDocument "file:///m.py" "python" "x" 1)
    (.begins (.new {})) rfl) (readsIn_noFiles _)

theorem documents_buffered {d : Buffer} :
    buffered.documents[uri]? = some d ↔ uri = "file:///m.py" ∧ d = ⟨"python", "x", 1⟩ := by
  have opened : buffered.documents =
      ({} : Std.TreeMap String Buffer).insert "file:///m.py" ⟨"python", "x", 1⟩ := rfl
  rw [opened, lookup_insert]
  by_cases hv : uri = "file:///m.py" <;> simp [hv, eq_comm]

theorem buffersIndexed_buffered : @Workspace.BuffersIndexed trees buffered := by
  let _ := trees
  let _ := digests
  intro uri d opened
  obtain ⟨rfl, rfl⟩ := documents_buffered.1 opened
  obtain ⟨order, laid⟩ := reached_buffered.tended.sound.laid
  exact ⟨by decide +kernel, laid.stores_iff.2 (by decide +kernel)⟩

end Example

/-! ## Taking up the files below a root -/

namespace Workspace

section

variable [Trees] [Digest] [FolderWalk] [Prefilter.Builder] {w : Workspace}

/-- **When the files below a root are taken up, an open document stays taken up from its buffer if
and only if its file is not one of them, or reading the file leaves the entries of the buffer in
place.** -/
theorem indexRoot_stores_iff (reached : Reached T w) (indexed : w.BuffersIndexed) {disk : Disk}
    {root : String} {files : List SourceFile} (scanned : scan disk w.config root = .ok files) :
    ∃ w', w.indexRoot disk root = .ok (files.length, w') ∧ w'.documents = w.documents ∧
      ∀ (uri : String) d, w.documents[uri]? = some d →
        (w'.index.snapshot.Stores uri (contributionOf uri d.languageId d.text) ↔
          (uri ∈ files.map (·.uri) → w.index.ReloadKeeps disk.read uri
            (contributionOf uri d.languageId d.text))) := by
  refine ⟨_, indexRoot_of_scan scanned, rfl, fun uri d opened => ?_⟩
  obtain ⟨idle, stored⟩ := indexed uri d opened
  have sound := (reached.tended.foldl_fileAdded (files.map (·.uri))).sound
  have queue := SymbolIndex.queue_foldl_fileAdded (v := uri) (files.map (·.uri)) w.index
  have snapshot := SymbolIndex.snapshot_foldl_fileAdded (files.map (·.uri)) w.index
  have cache := SymbolIndex.cache_foldl_fileAdded (files.map (·.uri)) w.index
  rw [← snapshot] at stored
  by_cases below : uri ∈ files.map (·.uri)
  · rw [if_pos below] at queue
    have kept := sound.stores_update_reload_iff disk.read stored queue
    rw [SymbolIndex.ReloadKeeps, snapshot, cache] at kept
    exact kept.trans ⟨fun keeps _ => keeps, fun keeps => keeps below⟩
  · rw [if_neg below, idle] at queue
    exact iff_of_true (sound.stores_update_of_idle stored queue) fun h => absurd h below

end

/-- A root that is itself a file, with the text of its buffer. -/
theorem indexRoot_stores_iff_saved :
    let _ := Example.trees
    let _ := Example.digests
    let w := Example.buffered
    let files : List SourceFile := [⟨"/m.py", ["m.py"], .python⟩]
    Reached {"x"} w ∧ w.BuffersIndexed ∧
      scan (Example.diskWith "x") w.config "/m.py" = .ok files ∧
      ∃ w', w.indexRoot (Example.diskWith "x") "/m.py" = .ok (1, w') ∧
        w'.index.snapshot.Stores "file:///m.py" (contributionOf "file:///m.py" "python" "x") := by
  intro _ _ w files
  have scanned : scan (Example.diskWith "x") w.config "/m.py" = .ok files := by decide +kernel
  obtain ⟨w', rooted, -, stores⟩ :=
    indexRoot_stores_iff Example.reached_buffered Example.buffersIndexed_buffered scanned
  have opened : w.documents["file:///m.py"]? = some ⟨"python", "x", 1⟩ :=
    Example.documents_buffered.2 ⟨rfl, rfl⟩
  have seen : w.index.cache.view (Example.diskWith "x").read "file:///m.py" =
      some (.python, "x") := by decide +kernel
  have known : (w.index.snapshot.files["file:///m.py"]?).any (·.digest = Digest.ofText "x") := by
    decide +kernel
  exact ⟨Example.reached_buffered, Example.buffersIndexed_buffered, scanned, w', rooted,
    (stores _ _ opened).2 fun _ => ⟨.python, "x", seen, Or.inl known⟩⟩

/-- **A buffer that was edited loses its entries to those of its file when the files below a root
are taken up.** -/
theorem indexRoot_replaces_buffer :
    let _ := Example.trees
    let _ := Example.digests
    let w := Example.buffered
    Reached {"x"} w ∧ w.BuffersIndexed ∧
      w.documents["file:///m.py"]? = some ⟨"python", "x", 1⟩ ∧
      ∃ w', w.indexRoot (Example.diskWith "y") "/" = .ok (1, w') ∧
        ¬ w'.index.snapshot.Stores "file:///m.py"
          (contributionOf "file:///m.py" "python" "x") := by
  intro _ _ w
  have scanned : scan (Example.diskWith "y") w.config "/" =
      .ok [⟨"/m.py", ["m.py"], .python⟩] := by decide +kernel
  refine ⟨Example.reached_buffered, Example.buffersIndexed_buffered,
    Example.documents_buffered.2 ⟨rfl, rfl⟩, _, indexRoot_of_scan scanned, fun stored => ?_⟩
  have usages := stored.usages "x"
  revert usages
  decide +kernel

end Workspace

end CodeIndex
