import CodeIndex.Proofs.Files.Disk
import CodeIndex.Scan.Sources

/-!
# The files that a scan finds

A scan goes through the files that the walk comes to, and takes up source files among them. It stops
when it has as many as the settings allow (`toList_takeUp`), and at the first of them if they allow
none.

**Theorem (`admits_of_scan`).** If a file is found and its path can be read, what is read has a size
that the settings admit. This holds whatever the walk gives, as sizes are looked up by the paths.
-/

namespace CodeIndex

variable {config : Config} {root : String} {f : VisitedFile} {file : SourceFile}
  {visited : List VisitedFile}

/-! ## Taking up files -/

theorem exists_of_sourceFile? (h : sourceFile? config root f = some file) :
    config.Admits f.size ∧ file.path = Path.join root ("/".intercalate f.names) := by
  unfold sourceFile? at h
  split at h
  · rename_i admitted
    obtain ⟨language, -, made⟩ := Option.map_eq_some_iff.1 h
    exact ⟨admitted, by rw [← made]⟩
  · cases h

/-- All files of a walk that are taken up if nothing stops it. -/
def sources (config : Config) (root : String) (visited : List VisitedFile) : List SourceFile :=
  visited.filterMap (sourceFile? config root)

/-- **Files are taken up until there are as many as the settings allow, but one at least.** -/
theorem toList_takeUp {taken : Array SourceFile} (room : taken.size < max config.scan.maxFiles 1) :
    (takeUp config root taken visited).toList =
      taken.toList ++
        (sources config root visited).take (max config.scan.maxFiles 1 - taken.size) := by
  induction visited generalizing taken with
  | nil => simp [takeUp, sources]
  | cons f rest ih =>
    rw [takeUp, sources]
    cases found : sourceFile? config root f with
    | none =>
      rw [List.filterMap_cons_none found]
      exact ih room
    | some file =>
      have one_more : max config.scan.maxFiles 1 - taken.size =
          max config.scan.maxFiles 1 - (taken.size + 1) + 1 := by omega
      rw [List.filterMap_cons_some found, one_more, List.take_succ_cons]
      dsimp only
      split
      · rename_i full
        rw [Array.size_push] at full
        have last : max config.scan.maxFiles 1 - (taken.size + 1) = 0 := by omega
        rw [last, List.take_zero, Array.toList_push]
      · rename_i going
        rw [Array.size_push] at going
        rw [ih (by rw [Array.size_push]; omega), Array.toList_push, Array.size_push,
          List.append_assoc, List.singleton_append]
        rfl

theorem sourceFiles_perm (config : Config) (root : String) (visited : List VisitedFile) :
    (sourceFiles config root visited).Perm
      ((sources config root visited).take (max config.scan.maxFiles 1)) := by
  have taken : (takeUp config root #[] visited).toList =
      (sources config root visited).take (max config.scan.maxFiles 1) :=
    toList_takeUp (by rw [Array.size_empty]; omega)
  rw [sourceFiles, taken]
  exact List.mergeSort_perm _ _

theorem exists_of_mem_sourceFiles (mem : file ∈ sourceFiles config root visited) :
    ∃ f ∈ visited, sourceFile? config root f = some file :=
  List.mem_filterMap.1 (List.mem_of_mem_take ((sourceFiles_perm config root visited).mem_iff.1 mem))

/-! ## Scans -/

theorem VisitedFile.exists_of_at? {read : Reader} {names : List String}
    (h : VisitedFile.at? read root names = some f) :
    f.names = names ∧
      ∃ content, read (Path.join root ("/".intercalate names)) = .ok content ∧
        f.size = content.size := by
  unfold VisitedFile.at? at h
  split at h
  · rename_i content there
    cases h
    exact ⟨rfl, content, there, rfl⟩
  · cases h

theorem exists_of_singleFile? {size : Nat} (h : singleFile? config root size = some file) :
    config.Admits size ∧ file.path = root := by
  unfold singleFile? at h
  obtain ⟨language, -, h⟩ := Option.bind_eq_some_iff.1 h
  split at h
  · rename_i admitted
    obtain ⟨name, -, made⟩ := Option.bind_eq_some_iff.1 h
    cases made
    exact ⟨admitted, rfl⟩
  · cases h

variable [FolderWalk] {disk : Disk} {files : List SourceFile} {bytes : ByteArray}

/-- The files of a scan are the root, or source files among those that the walk comes to. -/
theorem cases_of_scan (scanned : scan disk config root = .ok files) :
    (∃ content, disk.node root = .ok (.file content) ∧
      files = (singleFile? config root content.size).toList) ∨
    ∃ es walked, disk.node root = .ok (.folder es) ∧
      FolderWalk.files disk root (allExclusionLines config.scan.excludedNames) = .ok walked ∧
      files = sourceFiles config root (walked.filterMap (VisitedFile.at? disk.read root)) := by
  unfold scan at scanned
  cases there : disk.node root with
  | error e => simp [there, Except.mapError, bind, Except.bind] at scanned
  | ok node =>
    cases node with
    | file content =>
      simp only [there, Except.mapError, bind, Except.bind, pure, Except.pure] at scanned
      cases scanned
      exact Or.inl ⟨content, rfl, rfl⟩
    | folder es =>
      cases walk : FolderWalk.files disk root (allExclusionLines config.scan.excludedNames) with
      | error e => simp [there, walk, Except.mapError, bind, Except.bind] at scanned
      | ok walked =>
        simp only [there, walk, Except.mapError, bind, Except.bind, pure, Except.pure] at scanned
        cases scanned
        exact Or.inr ⟨es, walked, rfl, rfl, rfl⟩

/-- **A file that is found has an admitted size,** if it can be read by its path. -/
theorem admits_of_scan (scanned : scan disk config root = .ok files) (mem : file ∈ files)
    (readable : disk.read file.path = .ok bytes) : config.Admits bytes.size := by
  rcases cases_of_scan scanned with ⟨content, single, rfl⟩ | ⟨es, walked, folder, -, rfl⟩
  · obtain ⟨admitted, path⟩ := exists_of_singleFile? (Option.mem_toList.1 mem)
    have there := Disk.read_eq_ok readable
    rw [path, single] at there
    cases there
    exact admitted
  · obtain ⟨f, visited, made⟩ := exists_of_mem_sourceFiles mem
    obtain ⟨admitted, path⟩ := exists_of_sourceFile? made
    obtain ⟨names, -, looked⟩ := List.mem_filterMap.1 visited
    obtain ⟨rfl, content, there, size⟩ := VisitedFile.exists_of_at? looked
    rw [path, there] at readable
    cases readable
    exact size ▸ admitted

end CodeIndex
