import CodeIndex.Proofs.Scan.Walk
import Mathlib.Data.List.Lex
import Mathlib.Data.List.Nodup
import Mathlib.Data.String.Basic

/-!
# How many files a scan finds

A scan goes through the files that a walk comes to and takes up those that are eligible. Once it has
as many as the settings allow, it goes no further.

**What is found** (`Config.FindsFirst`). The files are the eligible ones of a beginning of the walk.
They are distinct and in order of their names, and there are as many as are eligible or as the limit
allows.

**Theorem (`scan_finds_first`).** This holds for any walk that comes to each file once, and the
program's own walk is one. The limit is looked at after a file has been taken up, so a limit of zero
lets one file through: the number is the smaller one of the limit and the count of eligible files,
unless the limit is zero and some file is eligible.
-/

namespace CodeIndex

/-! ## Eligible files -/

section Sources

variable {config : Config} {root : String} {f : VisitedFile} {file : SourceFile}
  {visited : List VisitedFile} {files : List SourceFile}

/-- The file has a size that the settings admit, and its path tells a language. -/
def VisitedFile.IsEligible (config : Config) (root : String) (f : VisitedFile) : Prop :=
  config.Admits f.size ∧ (Language.ofPath? (Path.join root ("/".intercalate f.names))).isSome

instance : Decidable (f.IsEligible config root) := inferInstanceAs (Decidable (_ ∧ _))

/-- A visited file and what is told of it when it is taken up. -/
structure VisitedFile.IsTakenAs (f : VisitedFile) (config : Config) (root : String)
    (file : SourceFile) : Prop where
  admitted : config.Admits f.size
  names : file.names = f.names
  path : file.path = Path.join root ("/".intercalate f.names)
  language : Language.ofPath? file.path = some file.language

theorem sourceFile?_eq_some (h : sourceFile? config root f = some file) :
    f.IsTakenAs config root file := by
  obtain ⟨admitted, path⟩ := exists_of_sourceFile? h
  unfold sourceFile? at h
  rw [if_pos admitted] at h
  obtain ⟨language, known, made⟩ := Option.map_eq_some_iff.1 h
  refine ⟨admitted, by rw [← made], path, ?_⟩
  rw [path, known, ← made]

theorem isSome_sourceFile? :
    (sourceFile? config root f).isSome = decide (f.IsEligible config root) := by
  unfold sourceFile? VisitedFile.IsEligible
  by_cases admitted : config.Admits f.size
  · simp [admitted]
  · simp [admitted]

/-- How many files of a walk are eligible. -/
def eligibleCount (config : Config) (root : String) (visited : List VisitedFile) : Nat :=
  visited.countP fun f => f.IsEligible config root

theorem length_sources :
    (sources config root visited).length = eligibleCount config root visited := by
  rw [sources, List.length_filterMap_eq_countP, eligibleCount]
  exact List.countP_congr fun f _ => by rw [isSome_sourceFile?]

theorem map_names_sources :
    (sources config root visited).map (·.names) =
      (visited.filter fun f => f.IsEligible config root).map (·.names) := by
  induction visited with
  | nil => rfl
  | cons f visited ih =>
    have told : (sourceFile? config root f).isSome = decide (f.IsEligible config root) :=
      isSome_sourceFile?
    rw [sources] at ih ⊢
    cases h : sourceFile? config root f with
    | none =>
      rw [h] at told
      simp only [List.filterMap_cons, h, List.filter_cons, ← told]
      exact ih
    | some file =>
      rw [h] at told
      simp only [List.filterMap_cons, h, List.filter_cons, ← told]
      rw [List.map_cons, ih, (sourceFile?_eq_some h).names]
      rfl

/-! ## The first of them -/

/-- The files are the first eligible ones of a walk, so many as the limit allows, in order of their
names. -/
structure Config.FindsFirst (config : Config) (root : String) (visited : List VisitedFile)
    (files : List SourceFile) : Prop where
  length : files.length = min (eligibleCount config root visited) (max config.scan.maxFiles 1)
  first : ∃ walked rest, visited = walked ++ rest ∧ files.Perm (sources config root walked)
  taken : ∀ file ∈ files, ∃ f ∈ visited, f.IsTakenAs config root file
  distinct : files.Nodup
  sorted : files.Pairwise fun a b => a.names < b.names

theorem length_sourceFiles (config : Config) (root : String) (visited : List VisitedFile) :
    (sourceFiles config root visited).length =
      min (eligibleCount config root visited) (max config.scan.maxFiles 1) := by
  rw [(sourceFiles_perm config root visited).length_eq, List.length_take, length_sources, min_comm]

/-- What lies behind the file that reaches the limit does not count. -/
theorem exists_walked (config : Config) (root : String) (visited : List VisitedFile) (n : Nat) :
    ∃ walked rest, visited = walked ++ rest ∧
      sources config root walked = (sources config root visited).take n := by
  have split := (List.take_append_drop n (sources config root visited)).symm
  obtain ⟨walked, rest, parts, first, -⟩ := List.filterMap_eq_append_iff.1 split
  exact ⟨walked, rest, parts, first⟩

theorem nodup_names_sourceFiles (once : (visited.map (·.names)).Nodup) :
    ((sourceFiles config root visited).map (·.names)).Nodup := by
  rw [((sourceFiles_perm config root visited).map _).nodup_iff, List.map_take]
  apply List.Nodup.sublist (List.take_sublist _ _)
  rw [map_names_sources]
  exact once.sublist (List.filter_sublist.map _)

theorem sorted_sourceFiles (once : (visited.map (·.names)).Nodup) :
    (sourceFiles config root visited).Pairwise fun a b => a.names < b.names := by
  have ordered : (sourceFiles config root visited).Pairwise fun a b =>
      (!decide (b.names < a.names)) = true := by
    apply List.pairwise_mergeSort
    · intro a b c hab hbc
      simp only [Bool.not_eq_true', decide_eq_false_iff_not, not_lt] at hab hbc ⊢
      exact hab.trans hbc
    · intro a b
      simpa using le_total a.names b.names
  have apart : (sourceFiles config root visited).Pairwise fun a b => a.names ≠ b.names :=
    List.pairwise_map.1 (nodup_names_sourceFiles once)
  refine (ordered.and apart).imp fun {a b} h => lt_of_le_of_ne ?_ h.2
  simpa using h.1

theorem findsFirst_sourceFiles (once : (visited.map (·.names)).Nodup) :
    config.FindsFirst root visited (sourceFiles config root visited) where
  length := length_sourceFiles config root visited
  first := by
    obtain ⟨walked, rest, parts, first⟩ :=
      exists_walked config root visited (max config.scan.maxFiles 1)
    refine ⟨walked, rest, parts, ?_⟩
    rw [first]
    exact sourceFiles_perm config root visited
  taken := by
    intro file mem
    obtain ⟨f, hf, made⟩ := exists_of_mem_sourceFiles mem
    exact ⟨f, hf, sourceFile?_eq_some made⟩
  distinct := List.Nodup.of_map _ (nodup_names_sourceFiles once)
  sorted := sorted_sourceFiles once

/-- As many files are found as the settings ask for, but for a limit of zero. -/
theorem length_sourceFiles_eq_iff :
    (sourceFiles config root visited).length =
        min (eligibleCount config root visited) config.scan.maxFiles ↔
      config.scan.maxFiles ≠ 0 ∨ eligibleCount config root visited = 0 := by
  rw [length_sourceFiles]
  omega

end Sources

/-! ## Scans of folders -/

theorem scan_of_walk [FolderWalk] {disk : Disk} {config : Config} {root : String}
    {es : List (String × DiskNode)} {walked : List (List String)}
    (folder : disk.node root = .ok (.folder es))
    (walk : FolderWalk.files disk root (allExclusionLines config.scan.excludedNames) = .ok walked) :
    scan disk config root =
      .ok (sourceFiles config root (walked.filterMap (VisitedFile.at? disk.read root))) := by
  simp only [scan, folder, walk, Except.mapError, bind, Except.bind, pure, Except.pure]

theorem map_names_at?_sublist (read : Reader) (root : String) (walked : List (List String)) :
    ((walked.filterMap (VisitedFile.at? read root)).map (·.names)).Sublist walked := by
  induction walked with
  | nil => exact .slnil
  | cons names walked ih =>
    cases looked : VisitedFile.at? read root names with
    | none =>
      rw [List.filterMap_cons_none looked]
      exact ih.cons _
    | some f =>
      rw [List.filterMap_cons_some looked, List.map_cons, (VisitedFile.exists_of_at? looked).1]
      exact ih.cons_cons names

/-- **A scan finds the first eligible files of its walk.** Whatever order the files are visited in,
if each is visited once, the eligible ones are taken up until the limit is reached and are given in
order of their names. There are as many as are eligible, or as the limit allows if that is less; if
the limit is zero and some file is eligible, there is one. The scan of a folder takes any walk that
comes to each file once, and visits the files that can be looked at. The program's own walk is
one. -/
theorem scan_finds_first (config : Config) (root : String) :
    (∀ visited : List VisitedFile, (visited.map (·.names)).Nodup →
      config.FindsFirst root visited (sourceFiles config root visited) ∧
      ((sourceFiles config root visited).length =
          min (eligibleCount config root visited) config.scan.maxFiles ↔
        config.scan.maxFiles ≠ 0 ∨ eligibleCount config root visited = 0)) ∧
    (∀ [FolderWalk] (disk : Disk) (es : List (String × DiskNode)) (walked : List (List String)),
      disk.node root = .ok (.folder es) →
      FolderWalk.files disk root (allExclusionLines config.scan.excludedNames) = .ok walked →
      walked.Nodup →
      let visited := walked.filterMap (VisitedFile.at? disk.read root)
      scan disk config root = .ok (sourceFiles config root visited) ∧
        (visited.map (·.names)).Nodup) ∧
    (∀ (disk : Disk) (es : List (String × DiskNode)) (rules : List IgnoreRule),
      disk.root.Proper → disk.node root = .ok (.folder es) →
      exclusionRules (allExclusionLines config.scan.excludedNames) = .ok rules →
      ∃ around,
        let walked := visitAll rules around [] es
        scan disk config root =
            .ok (sourceFiles config root (walked.filterMap (VisitedFile.at? disk.read root))) ∧
          walked.Nodup ∧
          ∀ names ∈ walked, ∃ content, (DiskNode.folder es).at? names = some (.file content) ∧
            ∀ f ∈ VisitedFile.at? disk.read root names, f.size = content.size) := by
  refine ⟨fun visited once => ⟨findsFirst_sourceFiles once, length_sourceFiles_eq_iff⟩, ?_, ?_⟩
  · intro _ disk es walked folder walk once
    exact ⟨scan_of_walk folder walk, once.sublist (map_names_at?_sublist ..)⟩
  · intro disk es rules proper folder built
    obtain ⟨around, walked⟩ := exists_walkBelow_eq folder rules
    have walk : FolderWalk.files disk root (allExclusionLines config.scan.excludedNames) =
        .ok (walkBelow disk root rules) := by
      simp only [FolderWalk.files, built, Except.mapError, Except.map]
    obtain ⟨once, inside⟩ := nodup_walkBelow proper folder rules
    rw [walked] at walk once inside
    exact ⟨around, scan_of_walk folder walk, once, fun names visited =>
      (inside names visited).exists_size folder⟩

namespace Example

/-- A folder with two sources, a text in no language and an empty source. -/
def mixedFolder : List (String × DiskNode) :=
  [("b.py", .file "x".toUTF8), ("a.py", .file "y".toUTF8), ("n.txt", .file "z".toUTF8),
    ("c.py", .file "".toUTF8)]

/-- The walk through this folder. -/
def mixedWalk : List VisitedFile := [⟨["b.py"], 1⟩, ⟨["a.py"], 1⟩, ⟨["n.txt"], 1⟩, ⟨["c.py"], 0⟩]

/-- A walk through its files in another order. -/
@[reducible]
def otherWalk : FolderWalk := ⟨fun _ _ _ => .ok [["n.txt"], ["a.py"], ["b.py"]]⟩

theorem proper_mixedFolder : (DiskNode.folder mixedFolder).Proper := by
  refine .folder (by decide) ?_ ?_
  · simp only [mixedFolder, List.forall_mem_cons]
    exact ⟨⟨by decide, by decide, by decide, by decide⟩,
      ⟨by decide, by decide, by decide, by decide⟩,
      ⟨by decide, by decide, by decide, by decide⟩, ⟨by decide, by decide, by decide, by decide⟩,
      by simp⟩
  · simp only [mixedFolder, List.forall_mem_cons]
    exact ⟨.file _, .file _, .file _, .file _, by simp⟩

end Example

/-- Two files are eligible and one is allowed: the first of each walk is found. -/
theorem scan_finds_first_one :
    let config : Config := { scan := { maxFiles := 1 } }
    let disk : Disk := { root := .folder Example.mixedFolder }
    (Example.mixedWalk.map (·.names)).Nodup ∧ eligibleCount config "/" Example.mixedWalk = 2 ∧
      sourceFiles config "/" Example.mixedWalk = [⟨"/b.py", ["b.py"], .python⟩] ∧
      config.FindsFirst "/" Example.mixedWalk [⟨"/b.py", ["b.py"], .python⟩] ∧
      disk.node "/" = .ok (.folder Example.mixedFolder) ∧
      @scan Example.otherWalk disk config "/" = .ok [⟨"/a.py", ["a.py"], .python⟩] ∧
      disk.root.Proper ∧ ∃ rules around,
        scan disk config "/" = .ok (sourceFiles config "/"
          ((visitAll rules around [] Example.mixedFolder).filterMap
            (VisitedFile.at? disk.read "/"))) := by
  intro config disk
  have once : (Example.mixedWalk.map (·.names)).Nodup := by decide
  have found : sourceFiles config "/" Example.mixedWalk = [⟨"/b.py", ["b.py"], .python⟩] := by
    decide +kernel
  have proper : disk.root.Proper := Example.proper_mixedFolder
  have placed : disk.place "/" = .ok [] := by decide +kernel
  have folder : disk.node "/" = .ok (.folder Example.mixedFolder) := by
    rw [Disk.node, placed]
    rfl
  have readable : (exclusionRules (allExclusionLines config.scan.excludedNames)).isOk = true := by
    decide +kernel
  obtain ⟨first, any, own⟩ := scan_finds_first config "/"
  refine ⟨once, by decide +kernel, found, ?_, folder, ?_, proper, ?_⟩
  · rw [← found]
    exact (first Example.mixedWalk once).1
  · rw [(@any Example.otherWalk disk _ _ folder rfl (by decide)).1]
    decide +kernel
  · cases built : exclusionRules (allExclusionLines config.scan.excludedNames) with
    | error e =>
      rw [built] at readable
      cases readable
    | ok rules =>
      obtain ⟨around, result, -⟩ := own disk Example.mixedFolder rules proper folder built
      exact ⟨rules, around, result⟩

/-- **A limit of zero lets one file through.** -/
theorem limit_zero_finds_one :
    let config : Config := { scan := { maxFiles := 0 } }
    let disk : Disk := { root := .folder [("m.py", .file "x".toUTF8)] }
    eligibleCount config "/" [⟨["m.py"], 1⟩] = 1 ∧
      (sourceFiles config "/" [⟨["m.py"], 1⟩]).length ≠
        min (eligibleCount config "/" [⟨["m.py"], 1⟩]) config.scan.maxFiles ∧
      scan disk config "/" = .ok [⟨"/m.py", ["m.py"], .python⟩] := by
  intro config disk
  refine ⟨?_, ?_, ?_⟩ <;> decide +kernel

end CodeIndex
