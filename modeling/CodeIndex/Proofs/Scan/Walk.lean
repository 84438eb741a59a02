import CodeIndex.Proofs.Scan.Found
import CodeIndex.Scan.Walk
import Mathlib.Data.List.Nodup

/-!
# The program's own walk

On a disk whose folders have distinct proper names, the walk below a folder comes to files of this
folder, and to none of them twice (`nodup_walkBelow`). Where a file can be looked at by its path, it
has the size that it has in the folder (`LeadsIn.exists_size`).
-/

namespace CodeIndex

variable {rules : List IgnoreRule} {around : Surroundings} {above names : List String}
  {name : String} {es : List (String × DiskNode)} {node : DiskNode}

theorem mem_visitAll :
    names ∈ visitAll rules around above es ↔
      ∃ e ∈ es, leavesOut rules around above e.1 e.2.isFolder = false ∧
        names ∈ visit rules around above e.1 e.2 := by
  induction es with
  | nil => simp [visitAll]
  | cons e es ih =>
    obtain ⟨n, node⟩ := e
    cases h : leavesOut rules around above n node.isFolder <;> simp [visitAll, h, ih]

/-- Behind the names above a file or folder, the names lead to a file in it. -/
def LeadsIn (above : List String) (node : DiskNode) (names : List String) : Prop :=
  ∃ rest content, names = above ++ rest ∧ (∀ n ∈ rest, IsName n) ∧
    node.at? rest = some (.file content)

theorem LeadsIn.entry {e : String × DiskNode} (proper : (DiskNode.folder es).Proper)
    (entry : e ∈ es) (inside : LeadsIn (above ++ [e.1]) e.2 names) :
    LeadsIn above (.folder es) names := by
  cases proper with
  | folder distinct named =>
    obtain ⟨rest, content, names_eq, rest_named, found⟩ := inside
    refine ⟨e.1 :: rest, content, ?_, List.forall_mem_cons.2 ⟨named e entry, rest_named⟩, ?_⟩
    · rw [names_eq, List.append_assoc]
      rfl
    · rw [DiskNode.at?, DiskNode.entries, DiskNode.lookup_of_mem distinct entry]
      exact found

theorem leadsIn_of_mem_visit (proper : node.Proper)
    (mem : names ∈ visit rules around above name node) : LeadsIn (above ++ [name]) node names := by
  induction proper generalizing around above name with
  | file content =>
    rw [visit, List.mem_singleton] at mem
    subst mem
    exact ⟨[], content, (List.append_nil _).symm, by simp, rfl⟩
  | folder distinct named inner ih =>
    rw [visit, mem_visitAll] at mem
    obtain ⟨e, entry, -, mem⟩ := mem
    exact .entry (.folder distinct named inner) entry (ih e entry mem)

theorem leadsIn_of_mem_visitAll (proper : (DiskNode.folder es).Proper)
    (mem : names ∈ visitAll rules around above es) : LeadsIn above (.folder es) names := by
  obtain ⟨e, entry, -, mem⟩ := mem_visitAll.1 mem
  cases proper with
  | folder distinct named inner =>
    exact .entry (.folder distinct named inner) entry (leadsIn_of_mem_visit (inner e entry) mem)

/-- Files that are visited in distinct entries have distinct names. -/
theorem nodup_visitAll_of (distinct : (es.map (·.1)).Nodup) (inner : ∀ e ∈ es, e.2.Proper)
    (each : ∀ e ∈ es, (visit rules around above e.1 e.2).Nodup) :
    (visitAll rules around above es).Nodup := by
  induction es with
  | nil => exact List.nodup_nil
  | cons e es ih =>
    obtain ⟨fresh, distinct⟩ := List.nodup_cons.1 distinct
    have rest := ih distinct (fun d hd => inner d (List.mem_cons_of_mem _ hd))
      fun d hd => each d (List.mem_cons_of_mem _ hd)
    rw [visitAll]
    split
    · exact rest
    refine List.nodup_append.2 ⟨each e List.mem_cons_self, rest, ?_⟩
    rintro names visited _ visited' rfl
    obtain ⟨d, hd, -, visited'⟩ := mem_visitAll.1 visited'
    obtain ⟨more, -, told, -⟩ := leadsIn_of_mem_visit (inner e List.mem_cons_self) visited
    obtain ⟨more', -, told', -⟩ :=
      leadsIn_of_mem_visit (inner d (List.mem_cons_of_mem _ hd)) visited'
    rw [told, List.append_assoc, List.append_assoc, List.append_cancel_left_eq] at told'
    have entry : e.1 = d.1 := (List.cons.inj told').1
    exact fresh (List.mem_map.2 ⟨d, hd, entry.symm⟩)

theorem nodup_visit (proper : node.Proper) : (visit rules around above name node).Nodup := by
  induction proper generalizing around above name with
  | file content => simp [visit]
  | folder distinct named inner ih =>
    rw [visit]
    exact nodup_visitAll_of distinct inner fun e he => ih e he

theorem nodup_visitAll (proper : (DiskNode.folder es).Proper) :
    (visitAll rules around above es).Nodup := by
  cases proper with
  | folder distinct named inner =>
    exact nodup_visitAll_of distinct inner fun e he => nodup_visit (inner e he)

theorem exists_walkBelow_eq {disk : Disk} {root : String}
    (folder : disk.node root = .ok (.folder es)) (rules : List IgnoreRule) :
    ∃ around, walkBelow disk root rules = visitAll rules around [] es := by
  obtain ⟨place, placed, -⟩ := Disk.node_eq_ok folder
  refine ⟨(FolderRules.ofFolder (.folder es), []) :: Surroundings.around disk.root place, ?_⟩
  rw [walkBelow, placed, folder]

/-- The walk comes to files of the folder, and to each of them once. -/
theorem nodup_walkBelow {disk : Disk} {root : String} (proper : disk.root.Proper)
    (folder : disk.node root = .ok (.folder es)) (rules : List IgnoreRule) :
    (walkBelow disk root rules).Nodup ∧
      ∀ names ∈ walkBelow disk root rules, LeadsIn [] (.folder es) names := by
  obtain ⟨around, walked⟩ := exists_walkBelow_eq folder rules
  obtain ⟨place, -, inside⟩ := Disk.node_eq_ok folder
  rw [walked]
  have proper := proper.at? inside
  exact ⟨nodup_visitAll proper, fun names => leadsIn_of_mem_visitAll proper⟩

theorem LeadsIn.exists_size {disk : Disk} {root : String} (inside : LeadsIn [] (.folder es) names)
    (folder : disk.node root = .ok (.folder es)) :
    ∃ content, (DiskNode.folder es).at? names = some (.file content) ∧
      ∀ f ∈ VisitedFile.at? disk.read root names, f.size = content.size := by
  obtain ⟨rest, content, rfl, named, found⟩ := inside
  refine ⟨content, found, fun f looked => ?_⟩
  obtain ⟨-, bytes, readable, size⟩ := VisitedFile.exists_of_at? looked
  rw [size, Disk.read_join folder named found readable]

end CodeIndex
