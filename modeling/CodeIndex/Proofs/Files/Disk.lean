import CodeIndex.Files.Disk
import Mathlib.Data.List.Basic

/-!
# Paths below a folder

A path is followed name by name. If it is put together from the path of a folder and some names, it
leads to where these names lead from the folder.

**Disks** (`DiskNode.Proper`). On a disk as systems keep it, no two entries of a folder have one
name, and a name is not empty, has no slash, and is neither `.` nor `..`.

**Theorem (`read_join`).** Where names lead to a file from a folder, the path of the folder with
these names behind it reads that file, if it can be read at all. A path that is too long, or has a
NUL in it, cannot.
-/

namespace CodeIndex

/-! ## Names -/

/-- What an entry of a folder may be called. -/
structure IsName (n : String) : Prop where
  not_empty : n ≠ ""
  not_here : n ≠ "."
  not_above : n ≠ ".."
  no_slash : '/' ∉ n.toList

/-- In every folder the entries have distinct names, and each is called what an entry may be
called. -/
inductive DiskNode.Proper : DiskNode → Prop
  | file (content : ByteArray) : Proper (.file content)
  | folder {es : List (String × DiskNode)} (distinct : (es.map (·.1)).Nodup)
      (named : ∀ e ∈ es, IsName e.1) (inner : ∀ e ∈ es, e.2.Proper) : Proper (.folder es)

namespace DiskNode

variable {n node : DiskNode} {es : List (String × DiskNode)} {name : String}

theorem lookup_of_mem (distinct : (es.map (·.1)).Nodup) {e : String × DiskNode} (mem : e ∈ es) :
    es.lookup e.1 = some e.2 := by
  induction es with
  | nil => cases mem
  | cons d es ih =>
    obtain ⟨fresh, distinct⟩ := List.nodup_cons.1 distinct
    rcases List.mem_cons.1 mem with rfl | mem
    · exact List.lookup_cons_self
    · have other : (e.1 == d.1) = false := by
        refine beq_eq_false_iff_ne.2 fun same => fresh ?_
        exact List.mem_map.2 ⟨e, mem, same⟩
      rw [List.lookup_cons, other]
      exact ih distinct mem

theorem mem_of_lookup (found : es.lookup name = some n) : (name, n) ∈ es := by
  obtain ⟨before, after, split, -⟩ := List.lookup_eq_some_iff.1 found
  rw [split]
  exact List.mem_append_right _ List.mem_cons_self

theorem at?_append (node : DiskNode) (ns ms : List String) :
    node.at? (ns ++ ms) = (node.at? ns).bind (·.at? ms) := by
  induction ns generalizing node with
  | nil => rfl
  | cons name ns ih =>
    rw [List.cons_append, at?, at?]
    cases node.entries.lookup name with
    | none => rfl
    | some next => exact ih next

theorem Proper.at? {ns : List String} (proper : node.Proper) (found : node.at? ns = some n) :
    n.Proper := by
  induction ns generalizing node with
  | nil =>
    cases found
    exact proper
  | cons name ns ih =>
    rw [DiskNode.at?] at found
    split at found
    · rename_i next hn
      cases proper with
      | file => cases hn
      | folder _ _ inner => exact ih (inner _ (mem_of_lookup hn)) found
    · cases found

end DiskNode

/-! ## Following names -/

namespace Disk

variable {root node : DiskNode} {dir place target names more : List String} {name : String}
  {es : List (String × DiskNode)} {content : ByteArray}

/-- Names lead from a folder to a place: what `follow` does when nothing is in the way. The folder
is given innermost first. -/
inductive Leads (root : DiskNode) : List String → List String → List String → Prop
  | done (dir : List String) : Leads root dir [] dir.reverse
  | stay {dir rest place : List String} {name : String} (here : name = ".") :
      Leads root dir rest place → Leads root dir (name :: rest) place
  | up {dir rest place : List String} {name : String} (above : name = "..") :
      Leads root dir.tail rest place → Leads root dir (name :: rest) place
  | down {dir rest place : List String} {name : String} {es : List (String × DiskNode)}
      (here : name ≠ ".") (above : name ≠ "..")
      (folder : root.at? (name :: dir).reverse = some (.folder es)) :
      Leads root (name :: dir) rest place → Leads root dir (name :: rest) place
  | file {dir rest : List String} {name : String} {content : ByteArray} (here : name ≠ ".")
      (above : name ≠ "..") (file : root.at? (name :: dir).reverse = some (.file content))
      (last : rest = []) : Leads root dir (name :: rest) (name :: dir).reverse

theorem leads_of_follow (followed : follow root dir names = .ok place) :
    Leads root dir names place := by
  induction names generalizing dir with
  | nil =>
    cases followed
    exact .done dir
  | cons name rest ih =>
    rw [follow] at followed
    split at followed
    · exact .stay ‹_› (ih followed)
    split at followed
    · exact .up ‹_› (ih followed)
    split at followed
    · cases followed
    rename_i here above long
    split at followed
    · cases followed
    · rename_i folder
      exact .down here above folder (ih followed)
    · rename_i file
      split at followed
      · rename_i last
        cases followed
        exact .file here above file (List.isEmpty_iff.1 last)
      · cases followed

theorem Leads.of_snoc_here (leads : Leads root dir (names ++ ["."]) place) :
    Leads root dir names place := by
  induction names generalizing dir with
  | nil =>
    cases leads with
    | stay _ rest => exact rest
    | up above => exact absurd above (by decide)
    | down here => exact absurd rfl here
    | file here => exact absurd rfl here
  | cons name names ih =>
    cases leads with
    | stay here rest => exact .stay here (ih rest)
    | up above rest => exact .up above (ih rest)
    | down here above folder rest => exact .down here above folder (ih rest)
    | file _ _ _ last => simp at last

theorem Leads.drop (leads : Leads root dir names place)
    (inside : root.at? place = some (.folder es))
    (further : Leads root dir (names ++ more) target) :
    Leads root place.reverse more target := by
  induction leads with
  | done dir => simpa using further
  | stay here _ ih =>
    cases further with
    | stay _ rest => exact ih inside rest
    | up above => exact absurd (here.symm.trans above) (by decide)
    | down other => exact absurd here other
    | file other => exact absurd here other
  | up above _ ih =>
    cases further with
    | stay here => exact absurd (here.symm.trans above) (by decide)
    | up _ rest => exact ih inside rest
    | down _ other => exact absurd above other
    | file _ other => exact absurd above other
  | down here above folder _ ih =>
    cases further with
    | stay same => exact absurd same here
    | up same => exact absurd same above
    | down _ _ _ rest => exact ih inside rest
    | file _ _ file =>
      rw [folder] at file
      cases file
  | file _ _ file =>
    rw [file] at inside
    cases inside

/-- Proper names lead where they lead in the tree. -/
theorem Leads.eq_append (start : root.at? dir.reverse = some node) (named : ∀ n ∈ names, IsName n)
    (found : node.at? names = some (.file content)) (leads : Leads root dir names place) :
    place = dir.reverse ++ names := by
  induction leads generalizing node with
  | done dir => exact (List.append_nil _).symm
  | stay here => exact absurd here (named _ List.mem_cons_self).not_here
  | up above => exact absurd above (named _ List.mem_cons_self).not_above
  | file _ _ _ last => rw [last, List.reverse_cons]
  | @down dir rest place name es _ _ folder _ ih =>
    have next : root.at? (name :: dir).reverse = node.at? [name] := by
      rw [List.reverse_cons, DiskNode.at?_append, start, Option.bind_some]
    have rest_found : (DiskNode.folder es).at? rest = some (.file content) := by
      rw [← List.singleton_append, DiskNode.at?_append, ← next, folder, Option.bind_some] at found
      exact found
    rw [ih folder (fun n hn => named n (List.mem_cons_of_mem _ hn)) rest_found, List.reverse_cons,
      List.append_assoc]
    rfl

end Disk

/-! ## Paths below a folder -/

namespace Path

variable {base child : String} {names : List String}

/-- The names on a path, as far as they say something. -/
def steps (p : String) : List String := (pieces p).filter (· ≠ "")

theorem pieces_slash (p q : String) : pieces (p ++ "/" ++ q) = pieces p ++ pieces q := by
  have chars : (p ++ "/" ++ q).toList = p.toList ++ '/' :: q.toList := by simp
  rw [pieces, chars, List.splitOn_append_cons_self, List.map_append]
  rfl

theorem steps_slash (p q : String) : steps (p ++ "/" ++ q) = steps p ++ steps q := by
  rw [steps, pieces_slash, List.filter_append]
  rfl

theorem pieces_intercalate (some_name : names ≠ []) (named : ∀ n ∈ names, '/' ∉ n.toList) :
    pieces ("/".intercalate names) = names := by
  have chars : ("/".intercalate names).toList = ['/'].intercalate (names.map (·.toList)) :=
    String.toList_intercalate
  rw [pieces, chars, List.splitOn_intercalate, List.map_map]
  · exact (List.map_congr_left fun n _ => String.ofList_toList).trans (List.map_id names)
  · simpa using named
  · simpa using some_name

theorem steps_intercalate (named : ∀ n ∈ names, IsName n) :
    steps ("/".intercalate names) = names := by
  by_cases none : names = []
  · subst none
    rfl
  · rw [steps, pieces_intercalate none fun n hn => (named n hn).no_slash]
    exact List.filter_eq_self.2 fun n hn => by simpa using (named n hn).not_empty

theorem not_isAbsolute_intercalate (named : ∀ n ∈ names, IsName n) :
    isAbsolute ("/".intercalate names) = false := by
  refine Bool.eq_false_iff.2 fun absolute => ?_
  obtain ⟨rest, begins⟩ := String.startsWith_string_iff.1 absolute
  have path : "/".intercalate names = "" ++ "/" ++ String.ofList rest := by
    refine String.toList_inj.1 (begins.symm.trans ?_)
    simp
  by_cases none : names = []
  · subst none
    cases begins
  · have pieces_eq := pieces_intercalate none fun n hn => (named n hn).no_slash
    rw [path, pieces_slash] at pieces_eq
    have empty : "" ∈ names := pieces_eq ▸ List.mem_append_left _ (by decide)
    exact (named "" empty).not_empty rfl

/-- What stands before names that are joined to a path: the path, with a slash at its end. -/
theorem exists_join_eq (some_base : base ≠ "") (relative : isAbsolute child = false) :
    ∃ p, join base child = p ++ "/" ++ child ∧ steps p = steps base ∧
      (p = base ∨ base = p ++ "/") := by
  have not_empty : base.isEmpty = false := by simpa using some_base
  rw [join, relative, not_empty]
  simp only [Bool.or_false, Bool.false_eq_true, if_false]
  split
  · rename_i slash
    rw [String.endsWith_eq_endsWith_toSlice, String.Slice.endsWith_string_iff] at slash
    obtain ⟨p, ends⟩ := slash
    have base_eq : base = String.ofList p ++ "/" := by
      refine String.toList_inj.1 ?_
      simpa using ends.symm
    refine ⟨String.ofList p, by rw [← base_eq], ?_, Or.inr base_eq⟩
    rw [base_eq, ← String.append_empty (s := String.ofList p ++ "/"), steps_slash]
    exact (List.append_nil _).symm
  · exact ⟨base, rfl, rfl, Or.inl rfl⟩

theorem steps_join (some_base : base ≠ "") (named : ∀ n ∈ names, IsName n) :
    steps (join base ("/".intercalate names)) = steps base ++ names := by
  obtain ⟨p, joined, same, -⟩ := exists_join_eq some_base (not_isAbsolute_intercalate named)
  rw [joined, steps_slash, same, steps_intercalate named]

theorem isAbsolute_append (some_base : base ≠ "") (more : String) :
    isAbsolute (base ++ more) = isAbsolute base := by
  have some_char : base.toList ≠ [] := fun none => some_base (String.toList_inj.1 none)
  refine Bool.eq_iff_iff.2 ?_
  rw [isAbsolute, isAbsolute, String.startsWith_string_iff, String.startsWith_string_iff,
    String.toList_append]
  cases chars : base.toList with
  | nil => exact absurd chars some_char
  | cons c cs => simp

theorem isAbsolute_join (some_base : base ≠ "") (relative : isAbsolute child = false) :
    isAbsolute (join base child) = isAbsolute base := by
  obtain ⟨p, joined, -, rfl | ends⟩ := exists_join_eq some_base relative
  · rw [joined, String.append_assoc, isAbsolute_append some_base]
  · rw [joined, ← ends, isAbsolute_append some_base]

end Path

namespace Disk

variable {d : Disk} {p base : String} {place names : List String} {n : DiskNode}
  {es : List (String × DiskNode)} {content bytes : ByteArray}

theorem leads_of_place (placed : d.place p = .ok place) :
    Leads d.root (if Path.isAbsolute p then [] else d.current.reverse) (Path.steps p) place := by
  rw [Disk.place] at placed
  split at placed
  · cases placed
  split at placed
  · cases placed
  split at placed
  · cases placed
  have leads := leads_of_follow placed
  rw [Disk.names] at leads
  by_cases slash : p.endsWith "/" = true
  · rw [if_pos slash] at leads
    exact leads.of_snoc_here
  · rw [if_neg slash, List.append_nil] at leads
    exact leads

theorem ne_empty_of_place (placed : d.place p = .ok place) : p ≠ "" := by
  rintro rfl
  simp [Disk.place] at placed

theorem node_eq_ok (found : d.node p = .ok n) :
    ∃ place, d.place p = .ok place ∧ d.root.at? place = some n := by
  unfold node at found
  cases placed : d.place p with
  | error e => simp [placed, Except.bind] at found
  | ok place =>
    refine ⟨place, rfl, ?_⟩
    cases there : d.root.at? place with
    | none => simp [placed, there, Except.bind] at found
    | some m => simpa [placed, there, Except.bind] using found

theorem read_eq_ok (readable : d.read p = .ok bytes) : d.node p = .ok (.file bytes) := by
  unfold read at readable
  cases there : d.node p with
  | error e => simp [there, Except.bind] at readable
  | ok m =>
    cases m with
    | folder es => simp [there, Except.bind] at readable
    | file content => simpa [there, Except.bind] using readable

/-- **The path of a folder with names behind it reads the file that the names lead to,** if it can
be read. -/
theorem read_join (folder : d.node base = .ok (.folder es)) (named : ∀ n ∈ names, IsName n)
    (found : (DiskNode.folder es).at? names = some (.file content))
    (readable : d.read (Path.join base ("/".intercalate names)) = .ok bytes) : bytes = content := by
  obtain ⟨place, placed, inside⟩ := node_eq_ok folder
  obtain ⟨target, reached, file⟩ := node_eq_ok (read_eq_ok readable)
  have leads := leads_of_place placed
  have further := leads_of_place reached
  have some_base := ne_empty_of_place placed
  rw [Path.isAbsolute_join some_base (Path.not_isAbsolute_intercalate named),
    Path.steps_join some_base named] at further
  have rest := leads.drop inside further
  have start : d.root.at? place.reverse.reverse = some (.folder es) := by rwa [List.reverse_reverse]
  have target_eq := rest.eq_append start named found
  rw [target_eq, List.reverse_reverse, DiskNode.at?_append, inside, Option.bind_some, found] at file
  cases file
  rfl

end Disk

end CodeIndex
