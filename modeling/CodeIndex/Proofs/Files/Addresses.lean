import CodeIndex.Proofs.Files.Cache
import CodeIndex.Proofs.Files.Disk

/-!
# Addresses that lead back

A file's address is made from its path, and the cache makes a path of the address again when the
file is to be read. Two things get lost on the way.

**Backslashes.** In an address there are only forward slashes, so a backslash in a name comes back
as a slash.

**Drives** (`Uri.DropsSlash`). If one byte and a colon stand behind the first slash, with something
after them, they are taken for a drive, and the slash is dropped.

**Theorem (`path?_ofPath_iff`).** The address of an absolute path leads back to the path if and only
if neither is the case. Two absolute paths have one address if and only if they differ in the kind
of slashes alone. The cache reads the file at the path itself if and only if the address leads back
to it.

The path `//:x` stands apart: it comes back as `/:x`, which is another text for the same path
(`Path.Same`).
-/

namespace CodeIndex

/-! ## Paths that are the same -/

namespace Path

variable {p q : String} {c : Char}

/-- Two paths start from one place and have the same parts. -/
structure Same (p q : String) : Prop where
  absolute : isAbsolute p = isAbsolute q
  parts : parts p = parts q

theorem isAbsolute_iff : isAbsolute p = true ↔ p.toList.head? = some '/' := by
  rw [isAbsolute, String.startsWith_string_iff]
  cases p.toList with
  | nil => simp
  | cons d ds => simp [eq_comm]

theorem exists_mem_pieces (other : c ≠ '/') :
    (∃ s ∈ pieces p, c ∈ s.toList) ↔ c ∈ p.toList := by
  have cut : ∀ cs : List Char, (∃ l ∈ cs.splitOn '/', c ∈ l) ↔ c ∈ cs := by
    intro cs
    induction cs with
    | nil => simp [List.splitOn_nil]
    | cons d cs ih =>
      rw [List.splitOn_cons_eq_if_modifyHead, List.mem_cons, ← ih]
      by_cases slash : d = '/'
      · subst slash
        simp [other]
      · obtain ⟨first, rest, split⟩ := List.exists_cons_of_ne_nil (List.splitOn_ne_nil '/' cs)
        simp [slash, split, or_assoc]
  rw [← cut, pieces]
  simp

/-- The parts of a path hold all its characters but slashes and dots. -/
theorem exists_mem_parts (slash : c ≠ '/') (dot : c ≠ '.') :
    (∃ s ∈ parts p, c ∈ s.toList) ↔ c ∈ p.toList := by
  rw [← exists_mem_pieces slash]
  constructor
  · rintro ⟨s, hs, hc⟩
    exact ⟨s, (List.mem_filter.1 hs).1, hc⟩
  · rintro ⟨s, hs, hc⟩
    refine ⟨s, List.mem_filter.2 ⟨hs, ?_⟩, hc⟩
    have something : s ≠ "" := by
      rintro rfl
      simp at hc
    have no_dot : s ≠ "." := by
      rintro rfl
      simp [dot] at hc
    simp [something, no_dot]

theorem Same.mem_iff (same : Same p q) (slash : c ≠ '/') (dot : c ≠ '.') :
    c ∈ p.toList ↔ c ∈ q.toList := by
  rw [← exists_mem_parts slash dot, same.parts, exists_mem_parts slash dot]

theorem same_cons_slash (absolute : isAbsolute p = true) :
    Same p (String.ofList ('/' :: p.toList)) := by
  refine ⟨?_, ?_⟩
  · rw [absolute, eq_comm, isAbsolute_iff]
    simp
  · rw [parts, parts, pieces, pieces, String.toList_ofList, List.splitOn_cons_eq_if_modifyHead]
    simp

end Path

/-! ## What an address keeps of a path -/

namespace Uri

variable {p q : String}

/-- A character of a path as it stands in an address. -/
def slashed (c : Char) : Char := if c = '\\' then '/' else c

/-- The slash in front of a path is dropped when its address is read: there is one byte and a colon
behind it, and something after them. -/
def DropsSlash (p : String) : Prop :=
  ∃ c d rest, p.toList = '/' :: c :: ':' :: d :: rest ∧ c.utf8Size = 1

theorem slashed_eq_self_iff (cs : List Char) : cs.map slashed = cs ↔ '\\' ∉ cs := by
  induction cs with
  | nil => simp
  | cons c cs ih =>
    rw [List.map_cons, List.cons.injEq, ih, List.mem_cons, not_or]
    by_cases backslash : c = '\\'
    · simp [slashed, backslash]
    · simp [slashed, backslash, Ne.symm backslash]

theorem backslash_not_mem_slashed (cs : List Char) : '\\' ∉ cs.map slashed := by
  intro mem
  obtain ⟨c, -, becomes⟩ := List.mem_map.1 mem
  unfold slashed at becomes
  split at becomes
  · exact absurd becomes (by decide)
  · contradiction

theorem toList_ofPath (absolute : Path.isAbsolute p = true) :
    (ofPath p).toList = scheme ++ p.toList.map slashed := by
  have first : (p.toList.map slashed).head? = some '/' := by
    rw [List.head?_map, Path.isAbsolute_iff.1 absolute]
    rfl
  show (String.ofList (scheme ++ (if (p.toList.map slashed).head? = some '/'
    then p.toList.map slashed else '/' :: p.toList.map slashed))).toList =
      scheme ++ p.toList.map slashed
  rw [if_pos first, String.toList_ofList]

theorem path?_ofPath (absolute : Path.isAbsolute p = true) :
    path? (ofPath p) = some (String.ofList (dropDriveSlash (p.toList.map slashed))) := by
  have begins : scheme.isPrefixOf (scheme ++ p.toList.map slashed) = true := by simp
  rw [path?, toList_ofPath absolute, if_pos begins, List.drop_left]

theorem dropDriveSlash_sublist (cs : List Char) : (dropDriveSlash cs).Sublist cs := by
  unfold dropDriveSlash
  split
  · split
    · exact List.sublist_cons_self ..
    · exact List.Sublist.refl _
  · exact List.Sublist.refl _

theorem dropDriveSlash_of_drops {c d : Char} {rest : List Char} (one : c.utf8Size = 1) :
    dropDriveSlash ('/' :: c :: ':' :: d :: rest) = c :: ':' :: d :: rest := by
  simp [dropDriveSlash, one]

theorem dropDriveSlash_of_not_drops (stays : ¬ DropsSlash p) :
    dropDriveSlash p.toList = p.toList := by
  unfold dropDriveSlash
  split
  · rename_i c d rest chars
    have more : ¬ c.utf8Size = 1 := by
      intro one
      exact stays ⟨c, d, rest, chars, one⟩
    rw [if_neg more, chars]
  · rfl

theorem path?_ofPath_eq_iff (absolute : Path.isAbsolute p = true) :
    path? (ofPath p) = some p ↔ '\\' ∉ p.toList ∧ ¬ DropsSlash p := by
  rw [path?_ofPath absolute, Option.some.injEq, ← String.toList_inj, String.toList_ofList]
  constructor
  · intro back
    have plain : '\\' ∉ p.toList := by
      intro mem
      rw [← back] at mem
      exact backslash_not_mem_slashed _ ((dropDriveSlash_sublist _).subset mem)
    refine ⟨plain, ?_⟩
    rintro ⟨c, d, rest, chars, one⟩
    rw [(slashed_eq_self_iff _).2 plain, chars, dropDriveSlash_of_drops one] at back
    have shorter := congrArg List.length back
    simp at shorter
  · rintro ⟨plain, stays⟩
    rw [(slashed_eq_self_iff _).2 plain, dropDriveSlash_of_not_drops stays]

/-- The address leads back to the path, in this or in another text. -/
theorem exists_same_iff (absolute : Path.isAbsolute p = true) :
    (∃ q, path? (ofPath p) = some q ∧ Path.Same q p) ↔
      '\\' ∉ p.toList ∧ (DropsSlash p → p.toList[1]? = some '/') := by
  rw [path?_ofPath absolute]
  constructor
  · rintro ⟨q, back, same⟩
    obtain rfl := Option.some.inj back
    have plain : '\\' ∉ p.toList := by
      intro mem
      rw [← same.mem_iff (by decide) (by decide), String.toList_ofList] at mem
      exact backslash_not_mem_slashed _ ((dropDriveSlash_sublist _).subset mem)
    refine ⟨plain, ?_⟩
    rintro ⟨c, d, rest, chars, one⟩
    have start := same.absolute.trans absolute
    rw [(slashed_eq_self_iff _).2 plain, Path.isAbsolute_iff, chars, dropDriveSlash_of_drops one,
      String.toList_ofList] at start
    rw [chars]
    exact start
  · rintro ⟨plain, slash⟩
    refine ⟨_, rfl, ?_⟩
    rw [(slashed_eq_self_iff _).2 plain]
    by_cases drops : DropsSlash p
    · have second := slash drops
      obtain ⟨c, d, rest, chars, one⟩ := drops
      rw [chars] at second
      obtain rfl : c = '/' := Option.some.inj second
      rw [chars, dropDriveSlash_of_drops one]
      have whole : p = String.ofList ('/' :: (String.ofList ('/' :: ':' :: d :: rest)).toList) := by
        rw [String.toList_ofList, ← chars, String.ofList_toList]
      rw [whole]
      refine Path.same_cons_slash (Path.isAbsolute_iff.2 ?_)
      simp
    · rw [dropDriveSlash_of_not_drops drops, String.ofList_toList]
      exact ⟨rfl, rfl⟩

/-- Absolute paths have one address where they differ in the kind of slashes alone. -/
theorem ofPath_eq_iff (hp : Path.isAbsolute p = true) (hq : Path.isAbsolute q = true) :
    ofPath p = ofPath q ↔ p.toList.map slashed = q.toList.map slashed := by
  rw [← String.toList_inj, toList_ofPath hp, toList_ofPath hq, List.append_cancel_left_eq]

end Uri

/-! ## What the cache reads -/

/-- The cache reads the file at a path when it is asked for the path's address. -/
def FileCache.Reaches (c : FileCache) (p : String) : Prop :=
  ∃ h c' f, c.obtain (Uri.ofPath p) = .ok (h, c') ∧ c'.files[h]? = some f ∧ f.path = p

theorem FileCache.Valid.reaches_iff {c : FileCache} (valid : c.Valid) {p : String}
    {language : Language} (known : Language.ofPath? p = some language) :
    c.Reaches p ↔ Uri.path? (Uri.ofPath p) = some p := by
  constructor
  · rintro ⟨h, c', f, obtained, file, path⟩
    have ob := valid.obtain obtained
    obtain ⟨f', file', at_uri⟩ := ob.valid.file _ h ob.current
    rw [file] at file'
    obtain rfl := Option.some.inj file'
    unfold fileAt at at_uri
    cases back : Uri.path? (Uri.ofPath p) with
    | none => simp [back] at at_uri
    | some q =>
      rw [back] at at_uri
      dsimp only at at_uri
      split at at_uri
      · cases at_uri
      · cases at_uri
        rw [path]
  · intro back
    have at_uri : fileAt (Uri.ofPath p) = .ok (p, language) := by
      rw [fileAt, back]
      simp only [known]
    have ok := valid.obtain_isOk (Uri.ofPath p)
    cases obtained : c.obtain (Uri.ofPath p) with
    | error e =>
      rw [obtained, at_uri] at ok
      cases ok
    | ok got =>
      obtain ⟨h, c'⟩ := got
      have ob := valid.obtain obtained
      obtain ⟨f, file, at_uri'⟩ := ob.valid.file _ h ob.current
      rw [at_uri] at at_uri'
      obtain ⟨path, -⟩ := Prod.mk.inj (Except.ok.inj at_uri')
      exact ⟨h, c', f, obtained, file, path.symm⟩

/-- **The address of an absolute path leads back to it** if and only if there is no backslash in the
path and its first slash is not dropped as one before a drive. Paths that differ in more than the
kind of slashes have distinct addresses; and the cache reads the file at the path if and only if the
address leads back. -/
theorem Uri.path?_ofPath_iff {p : String} (absolute : Path.isAbsolute p = true) :
    (path? (ofPath p) = some p ↔ '\\' ∉ p.toList ∧ ¬ DropsSlash p) ∧
    ((∃ q, path? (ofPath p) = some q ∧ Path.Same q p) ↔
      '\\' ∉ p.toList ∧ (DropsSlash p → p.toList[1]? = some '/')) ∧
    (∀ q, Path.isAbsolute q = true →
      (ofPath p = ofPath q ↔ p.toList.map slashed = q.toList.map slashed)) ∧
    (∀ (c : FileCache) (language : Language), c.Valid → Language.ofPath? p = some language →
      (c.Reaches p ↔ '\\' ∉ p.toList ∧ ¬ DropsSlash p)) := by
  refine ⟨path?_ofPath_eq_iff absolute, exists_same_iff absolute, ?_, ?_⟩
  · intro q hq
    exact ofPath_eq_iff absolute hq
  · intro c language valid known
    rw [valid.reaches_iff known]
    exact path?_ofPath_eq_iff absolute

/-- The theorem for a colon and a drive's letter deeper in a path, where they do no harm. -/
theorem Uri.path?_ofPath_iff_colons :
    Path.isAbsolute "/src/a:b/C:.rs" = true ∧
      path? (ofPath "/src/a:b/C:.rs") = some "/src/a:b/C:.rs" ∧
      FileCache.Reaches {} "/src/a:b/C:.rs" := by
  have absolute : Path.isAbsolute "/src/a:b/C:.rs" = true := by decide +kernel
  have known : Language.ofPath? "/src/a:b/C:.rs" = some .rust := by decide +kernel
  have stays : '\\' ∉ "/src/a:b/C:.rs".toList ∧ ¬ DropsSlash "/src/a:b/C:.rs" := by
    refine ⟨by decide +kernel, ?_⟩
    rintro ⟨c, d, rest, chars, -⟩
    have third := congrArg (·[2]?) chars
    exact absurd third (by simp)
  obtain ⟨back, -, -, reaches⟩ := path?_ofPath_iff absolute
  exact ⟨absolute, back.2 stays, (reaches {} .rust FileCache.valid_empty known).2 stays⟩

/-- A file `a:b` at the root is taken for a drive, and a backslash in a name becomes a slash: two
distinct files have one address, and the one with the backslash is not the one that is read. -/
theorem Uri.drive_and_backslash_lost :
    (Path.isAbsolute "/a:b" = true ∧ path? (ofPath "/a:b") = some "a:b" ∧
      ¬ Path.Same "a:b" "/a:b") ∧
    (Path.isAbsolute "/a\\b.py" = true ∧ path? (ofPath "/a\\b.py") = some "/a/b.py" ∧
      ofPath "/a\\b.py" = ofPath "/a/b.py" ∧ ¬ Path.Same "/a/b.py" "/a\\b.py") := by
  refine ⟨⟨by decide +kernel, by decide +kernel, ?_⟩, by decide +kernel, by decide +kernel,
    by decide +kernel, ?_⟩
  · intro same
    exact absurd same.absolute (by decide +kernel)
  · intro same
    exact absurd same.parts (by decide +kernel)

end CodeIndex
