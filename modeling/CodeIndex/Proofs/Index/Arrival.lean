import CodeIndex.Proofs.Index.Convergence

/-!
# The order in which news arrive

News of different files are independent of each other: it does not matter which of them arrives
first.

**Theorem (`update_tellAll_eq`).** Take any index and two sequences of news that tell the same of
each single file, in the same order. An update after the one makes the same snapshot as an update
after the other, down to the order of the entries of each name, reports the same, and leaves the
same texts in the cache.

**Sameness.** Two maps with the same entries need not be built alike, so the indexes are compared by
what they hold (`SymbolIndex.Same`): their files and snapshots are equal, and their maps have the
same entries. News of different files commute up to sameness (`tell_tell`); so news can be moved to
the front past news of other files (`tellAll_move`), which turns the one sequence into the other. An
update works through the queue in the order of its addresses and cannot tell same indexes apart
(`Same.update`).
-/

namespace CodeIndex

variable {read : Reader} {uri v : String}

/-! ## Caches that hold the same -/

namespace FileCache

variable {c c' : FileCache} {h : Handle}

/-- The same files were handed out, and each address stands for the same one of them. -/
structure Same (c c' : FileCache) : Prop where
  files : c.files = c'.files
  current : c.current.Equiv c'.current

theorem Same.refl (c : FileCache) : c.Same c := ⟨rfl, .rfl⟩

theorem Same.trans {c'' : FileCache} (first : c.Same c') (second : c'.Same c'') : c.Same c'' :=
  ⟨first.files.trans second.files, first.current.trans second.current⟩

theorem Same.get? (same : c.Same c') (uri : String) : c.get? uri = c'.get? uri :=
  same.current.getElem?_eq

theorem Same.setText (same : c.Same c') (h : Handle) (text : Option String) :
    (c.setText h text).Same (c'.setText h text) :=
  ⟨by rw [FileCache.setText, same.files, FileCache.setText], same.current⟩

theorem Same.remove (same : c.Same c') (uri : String) : (c.remove uri).Same (c'.remove uri) :=
  ⟨same.files, same.current.erase uri⟩

theorem Same.invalidate (same : c.Same c') (uri : String) :
    (c.invalidate uri).Same (c'.invalidate uri) := by
  unfold FileCache.invalidate
  rw [same.get? uri]
  cases c'.get? uri with
  | none => exact same
  | some h => exact same.setText h none

theorem Same.handOut (same : c.Same c') (uri path : String) (language : Language) :
    (c.handOut uri path language).Same (c'.handOut uri path language) := by
  refine ⟨?_, ?_⟩
  · rw [FileCache.handOut, same.files, FileCache.handOut]
  · simpa only [FileCache.handOut, same.files] using same.current.insert uri c'.files.size

theorem Same.obtain (same : c.Same c') (uri : String) :
    (∃ e, c.obtain uri = .error e ∧ c'.obtain uri = .error e) ∨
      ∃ h d d', c.obtain uri = .ok (h, d) ∧ c'.obtain uri = .ok (h, d') ∧ d.Same d' := by
  have stands := same.get? uri
  cases hu : c.get? uri with
  | some h =>
    rw [hu] at stands
    exact Or.inr ⟨h, c, c', obtain_of_get? hu, obtain_of_get? stands.symm, same⟩
  | none =>
    rw [hu] at stands
    cases hf : fileAt uri with
    | error e => exact Or.inl ⟨e, obtain_of_error hu hf, obtain_of_error stands.symm hf⟩
    | ok place =>
      refine Or.inr ⟨_, _, _, obtain_of_fileAt hu hf, ?_, same.handOut uri place.1 place.2⟩
      rw [obtain_of_fileAt stands.symm hf, same.files]

theorem Same.load (same : c.Same c') (read : Reader) (h : Handle) :
    (c.load read h).1 = (c'.load read h).1 ∧ (c.load read h).2.Same (c'.load read h).2 := by
  unfold FileCache.load
  rw [same.files]
  cases c'.files[h]? with
  | none => exact ⟨rfl, same⟩
  | some f =>
    dsimp only
    cases f.text with
    | some text => exact ⟨rfl, same⟩
    | none =>
      cases read f.path with
      | error fault => exact ⟨rfl, same⟩
      | ok bytes =>
        dsimp only
        cases textOf bytes with
        | none => exact ⟨rfl, same⟩
        | some text => exact ⟨rfl, same.setText h (some text)⟩

theorem Same.source (same : c.Same c') (read : Reader) (uri : String) :
    (c.source read uri).1 = (c'.source read uri).1 ∧
      (c.source read uri).2.Same (c'.source read uri).2 := by
  rcases same.obtain uri with ⟨e, hc, hc'⟩ | ⟨h, d, d', hc, hc', sameFiles⟩
  · simp only [FileCache.source, hc, hc']
    exact ⟨trivial, same⟩
  · simp only [FileCache.source, hc, hc']
    obtain ⟨result, left⟩ := sameFiles.load read h
    generalize d.load read h = loaded at result left
    generalize d'.load read h = loaded' at result left
    obtain ⟨r, e⟩ := loaded
    obtain ⟨r', e'⟩ := loaded'
    obtain rfl : r = r' := result
    replace left : e.Same e' := left
    rcases r with fault | _ | text
    · exact ⟨rfl, left⟩
    · exact ⟨rfl, left⟩
    · exact ⟨by simp only [language?, left.files], left⟩

/-! ### Forgetting and dropping different files -/

theorem setText_setText_none (c : FileCache) (h k : Handle) :
    (c.setText h none).setText k none = (c.setText k none).setText h none := by
  have files : ((c.setText h none).setText k none).files =
      ((c.setText k none).setText h none).files := by
    refine Array.ext_getElem? fun n => ?_
    simp only [files_setText, Option.map_map]
    refine congrArg (c.files[n]?).map (funext fun f => ?_)
    by_cases hn : h = n <;> by_cases kn : k = n <;> simp [hn, kn]
  exact congrArg (FileCache.mk · c.current) files

theorem invalidate_invalidate (c : FileCache) (uri v : String) :
    (c.invalidate uri).invalidate v = (c.invalidate v).invalidate uri := by
  have stands : ∀ uri v, (c.invalidate uri).get? v = c.get? v := fun uri v => by
    unfold FileCache.invalidate
    cases c.get? uri <;> rfl
  rw [FileCache.invalidate, stands, FileCache.invalidate.eq_def (c.invalidate v), stands]
  cases hu : c.get? uri <;> cases hv : c.get? v <;>
    simp only [FileCache.invalidate, forget, hu, hv, setText_setText_none]

theorem remove_invalidate (c : FileCache) (other : uri ≠ v) :
    (c.remove uri).invalidate v = (c.invalidate v).remove uri := by
  simp only [FileCache.invalidate, get?_remove, if_neg other.symm]
  cases c.get? v <;> rfl

theorem remove_remove (c : FileCache) (uri v : String) :
    ((c.remove uri).remove v).Same ((c.remove v).remove uri) := by
  refine ⟨rfl, .of_forall_constGet?_eq fun k => ?_⟩
  simp only [remove, lookup_erase]
  by_cases hu : k = uri <;> by_cases hv : k = v <;> simp [hu, hv]

end FileCache

/-! ## News -/

/-- What can be told of a file. -/
inductive News where
  | added
  | updated
  | removed
  | text (languageId text : String)
  deriving DecidableEq, Repr

namespace News

/-- What the news put into the queue. -/
def change : News → Change
  | added | updated => .reload
  | removed => .remove
  | text languageId content => .text languageId content

/-- What the news do to the cache. -/
def touch (c : FileCache) (uri : String) : News → FileCache
  | updated => c.invalidate uri
  | removed => c.remove uri
  | added | text _ _ => c

theorem touch_same {c c' : FileCache} (same : c.Same c') (uri : String) (n : News) :
    (n.touch c uri).Same (n.touch c' uri) := by
  cases n with
  | updated => exact same.invalidate uri
  | removed => exact same.remove uri
  | added => exact same
  | text languageId content => exact same

theorem touch_touch (c : FileCache) (other : uri ≠ v) (n m : News) :
    (m.touch (n.touch c uri) v).Same (n.touch (m.touch c v) uri) := by
  cases n <;> cases m <;> simp only [touch]
  case updated.updated => rw [c.invalidate_invalidate uri v]; exact .refl _
  case updated.removed => rw [← c.remove_invalidate other.symm]; exact .refl _
  case removed.updated => rw [c.remove_invalidate other]; exact .refl _
  case removed.removed => exact c.remove_remove uri v
  all_goals exact .refl _

end News

namespace SymbolIndex

variable {i j : SymbolIndex}

/-- Take note of news of a file. -/
def tell (i : SymbolIndex) : String × News → SymbolIndex
  | (uri, .added) => i.fileAdded uri
  | (uri, .updated) => i.fileUpdated uri
  | (uri, .removed) => i.fileRemoved uri
  | (uri, .text languageId text) => i.textGiven uri languageId text

def tellAll (i : SymbolIndex) (news : List (String × News)) : SymbolIndex := news.foldl tell i

theorem tell_eq (i : SymbolIndex) (uri : String) (n : News) :
    i.tell (uri, n) = enqueue { i with cache := n.touch i.cache uri } uri n.change := by
  cases n <;> rfl

/-! ## Indexes that hold the same -/

structure Same (i j : SymbolIndex) : Prop where
  cache : i.cache.Same j.cache
  queue : i.queue.Equiv j.queue
  snapshot : i.snapshot = j.snapshot

theorem Same.refl (i : SymbolIndex) : i.Same i := ⟨.refl _, .rfl, rfl⟩

theorem Same.trans {k : SymbolIndex} (first : i.Same j) (second : j.Same k) : i.Same k :=
  ⟨first.cache.trans second.cache, first.queue.trans second.queue,
    first.snapshot.trans second.snapshot⟩

theorem Same.tell (same : i.Same j) (news : String × News) : (i.tell news).Same (j.tell news) := by
  obtain ⟨uri, n⟩ := news
  rw [tell_eq, tell_eq]
  exact ⟨n.touch_same same.cache uri, same.queue.insert uri n.change, same.snapshot⟩

theorem Same.tellAll (same : i.Same j) (news : List (String × News)) :
    (i.tellAll news).Same (j.tellAll news) := by
  induction news generalizing i j with
  | nil => exact same
  | cons n news ih => exact ih (same.tell n)

/-! ### News in another order -/

theorem tell_tell (i : SymbolIndex) {n m : String × News} (other : n.1 ≠ m.1) :
    ((i.tell n).tell m).Same ((i.tell m).tell n) := by
  obtain ⟨uri, n⟩ := n
  obtain ⟨v, m⟩ := m
  simp only [tell_eq]
  refine ⟨News.touch_touch i.cache other n m, .of_forall_constGet?_eq fun k => ?_, rfl⟩
  simp only [enqueue, lookup_insert]
  by_cases hu : k = uri
  · subst hu
    simp [show k ≠ v from other]
  · simp [hu]

/-- News can be moved to the front past news of other files. -/
theorem tellAll_move (i : SymbolIndex) {n : String × News} {before : List (String × News)}
    (others : ∀ m ∈ before, m.1 ≠ n.1) (rest : List (String × News)) :
    (i.tellAll (before ++ n :: rest)).Same ((i.tell n).tellAll (before ++ rest)) := by
  induction before generalizing i with
  | nil => exact .refl _
  | cons m before ih =>
    obtain ⟨other, others⟩ := List.forall_mem_cons.1 others
    exact (ih (i.tell m) others).trans ((i.tell_tell other).tellAll (before ++ rest))

/-- Sequences that tell the same of each file lead to the same. -/
theorem same_tellAll {news news' : List (String × News)} (i : SymbolIndex)
    (same : ∀ uri, news.filter (·.1 = uri) = news'.filter (·.1 = uri)) :
    (i.tellAll news).Same (i.tellAll news') := by
  induction news generalizing i news' with
  | nil =>
    cases news' with
    | nil => exact .refl i
    | cons m news' => simpa using same m.1
  | cons n news ih =>
    -- the other sequence has `n` as its first news of this file
    have first : news'.filter (·.1 = n.1) = n :: news.filter (·.1 = n.1) := by
      rw [← same n.1, List.filter_cons_of_pos (by simp)]
    obtain ⟨before, rest, rfl, others, -, after⟩ := List.filter_eq_cons_iff.1 first
    have others : ∀ m ∈ before, m.1 ≠ n.1 := by simpa using others
    have remaining : ∀ uri, news.filter (·.1 = uri) = (before ++ rest).filter (·.1 = uri) := by
      intro uri
      by_cases hu : n.1 = uri
      · subst hu
        have none : before.filter (·.1 = n.1) = [] := by simpa using others
        rw [List.filter_append, none, List.nil_append, after]
      · have := same uri
        rwa [List.filter_cons_of_neg (by simpa using hu), List.filter_append,
          List.filter_cons_of_neg (by simpa using hu), ← List.filter_append] at this
    have moved := i.tellAll_move others rest
    exact (ih (i.tell n) remaining).trans
      ⟨⟨moved.cache.files.symm, moved.cache.current.symm⟩, moved.queue.symm, moved.snapshot.symm⟩

/-! ### Updates -/

section

variable [Trees] [Digest]

theorem outcomes_same {c c' : FileCache} (same : c.Same c') (read : Reader) (s : Snapshot)
    (changes : List (String × Change)) :
    (outcomes read s c changes).1 = (outcomes read s c' changes).1 ∧
      (outcomes read s c changes).2.Same (outcomes read s c' changes).2 := by
  induction changes generalizing c c' with
  | nil => exact ⟨rfl, same⟩
  | cons first rest ih =>
    obtain ⟨uri, change⟩ := first
    have sourced : (changeSource read c uri change).1 = (changeSource read c' uri change).1 ∧
        (changeSource read c uri change).2.Same (changeSource read c' uri change).2 := by
      cases change with
      | remove => exact ⟨rfl, same⟩
      | text languageId text => exact ⟨rfl, same⟩
      | reload =>
        obtain ⟨found, left⟩ := same.source read uri
        exact ⟨congrArg (Option.map _) found, left⟩
    obtain ⟨others, left⟩ := ih sourced.2
    refine ⟨?_, left⟩
    simp only [outcomes, sourced.1, others]

theorem Same.update (same : i.Same j) (read : Reader) :
    (i.update read).1 = (j.update read).1 ∧ (i.update read).2.Same (j.update read).2 := by
  have queue := same.queue.toList_eq
  have snapshot := same.snapshot
  obtain ⟨decided, left⟩ := outcomes_same same.cache read i.snapshot i.queue.toList
  rw [queue, snapshot] at decided left
  simp only [SymbolIndex.update, queue, snapshot, decided]
  exact ⟨trivial, left, .rfl, rfl⟩

/-- **News of different files may arrive in any order.** Two sequences of news that tell the same of
each single file, in the same order, lead to the same report, the same snapshot and the same cache
in an update. -/
theorem update_tellAll_eq (read : Reader) (i : SymbolIndex) {news news' : List (String × News)}
    (same : ∀ uri, news.filter (·.1 = uri) = news'.filter (·.1 = uri)) :
    ((i.tellAll news).update read).1 = ((i.tellAll news').update read).1 ∧
      ((i.tellAll news).update read).2.snapshot = ((i.tellAll news').update read).2.snapshot ∧
      ((i.tellAll news).update read).2.cache.Same ((i.tellAll news').update read).2.cache := by
  obtain ⟨stats, after⟩ := (i.same_tellAll same).update read
  exact ⟨stats, after.snapshot, after.cache⟩

end

/-- A file that is written and then removed, and a buffer that is opened and edited at the same
time. -/
theorem update_tellAll_eq_interleaved :
    let _ := Example.trees
    let _ := Example.digests
    let i := ((fileAdded {} "file:///m.py").update Example.oneFile).2
    let news : List (String × News) := [("file:///m.py", .updated),
      ("file:///a.py", .text "python" "y"), ("file:///m.py", .removed),
      ("file:///a.py", .text "python" "x")]
    let news' : List (String × News) := [("file:///a.py", .text "python" "y"),
      ("file:///a.py", .text "python" "x"), ("file:///m.py", .updated), ("file:///m.py", .removed)]
    (∀ uri, news.filter (·.1 = uri) = news'.filter (·.1 = uri)) ∧
      ((i.tellAll news).update Example.noFiles).1 = ⟨1, 0, 1⟩ ∧
      ((i.tellAll news').update Example.noFiles).1 = ⟨1, 0, 1⟩ ∧
      ((i.tellAll news).update Example.noFiles).2.snapshot =
        ((i.tellAll news').update Example.noFiles).2.snapshot ∧
      ((i.tellAll news).update Example.noFiles).2.cache.Same
        ((i.tellAll news').update Example.noFiles).2.cache := by
  intro _ _ i news news'
  have same : ∀ uri, news.filter (·.1 = uri) = news'.filter (·.1 = uri) := by
    intro uri
    by_cases hm : "file:///m.py" = uri
    · subst hm
      decide
    · by_cases ha : "file:///a.py" = uri <;> simp [news, news', hm, ha]
  obtain ⟨stats, snapshot, cache⟩ := update_tellAll_eq Example.noFiles i same
  have reported : ((i.tellAll news).update Example.noFiles).1 = ⟨1, 0, 1⟩ := by decide +kernel
  exact ⟨same, reported, stats ▸ reported, snapshot, cache⟩

end SymbolIndex

end CodeIndex
