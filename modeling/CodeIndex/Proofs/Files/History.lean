import CodeIndex.Proofs.Files.Cache
import Mathlib.Data.List.Induction

/-!
# What a file keeps, told by its history

A cache is asked for files by their addresses, the files that it has handed out are loaded and
forgotten, and the disk changes in between.

**Resets** (`FileStore.Resets`). A file starts without a text when it is handed out, and loses its
text when it is forgotten, be it directly or through an address that still stands for it.

**Theorem (`cached_tells_history`).** A file keeps a text just when it was loaded, since it was last
reset, at a time when it could be read and had no zero byte; and the text is that of the first such
load. Loads tell the kept text whatever is on the disk, and else what is on the disk. What fails
changes nothing. An address stands for one file until it is removed, and what is done under one
address leaves the files of the others alone.

The history is cut at the last reset (`exists_last_reset`). From there on the file is empty until
the first load that reads a text, and keeps this text to the end (`cached_after_iff`).
-/

namespace CodeIndex

/-! ## Stores and what is done with them -/

/-- A cache and the disk that its files are read from. -/
structure FileStore where
  cache : FileCache := {}
  read : Reader

/-- What is done with a cache and its files, and what happens to the disk. -/
inductive FileUse where
  | get (uri : String)
  | obtain (uri : String)
  | invalidate (uri : String)
  | remove (uri : String)
  | load (h : Handle)
  | forget (h : Handle)
  | cached (h : Handle)
  /-- Files are written or deleted, so that reading gives something else from now on. -/
  | change (read : Reader)

theorem textAt_eq_some_iff {read : Reader} {path text : String} :
    textAt read path = some text ↔
      ∃ bytes, read path = .ok bytes ∧ 0 ∉ bytes.toList ∧ text = Utf8.decode bytes := by
  unfold textAt textOf
  cases read path with
  | error fault => simp
  | ok bytes =>
    by_cases zero : 0 ∈ bytes.toList
    · simp [zero]
    · simp [zero, eq_comm]

namespace FileCache

variable {c : FileCache} {uri : String} {h : Handle}

/-- Asking for the address gives a file that was not there before. -/
structure HandsOut (c : FileCache) (uri : String) (h : Handle) : Prop where
  obtained : ∃ c', c.obtain uri = .ok (h, c')
  new : c.files[h]? = none

/-- An address gives the file that it stands for, or else a new one. -/
theorem obtain_cases {c' : FileCache} (hc : c.obtain uri = .ok (h, c')) :
    (c.get? uri = some h ∧ c' = c) ∨
      ∃ path language, c.get? uri = none ∧ h = c.files.size ∧ c' = c.handOut uri path language := by
  cases hu : c.get? uri with
  | some k =>
    rw [obtain_of_get? hu] at hc
    cases hc
    exact Or.inl ⟨rfl, rfl⟩
  | none =>
    cases hf : fileAt uri with
    | error e =>
      rw [obtain_of_error hu hf] at hc
      cases hc
    | ok source =>
      rw [obtain_of_fileAt hu hf] at hc
      cases hc
      exact Or.inr ⟨_, _, rfl, rfl, rfl⟩

end FileCache

namespace FileStore

variable {s : FileStore} {u : FileUse} {uses : List FileUse} {h k : Handle} {f : CachedFile}
  {uri v text : String}

def step (s : FileStore) : FileUse → FileStore
  | .obtain uri => match s.cache.obtain uri with
    | .ok (_, cache) => { s with cache }
    | .error _ => s
  | .invalidate uri => { s with cache := s.cache.invalidate uri }
  | .remove uri => { s with cache := s.cache.remove uri }
  | .load h => { s with cache := (s.cache.load s.read h).2 }
  | .forget h => { s with cache := s.cache.forget h }
  | .change read => { s with read }
  | .get _ | .cached _ => s

def after (s : FileStore) (uses : List FileUse) : FileStore := uses.foldl step s

@[simp] theorem after_nil (s : FileStore) : s.after [] = s := rfl

@[simp] theorem after_cons (s : FileStore) (u : FileUse) (uses : List FileUse) :
    s.after (u :: uses) = (s.step u).after uses := rfl

theorem after_append (s : FileStore) (uses more : List FileUse) :
    s.after (uses ++ more) = (s.after uses).after more := List.foldl_append

/-- A new cache over a disk. -/
def start (read : Reader) : FileStore := { read }

theorem valid_step (valid : s.cache.Valid) (u : FileUse) : (s.step u).cache.Valid := by
  cases u with
  | get uri | cached h | change read => exact valid
  | obtain uri =>
    rw [step]
    split
    · rename_i obtained
      exact (valid.obtain obtained).valid
    · exact valid
  | invalidate uri => exact valid.invalidate uri
  | remove uri => exact valid.remove uri
  | load h => exact valid.load s.read h
  | forget h => exact valid.setText h none

theorem valid_after (valid : s.cache.Valid) (uses : List FileUse) : (s.after uses).cache.Valid := by
  induction uses generalizing s with
  | nil => exact valid
  | cons u uses ih => exact ih (valid_step valid u)

/-! ## Resets and reads -/

/-- The file is handed out, or its text is forgotten, directly or through the address that stands
for it. -/
def Resets (h : Handle) (s : FileStore) : FileUse → Prop
  | .obtain uri => s.cache.HandsOut uri h
  | .forget k => k = h
  | .invalidate uri => s.cache.get? uri = some h
  | _ => False

/-- The file is loaded while the disk has this content for it, which has no zero byte. -/
structure Reads (h : Handle) (bytes : ByteArray) (s : FileStore) (u : FileUse) : Prop where
  load : u = .load h
  content : ∃ f, s.cache.files[h]? = some f ∧ s.read f.path = .ok bytes
  no_zero : 0 ∉ bytes.toList

/-- Nothing of the given sort happens on the way. -/
def Never (P : FileStore → FileUse → Prop) : FileStore → List FileUse → Prop
  | _, [] => True
  | s, u :: uses => ¬ P s u ∧ Never P (s.step u) uses

theorem never_append {P : FileStore → FileUse → Prop} {more : List FileUse} :
    Never P s (uses ++ more) ↔ Never P s uses ∧ Never P (s.after uses) more := by
  induction uses generalizing s with
  | nil => simp [Never]
  | cons u uses ih => simp [Never, ih, and_assoc]

theorem cached_of_file (file : s.cache.files[h]? = some f) : s.cache.cached h = f.text := by
  rw [FileCache.cached, file]
  rfl

theorem cached_eq_none_of_no_file (none : s.cache.files[h]? = .none) :
    s.cache.cached h = .none := by
  rw [FileCache.cached, none]
  rfl

/-! ## What one use does to the files -/

/-- What a use can do: nothing to any file; take the text of one file; keep a text for one file; or
hand out a new file. -/
theorem files_step_cases (valid : s.cache.Valid) (u : FileUse) :
    ((∀ h, ¬ Resets h s u) ∧ (s.step u).cache.files = s.cache.files) ∨
    (∃ k, (∀ h, Resets h s u ↔ h = k) ∧
      (s.step u).cache.files = (s.cache.setText k none).files) ∨
    (∃ k text, (∀ h, ¬ Resets h s u) ∧ u = .load k ∧
      (s.step u).cache.files = (s.cache.setText k text).files) ∨
    (∃ f : CachedFile, f.text = none ∧ (∀ h, Resets h s u ↔ h = s.cache.files.size) ∧
      (s.step u).cache.files = s.cache.files.push f) := by
  cases u with
  | get uri | cached k | change read | remove uri => exact .inl ⟨fun h => id, rfl⟩
  | forget k => exact .inr (.inl ⟨k, fun h => eq_comm, rfl⟩)
  | invalidate uri =>
    cases current : s.cache.get? uri with
    | none =>
      refine .inl ⟨fun h reset => ?_, by simp [step, FileCache.invalidate, current]⟩
      rw [Resets, current] at reset
      cases reset
    | some k =>
      have forgotten :
          (s.step (.invalidate uri)).cache.files = (s.cache.setText k none).files := by
        simp [step, FileCache.invalidate, current, FileCache.forget]
      refine .inr (.inl ⟨k, fun h => ?_, forgotten⟩)
      rw [Resets, current, Option.some.injEq, eq_comm]
  | load k =>
    cases there : s.cache.files[k]? with
    | none => exact .inl ⟨fun h => id, by rw [step, FileCache.load_of_none there]⟩
    | some f =>
      rcases FileCache.load_snd there s.read with ⟨same, -⟩ | kept
      · exact .inl ⟨fun h => id, by rw [step, same]⟩
      · exact .inr (.inr (.inl ⟨k, _, fun h => id, rfl, by rw [step, kept]⟩))
  | obtain uri =>
    cases obtained : s.cache.obtain uri with
    | error e =>
      refine .inl ⟨fun h reset => ?_, by simp [step, obtained]⟩
      obtain ⟨c', got⟩ := reset.obtained
      rw [obtained] at got
      cases got
    | ok got =>
      obtain ⟨k, c'⟩ := got
      have only : ∀ h, Resets h s (.obtain uri) ↔ h = k ∧ s.cache.files[k]? = none := by
        intro h
        constructor
        · rintro ⟨⟨c'', got⟩, new⟩
          rw [obtained] at got
          cases got
          exact ⟨rfl, new⟩
        · rintro ⟨rfl, new⟩
          exact ⟨⟨c', obtained⟩, new⟩
      rcases FileCache.obtain_cases obtained with ⟨current, rfl⟩ | ⟨path, language, -, rfl, rfl⟩
      · obtain ⟨f, file, -⟩ := valid.file uri k current
        exact .inl ⟨fun h reset => by simp [only, file] at reset, by simp [step, obtained]⟩
      · refine .inr (.inr (.inr ⟨{ path, language }, rfl, fun h => ?_, ?_⟩))
        · rw [only]
          simp
        · simp [step, obtained, FileCache.handOut]

theorem cached_step_of_resets (valid : s.cache.Valid) (reset : Resets h s u) :
    (s.step u).cache.cached h = none := by
  rw [FileCache.cached]
  rcases files_step_cases valid u with ⟨none, -⟩ | ⟨k, only, files⟩ | ⟨k, text, none, -⟩ |
    ⟨f, empty, only, files⟩
  · exact absurd reset (none h)
  · obtain rfl := (only h).1 reset
    rw [files, FileCache.files_setText]
    cases s.cache.files[h]? <;> simp
  · exact absurd reset (none h)
  · obtain rfl := (only h).1 reset
    rw [files, Array.getElem?_push_size]
    exact empty

theorem file_step_of_other (valid : s.cache.Valid) (file : s.cache.files[h]? = some f)
    (kept : ¬ Resets h s u) (other : u ≠ .load h) : (s.step u).cache.files[h]? = some f := by
  rcases files_step_cases valid u with ⟨-, files⟩ | ⟨k, only, files⟩ | ⟨k, text, -, rfl, files⟩ |
    ⟨g, -, only, files⟩
  · rw [files, file]
  · have apart : k ≠ h := fun same => kept ((only h).2 same.symm)
    rw [files, FileCache.files_setText, file, Option.map_some, if_neg apart]
  · have apart : k ≠ h := fun same => other (by rw [same])
    rw [files, FileCache.files_setText, file, Option.map_some, if_neg apart]
  · have apart : h ≠ s.cache.files.size := fun same => kept ((only h).2 same)
    rw [files, Array.getElem?_push, if_neg apart, file]

theorem cached_step_load (file : s.cache.files[h]? = some f) :
    (s.step (.load h)).cache.cached h = f.text.or (textAt s.read f.path) := by
  rw [step]
  rcases FileCache.load_snd file s.read with ⟨same, kept⟩ | same
  · rw [same, kept]
    exact cached_of_file file
  · rw [same, FileCache.cached_setText file, if_pos rfl]

theorem isSome_file_step (valid : s.cache.Valid) (file : (s.cache.files[h]?).isSome) (u : FileUse) :
    ((s.step u).cache.files[h]?).isSome := by
  rcases files_step_cases valid u with ⟨-, files⟩ | ⟨k, -, files⟩ | ⟨k, text, -, -, files⟩ |
    ⟨g, -, -, files⟩ <;> rw [files]
  · exact file
  · simpa [FileCache.files_setText] using file
  · simpa [FileCache.files_setText] using file
  · rw [Array.getElem?_push]
    split
    · rfl
    · exact file

theorem isSome_file_after (valid : s.cache.Valid) (file : (s.cache.files[h]?).isSome)
    (uses : List FileUse) : ((s.after uses).cache.files[h]?).isSome := by
  induction uses generalizing s with
  | nil => exact file
  | cons u uses ih => exact ih (valid_step valid u) (isSome_file_step valid file u)

theorem no_file_step (valid : s.cache.Valid) (none : s.cache.files[h]? = none)
    (kept : ¬ Resets h s u) : (s.step u).cache.files[h]? = .none := by
  rcases files_step_cases valid u with ⟨-, files⟩ | ⟨k, -, files⟩ | ⟨k, text, -, -, files⟩ |
    ⟨g, -, only, files⟩
  · rw [files, none]
  · rw [files, FileCache.files_setText, none, Option.map_none]
  · rw [files, FileCache.files_setText, none, Option.map_none]
  · have apart : h ≠ s.cache.files.size := fun same => kept ((only h).2 same)
    rw [files, Array.getElem?_push, if_neg apart, none]

theorem source_step {g : CachedFile} (valid : s.cache.Valid) (file : s.cache.files[h]? = some f)
    (file' : (s.step u).cache.files[h]? = some g) : g.path = f.path ∧ g.language = f.language := by
  have set : ∀ {k text}, (s.step u).cache.files = (s.cache.setText k text).files →
      g.path = f.path ∧ g.language = f.language := by
    intro k text files
    rw [files, FileCache.files_setText, file, Option.map_some, Option.some.injEq] at file'
    split at file' <;> subst file' <;> exact ⟨rfl, rfl⟩
  rcases files_step_cases valid u with ⟨-, files⟩ | ⟨k, -, files⟩ | ⟨k, text, -, -, files⟩ |
    ⟨new, -, -, files⟩
  · rw [files, file] at file'
    cases file'
    exact ⟨rfl, rfl⟩
  · exact set files
  · exact set files
  · obtain ⟨inside, -⟩ := Array.getElem?_eq_some_iff.1 file
    rw [files, Array.getElem?_push, if_neg (Nat.ne_of_lt inside), file] at file'
    cases file'
    exact ⟨rfl, rfl⟩

theorem handsOut_of_file_step (valid : s.cache.Valid) (none : s.cache.files[h]? = none)
    (file : (s.step u).cache.files[h]? = some f) :
    ∃ uri, u = .obtain uri ∧ s.cache.HandsOut uri h := by
  have reset : Resets h s u := by
    by_contra kept
    rw [no_file_step valid none kept] at file
    cases file
  cases u with
  | obtain uri => exact ⟨uri, rfl, reset⟩
  | forget k =>
    obtain rfl : k = h := reset
    rw [step, FileCache.forget, FileCache.files_setText, none] at file
    cases file
  | invalidate uri =>
    obtain ⟨g, there, -⟩ := valid.file uri h reset
    rw [none] at there
    cases there
  | _ => exact absurd reset id

/-! ## From one reset to the next -/

theorem cached_step_of_some (valid : s.cache.Valid) (kept : ¬ Resets h s u)
    (has : s.cache.cached h = some text) : (s.step u).cache.cached h = some text := by
  obtain ⟨f, file, holds⟩ := Option.bind_eq_some_iff.1 has
  by_cases loads : u = .load h
  · subst loads
    rw [cached_step_load file, holds, Option.some_or]
  · rw [cached_of_file (file_step_of_other valid file kept loads), holds]

theorem cached_after_of_some (valid : s.cache.Valid) (never : Never (Resets h) s uses)
    (has : s.cache.cached h = some text) : (s.after uses).cache.cached h = some text := by
  induction uses generalizing s with
  | nil => exact has
  | cons u uses ih =>
    obtain ⟨kept, never⟩ := never
    exact ih (valid_step valid u) never (cached_step_of_some valid kept has)

theorem cached_step_of_reads {bytes : ByteArray} (empty : s.cache.cached h = none)
    (reads : Reads h bytes s u) : (s.step u).cache.cached h = some (Utf8.decode bytes) := by
  obtain ⟨rfl, ⟨f, file, content⟩, no_zero⟩ := reads
  rw [cached_of_file file] at empty
  rw [cached_step_load file, empty, Option.none_or]
  exact textAt_eq_some_iff.2 ⟨bytes, content, no_zero, rfl⟩

theorem cached_step_of_none (valid : s.cache.Valid) (empty : s.cache.cached h = none)
    (no_read : ¬ ∃ bytes, Reads h bytes s u) : (s.step u).cache.cached h = none := by
  by_cases reset : Resets h s u
  · exact cached_step_of_resets valid reset
  cases file : s.cache.files[h]? with
  | none => exact cached_eq_none_of_no_file (no_file_step valid file reset)
  | some f =>
    rw [cached_of_file file] at empty
    by_cases loads : u = .load h
    · subst loads
      rw [cached_step_load file, empty, Option.none_or, Option.eq_none_iff_forall_ne_some]
      intro text read
      obtain ⟨bytes, content, no_zero, -⟩ := textAt_eq_some_iff.1 read
      exact no_read ⟨bytes, rfl, ⟨f, file, content⟩, no_zero⟩
    · rw [cached_of_file (file_step_of_other valid file reset loads), empty]

theorem reads_unique {bytes bytes' : ByteArray} (reads : Reads h bytes s u)
    (reads' : Reads h bytes' s u) : bytes = bytes' := by
  obtain ⟨-, ⟨f, file, content⟩, -⟩ := reads
  obtain ⟨-, ⟨f', file', content'⟩, -⟩ := reads'
  rw [file] at file'
  cases file'
  rw [content] at content'
  cases content'
  rfl

/-- A file without a text, as long as it is not reset, has the text that is read first. -/
theorem cached_after_iff (valid : s.cache.Valid) (empty : s.cache.cached h = none)
    (never : Never (Resets h) s uses) :
    (s.after uses).cache.cached h = some text ↔
      ∃ waiting load rest bytes, uses = waiting ++ load :: rest ∧
        Never (fun t u => ∃ bytes, Reads h bytes t u) s waiting ∧
        Reads h bytes (s.after waiting) load ∧ text = Utf8.decode bytes := by
  induction uses generalizing s with
  | nil => simp [empty]
  | cons u uses ih =>
    obtain ⟨kept, never⟩ := never
    by_cases reading : ∃ bytes, Reads h bytes s u
    · obtain ⟨bytes, reads⟩ := reading
      have stays : ((s.step u).after uses).cache.cached h = some (Utf8.decode bytes) :=
        cached_after_of_some (valid_step valid u) never (cached_step_of_reads empty reads)
      rw [after_cons, stays, Option.some.injEq]
      constructor
      · rintro rfl
        exact ⟨[], u, uses, bytes, rfl, trivial, reads, rfl⟩
      · rintro ⟨waiting, load, rest, bytes', split, unread, reads', rfl⟩
        cases waiting with
        | nil =>
          obtain ⟨rfl, rfl⟩ := List.cons.inj split
          rw [reads_unique reads reads']
        | cons w waiting =>
          obtain ⟨rfl, -⟩ := List.cons.inj split
          exact absurd ⟨bytes, reads⟩ unread.1
    · rw [after_cons, ih (valid_step valid u) (cached_step_of_none valid empty reading) never]
      constructor
      · rintro ⟨waiting, load, rest, bytes, rfl, unread, reads, rfl⟩
        exact ⟨u :: waiting, load, rest, bytes, rfl, ⟨reading, unread⟩, reads, rfl⟩
      · rintro ⟨waiting, load, rest, bytes, split, unread, reads, rfl⟩
        cases waiting with
        | nil =>
          obtain ⟨rfl, -⟩ := List.cons.inj split
          exact absurd ⟨bytes, reads⟩ reading
        | cons w waiting =>
          obtain ⟨rfl, rfl⟩ := List.cons.inj split
          exact ⟨waiting, load, rest, bytes, rfl, unread.2, reads, rfl⟩

theorem exists_last_reset (valid : s.cache.Valid) (new : s.cache.files[h]? = none)
    (file : ((s.after uses).cache.files[h]?).isSome) :
    ∃ past reset rest, uses = past ++ reset :: rest ∧ Resets h (s.after past) reset ∧
      Never (Resets h) ((s.after past).step reset) rest := by
  induction uses using List.reverseRecOn with
  | nil => simp [new] at file
  | append_singleton uses u ih =>
    by_cases reset : Resets h (s.after uses) u
    · exact ⟨uses, u, [], rfl, reset, trivial⟩
    · have earlier : ((s.after uses).cache.files[h]?).isSome := by
        cases there : (s.after uses).cache.files[h]? with
        | some f => rfl
        | none =>
          rw [after_append, after_cons, after_nil,
            no_file_step (valid_after valid uses) there reset] at file
          cases file
      obtain ⟨past, first, rest, rfl, resets, never⟩ := ih earlier
      refine ⟨past, first, rest ++ [u], by simp, resets, never_append.2 ⟨never, ?_, trivial⟩⟩
      rw [after_append, after_cons] at reset
      exact reset

/-- The first content that was read since the file was last reset. -/
def FirstRead (h : Handle) (bytes : ByteArray) (s : FileStore) (uses : List FileUse) : Prop :=
  ∃ past reset waiting load rest, uses = past ++ reset :: (waiting ++ load :: rest) ∧
    Resets h (s.after past) reset ∧
    Never (Resets h) ((s.after past).step reset) (waiting ++ load :: rest) ∧
    Never (fun t u => ∃ bytes, Reads h bytes t u) ((s.after past).step reset) waiting ∧
    Reads h bytes (((s.after past).step reset).after waiting) load

/-- **A file keeps the text that was first read since its last reset.** -/
theorem cached_iff_firstRead (valid : s.cache.Valid) (new : s.cache.files[h]? = none) :
    (s.after uses).cache.cached h = some text ↔
      ∃ bytes, FirstRead h bytes s uses ∧ text = Utf8.decode bytes := by
  constructor
  · intro has
    obtain ⟨f, file, -⟩ := Option.bind_eq_some_iff.1 has
    obtain ⟨past, reset, rest, rfl, resets, never⟩ :=
      exists_last_reset valid new (Option.isSome_of_eq_some file)
    rw [after_append, after_cons] at has
    have valid' := valid_after valid past
    obtain ⟨waiting, load, rest, bytes, rfl, unread, reads, told⟩ :=
      (cached_after_iff (valid_step valid' reset) (cached_step_of_resets valid' resets) never).1 has
    exact ⟨bytes, ⟨past, reset, waiting, load, rest, rfl, resets, never, unread, reads⟩, told⟩
  · rintro ⟨bytes, ⟨past, reset, waiting, load, rest, rfl, resets, never, unread, reads⟩, rfl⟩
    have valid' := valid_after valid past
    rw [after_append, after_cons]
    exact (cached_after_iff (valid_step valid' reset) (cached_step_of_resets valid' resets) never).2
      ⟨waiting, load, rest, bytes, rfl, unread, reads, rfl⟩

/-! ## What stands for an address -/

/-- What a use can do to an address: nothing; drop it; or have a new file stand for it. -/
theorem get?_step_cases (s : FileStore) (u : FileUse) (v : String) :
    (s.step u).cache.get? v = s.cache.get? v ∨
    (u = .remove v ∧ (s.step u).cache.get? v = none) ∨
    (u = .obtain v ∧ s.cache.get? v = none ∧
      ∃ h, s.cache.HandsOut v h ∧ (s.step u).cache.get? v = some h) := by
  cases u with
  | get w | cached k | change read | forget k => exact .inl rfl
  | invalidate w =>
    left
    simp only [step, FileCache.invalidate]
    split <;> rfl
  | load k => exact .inl (FileCache.get?_load s.read k)
  | remove w =>
    by_cases same : v = w
    · subst same
      exact .inr (.inl ⟨rfl, by rw [step, FileCache.get?_remove, if_pos rfl]⟩)
    · exact .inl (by rw [step, FileCache.get?_remove, if_neg same])
  | obtain w =>
    cases obtained : s.cache.obtain w with
    | error e => exact .inl (by simp [step, obtained])
    | ok got =>
      obtain ⟨k, c'⟩ := got
      rcases FileCache.obtain_cases obtained with ⟨-, rfl⟩ | ⟨path, language, none, rfl, rfl⟩
      · exact .inl (by simp [step, obtained])
      · by_cases same : v = w
        · subst same
          have fresh := Array.getElem?_eq_none (Nat.le_refl s.cache.files.size)
          refine .inr (.inr ⟨rfl, none, _, ⟨⟨_, obtained⟩, fresh⟩, ?_⟩)
          simp [step, obtained, FileCache.get?_handOut]
        · exact .inl (by simp [step, obtained, FileCache.get?_handOut, same])

theorem get?_step_of_some (current : s.cache.get? uri = some h) (stays : u ≠ .remove uri) :
    (s.step u).cache.get? uri = some h := by
  rcases get?_step_cases s u uri with same | ⟨removes, -⟩ | ⟨-, none, -⟩
  · rw [same, current]
  · exact absurd removes stays
  · rw [none] at current
    cases current

theorem get?_after_of_some (current : s.cache.get? uri = some h) (stays : .remove uri ∉ uses) :
    (s.after uses).cache.get? uri = some h := by
  induction uses generalizing s with
  | nil => exact current
  | cons u uses ih =>
    rw [List.mem_cons, not_or] at stays
    exact ih (get?_step_of_some current (Ne.symm stays.1)) stays.2

theorem obtain_after {c : FileCache} (valid : s.cache.Valid)
    (obtained : s.cache.obtain uri = .ok (h, c)) (stays : .remove uri ∉ uses) :
    (s.after (.obtain uri :: uses)).cache.get? uri = some h ∧
      (s.after (.obtain uri :: uses)).cache.obtain uri =
        .ok (h, (s.after (.obtain uri :: uses)).cache) := by
  have first : (s.step (.obtain uri)).cache.get? uri = some h := by
    simp only [step, obtained]
    exact (valid.obtain obtained).current
  have current : (s.after (.obtain uri :: uses)).cache.get? uri = some h := by
    rw [after_cons]
    exact get?_after_of_some first stays
  exact ⟨current, FileCache.obtain_of_get? current⟩

/-! ## Whose file it is -/

/-- The file was handed out under the address. -/
def Made (s : FileStore) (uses : List FileUse) (h : Handle) (uri : String) : Prop :=
  ∃ past rest, uses = past ++ .obtain uri :: rest ∧ (s.after past).cache.HandsOut uri h

theorem isSome_file_of_handsOut (valid : s.cache.Valid) (made : s.cache.HandsOut uri h) :
    ((s.step (.obtain uri)).cache.files[h]?).isSome := by
  obtain ⟨⟨c', obtained⟩, -⟩ := made
  obtain ⟨f, file, -⟩ :=
    (valid.obtain obtained).valid.file uri h (valid.obtain obtained).current
  simp only [step, obtained, file, Option.isSome_some]

theorem Made.isSome_file (valid : s.cache.Valid) (made : s.Made uses h uri) :
    ((s.after uses).cache.files[h]?).isSome := by
  obtain ⟨past, rest, rfl, out⟩ := made
  have valid' := valid_after valid past
  rw [after_append, after_cons]
  exact isSome_file_after (valid_step valid' _) (isSome_file_of_handsOut valid' out) rest

theorem Made.append (made : s.Made uses h uri) (more : List FileUse) :
    s.Made (uses ++ more) h uri := by
  obtain ⟨past, rest, rfl, out⟩ := made
  exact ⟨past, rest ++ more, by simp, out⟩

theorem Made.of_append (valid : s.cache.Valid) {past rest : List FileUse}
    (made : s.Made (past ++ rest) h v) (none : (s.after past).cache.files[h]? = none) :
    (s.after past).Made rest h v := by
  obtain ⟨past', rest', split, out⟩ := made
  rcases List.append_eq_append_iff.1 split with ⟨more, rfl, rfl⟩ | ⟨more, rfl, split'⟩
  · exact ⟨more, rest', rfl, by rwa [← after_append]⟩
  · cases more with
    | nil => exact ⟨[], rest', by simpa using split'.symm, by simpa using out⟩
    | cons u more =>
      obtain ⟨rfl, -⟩ := List.cons.inj split'
      have earlier : s.Made (past' ++ .obtain v :: more) h v := ⟨past', more, rfl, out⟩
      have there := earlier.isSome_file valid
      rw [none] at there
      cases there

theorem Made.unique (valid : s.cache.Valid) (made : s.Made uses h uri) (made' : s.Made uses h v) :
    v = uri := by
  obtain ⟨past, rest, rfl, out⟩ := made
  obtain ⟨past', rest', split, out'⟩ := made'.of_append valid out.new
  cases past' with
  | nil =>
    obtain ⟨same, -⟩ := List.cons.inj split
    exact (FileUse.obtain.inj same).symm
  | cons u past' =>
    obtain ⟨rfl, rfl⟩ := List.cons.inj split
    have valid' := valid_after valid past
    have there := isSome_file_after (valid_step valid' _) (isSome_file_of_handsOut valid' out) past'
    have new := out'.new
    rw [after_cons] at new
    rw [new] at there
    cases there

/-- What stands for an address was handed out under it. -/
theorem made_of_get? (empty : ∀ v, s.cache.get? v = none)
    (current : (s.after uses).cache.get? uri = some h) : s.Made uses h uri := by
  induction uses using List.reverseRecOn generalizing h with
  | nil => simp [empty] at current
  | append_singleton uses u ih =>
    rw [after_append, after_cons, after_nil] at current
    rcases get?_step_cases (s.after uses) u uri with same | ⟨-, none⟩ | ⟨rfl, -, k, out, now⟩
    · rw [same] at current
      exact (ih current).append [u]
    · rw [none] at current
      cases current
    · rw [now] at current
      cases current
      exact ⟨uses, [], rfl, out⟩

/-- A file's path and language are those that its address tells. -/
theorem exists_made_of_file (valid : s.cache.Valid) (new : s.cache.files[h]? = none)
    (file : (s.after uses).cache.files[h]? = some f) :
    ∃ uri, s.Made uses h uri ∧ fileAt uri = .ok (f.path, f.language) := by
  induction uses using List.reverseRecOn generalizing f with
  | nil =>
    rw [after_nil, new] at file
    cases file
  | append_singleton uses u ih =>
    have valid' := valid_after valid uses
    rw [after_append, after_cons, after_nil] at file
    cases there : (s.after uses).cache.files[h]? with
    | some g =>
      obtain ⟨uri, made, told⟩ := ih there
      obtain ⟨path, language⟩ := source_step valid' there file
      exact ⟨uri, made.append [u], by rw [path, language, told]⟩
    | none =>
      obtain ⟨uri, rfl, out⟩ := handsOut_of_file_step valid' there file
      obtain ⟨c', obtained⟩ := out.obtained
      have got := valid'.obtain obtained
      obtain ⟨g, file', told⟩ := got.valid.file uri h got.current
      simp only [step, obtained] at file
      rw [file] at file'
      cases file'
      exact ⟨uri, ⟨uses, [], rfl, out⟩, told⟩

/-- The use is of the address, or of a file that was handed out under it. -/
def Concerns (s : FileStore) (uses : List FileUse) (uri : String) : FileUse → Prop
  | .get v | .obtain v | .invalidate v | .remove v => v = uri
  | .load h | .forget h | .cached h => s.Made uses h uri
  | .change _ => False

/-- What is done under one address leaves the files of the others alone. -/
theorem step_of_concerns (valid : s.cache.Valid) (empty : ∀ v, s.cache.get? v = none)
    (concerns : s.Concerns uses uri u) (made : s.Made uses k v) (other : v ≠ uri) :
    ((s.after uses).step u).cache.get? v = (s.after uses).cache.get? v ∧
      ((s.after uses).step u).cache.files[k]? = (s.after uses).cache.files[k]? := by
  have valid' := valid_after valid uses
  obtain ⟨f, file⟩ := Option.isSome_iff_exists.1 (made.isSome_file valid)
  have foreign : ¬ s.Made uses k uri := fun made' => other (made'.unique valid made)
  have kept : ¬ Resets k (s.after uses) u := by
    intro reset
    cases u with
    | obtain w =>
      have new := reset.new
      rw [file] at new
      cases new
    | invalidate w =>
      obtain rfl : w = uri := concerns
      exact foreign (made_of_get? empty reset)
    | forget h =>
      obtain rfl : h = k := reset
      exact foreign concerns
    | _ => exact reset
  have unloaded : u ≠ .load k := by
    rintro rfl
    exact foreign concerns
  constructor
  · rcases get?_step_cases (s.after uses) u v with same | ⟨rfl, -⟩ | ⟨rfl, -⟩
    · exact same
    · exact absurd concerns other
    · exact absurd concerns other
  · rw [file_step_of_other valid' file kept unloaded, file]

/-! ## The history -/

/-- What is known of a cache, after it has been used over a disk. -/
structure TellsHistory (read : Reader) (uses : List FileUse) (s : FileStore) : Prop where
  /-- A file was handed out under an address, which tells its path and language. -/
  file_made : ∀ h f, s.cache.files[h]? = some f →
    ∃ uri, (start read).Made uses h uri ∧ fileAt uri = .ok (f.path, f.language)
  /-- A file keeps the text that was first read since its last reset. -/
  cached_iff : ∀ h text, s.cache.cached h = some text ↔
    ∃ bytes, FirstRead h bytes (start read) uses ∧ text = Utf8.decode bytes
  /-- A load tells a kept text, whatever is on the disk. -/
  load_kept : ∀ h text disk, s.cache.cached h = some text →
    s.cache.load disk h = (.ok (some text), s.cache)
  /-- A load tells the text on the disk, and keeps it. -/
  load_read : ∀ h f bytes, s.cache.files[h]? = some f → s.cache.cached h = none →
    s.read f.path = .ok bytes → 0 ∉ bytes.toList →
    s.cache.load s.read h =
      (.ok (some (Utf8.decode bytes)), s.cache.setText h (some (Utf8.decode bytes)))
  /-- A file with a zero byte gives no text, and nothing changes. -/
  load_binary : ∀ h f bytes, s.cache.files[h]? = some f → s.cache.cached h = none →
    s.read f.path = .ok bytes → 0 ∈ bytes.toList → s.cache.load s.read h = (.ok none, s.cache)
  /-- A file that cannot be read gives an error, and nothing changes. -/
  load_fault : ∀ h f fault, s.cache.files[h]? = some f → s.cache.cached h = none →
    s.read f.path = .error fault →
    s.cache.load s.read h = (.error (.unreadable f.path fault), s.cache)
  /-- Nothing changes when no file can be handed out. -/
  obtain_error : ∀ uri e, s.cache.obtain uri = .error e → s.step (.obtain uri) = s
  /-- An address that gave a file gives it again until it is removed. -/
  obtain_again : ∀ past uri between h c, uses = past ++ .obtain uri :: between →
    ((start read).after past).cache.obtain uri = .ok (h, c) → .remove uri ∉ between →
    s.cache.get? uri = some h ∧ s.cache.obtain uri = .ok (h, s.cache)
  /-- What is done under one address leaves the file of another alone. -/
  others_alone : ∀ u uri h v, (start read).Concerns uses uri u → (start read).Made uses h v →
    v ≠ uri →
    (s.step u).cache.get? v = s.cache.get? v ∧ (s.step u).cache.files[h]? = s.cache.files[h]?

theorem load_eq {c : FileCache} (file : c.files[h]? = some f) (empty : c.cached h = none)
    (read : Reader) :
    c.load read h = match read f.path with
      | .error fault => (.error (.unreadable f.path fault), c)
      | .ok bytes => if 0 ∈ bytes.toList then (.ok none, c)
        else (.ok (some (Utf8.decode bytes)), c.setText h (some (Utf8.decode bytes))) := by
  have bare : f.text = none := by rwa [FileCache.cached, file] at empty
  simp only [FileCache.load, file, bare]
  cases read f.path with
  | error fault => rfl
  | ok bytes => by_cases zero : 0 ∈ bytes.toList <;> simp [textOf, zero]

/-- **A file's text is told by its history**, over whatever is done with a cache and its disk. -/
theorem cached_tells_history (read : Reader) (uses : List FileUse) :
    TellsHistory read uses ((start read).after uses) := by
  have valid : (start read).cache.Valid := FileCache.valid_empty
  have new : ∀ h : Handle, (start read).cache.files[h]? = none := fun h => rfl
  have empty : ∀ v, (start read).cache.get? v = none := fun v => by simp [start, FileCache.get?]
  constructor
  case file_made => exact fun h f file => exists_made_of_file valid (new h) file
  case cached_iff => exact fun h text => cached_iff_firstRead valid (new h)
  case load_kept =>
    intro h text disk has
    obtain ⟨f, file, holds⟩ := Option.bind_eq_some_iff.1 has
    simp only [FileCache.load, file, holds]
  case load_read =>
    intro h f bytes file bare content no_zero
    rw [load_eq file bare, content]
    exact if_neg no_zero
  case load_binary =>
    intro h f bytes file bare content zero
    rw [load_eq file bare, content]
    exact if_pos zero
  case load_fault =>
    intro h f fault file bare content
    rw [load_eq file bare, content]
  case obtain_error =>
    intro uri e failed
    simp only [step, failed]
  case obtain_again =>
    rintro past uri between h c rfl obtained stays
    rw [after_append]
    exact obtain_after (valid_after valid past) obtained stays
  case others_alone =>
    intro u uri h v concerns made other
    exact step_of_concerns valid empty concerns made other

/-- A text that was loaded is told although the file is gone, as it was read after the file was
handed out. -/
theorem cached_tells_history_deleted :
    let disk : Reader := fun path => if path = "/m.py" then .ok "x".toUTF8 else .error .notFound
    let uses : List FileUse :=
      [.obtain "file:///m.py", .load 0, .change fun _ => .error .notFound]
    let s := (start disk).after uses
    s.cache.cached 0 = some "x" ∧ s.cache.load s.read 0 = (.ok (some "x"), s.cache) ∧
      (∃ bytes, FirstRead 0 bytes (start disk) uses ∧ "x" = Utf8.decode bytes) ∧
      s.cache.get? "file:///m.py" = some 0 := by
  intro disk uses s
  have history := cached_tells_history disk uses
  have has : s.cache.cached 0 = some "x" := by decide +kernel
  have current : s.cache.get? "file:///m.py" = some 0 := by decide +kernel
  exact ⟨has, history.load_kept 0 "x" s.read has, (history.cached_iff 0 "x").1 has, current⟩

end FileStore

end CodeIndex
