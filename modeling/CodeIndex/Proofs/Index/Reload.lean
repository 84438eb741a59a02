import CodeIndex.Proofs.Index.Convergence

/-!
# Reading a file again

News that a file was added and news that it was updated both ask for the file to be read again, but
what is read goes through the cache. Only the news of an update make the cache forget the text that
it keeps.

**Theorem (`run_reload_iff`).** After any history in which the file is known in one language, and no
two texts have the same digest, an update leaves a file that is to be read again as the disk has it
(`Snapshot.Mirrors`) if and only if the cache keeps no text of the file, or one that contributes the
same as the text on disk. In particular this is so right after the news of an update
(`run_updated_mirrors`).

**Failure (`added_again_keeps_text`).** A file that was written and is then reported as added keeps
the entries of its old text.

The proof needs the language because an update leaves the record of an equal text in its place
(`SymbolIndex.SpokenIn`). Then the record after an update is that of the text that the cache shows,
and it remains to compare this text with the one on disk.
-/

namespace CodeIndex

variable {T : Set String} {read : Reader} {c : FileCache} {uri : String}

/-! ## A file as the disk has it -/

namespace Snapshot

variable {s : Snapshot} {order : List String}

/-- A file is not taken up, and no entry bears its address. -/
structure Lacks (s : Snapshot) (uri : String) : Prop where
  unknown : uri ∉ s.files
  definitions : ∀ name, (s.definitionsOf name).filter (·.location.uri = uri) = []
  usages : ∀ name, (s.usagesOf name).filter (·.location.uri = uri) = []

theorem LaidOut.lacks_iff (laid : s.LaidOut order) : s.Lacks uri ↔ s.files[uri]? = none := by
  have known : uri ∈ s.files ↔ s.files[uri]? ≠ none := by
    rw [Std.TreeMap.mem_iff_isSome_getElem?, Option.isSome_iff_ne_none]
  constructor
  · intro lacks
    by_contra h
    exact lacks.unknown (known.2 h)
  · intro h
    have unknown : uri ∉ s.files := fun hu => known.1 hu h
    have absent : uri ∉ order := fun hu => unknown ((laid.mem_iff uri).1 hu)
    have nothing := laid.contribution_of_not_mem absent
    refine ⟨unknown, fun name => ?_, fun name => ?_⟩
    · rw [laid.filter_definitionsOf, nothing, List.filter_nil]
    · rw [laid.filter_usagesOf, nothing, List.filter_nil]

/-- What is taken up of a file is what the disk has: just the entries of its text, or nothing where
there is no text in a language. -/
def Mirrors [Trees] (s : Snapshot) (read : Reader) (uri : String) : Prop :=
  match onDisk read uri with
  | some (language, text) => s.Stores uri (contributionOf uri language.id text)
  | none => s.Lacks uri

theorem LaidOut.mirrors_iff [Trees] (laid : s.LaidOut order) :
    s.Mirrors read uri ↔ (s.files[uri]?).map (·.contribution) =
      (onDisk read uri).map fun (language, text) => contributionOf uri language.id text := by
  unfold Mirrors
  cases onDisk read uri with
  | none => rw [Option.map_none, Option.map_eq_none_iff, ← laid.lacks_iff]
  | some source => exact laid.stores_iff

end Snapshot

/-- What is seen at an address is as good as what is on disk if and only if the kept text is, if one
is kept. -/
theorem FileCache.Valid.map_view_eq_iff (valid : c.Valid) {α : Type} (f : Language × String → α) :
    (c.view read uri).map f = (onDisk read uri).map f ↔
      ∀ text, c.kept uri = some text → ∃ language text',
        onDisk read uri = some (language, text') ∧ f (language, text') = f (language, text) := by
  cases hk : c.kept uri with
  | none =>
    rw [view_eq_onDisk (by simp [hk])]
    simp
  | some text =>
    cases hf : fileAt uri with
    | error e =>
      rw [kept, valid.get?_of_error hf] at hk
      cases hk
    | ok source =>
      obtain ⟨path, language⟩ := source
      simp only [view, onDisk, hf, hk]
      cases textAt read path with
      | none => simp
      | some text' => simp [eq_comm]

/-! ## A small example -/

namespace Example

/-- The disk after another text was written to the file. -/
def written : Reader := fun path => if path = "/m.py" then .ok "y".toUTF8 else .error .notFound

theorem readsIn_oneFile : ReadsIn oneFile {"x", "y"} := by
  intro path text found
  by_cases hp : path = "/m.py"
  · subst hp
    have : textAt oneFile "/m.py" = some "x" := by decide +kernel
    exact Or.inl (Option.some.inj (found.symm.trans this))
  · simp [textAt, oneFile, hp] at found

theorem textAt_written : textAt written "/m.py" = some "y" := by decide +kernel

theorem readsIn_written : ReadsIn written {"x", "y"} := by
  intro path text found
  by_cases hp : path = "/m.py"
  · subst hp
    exact Or.inr (Option.some.inj (found.symm.trans textAt_written))
  · simp [textAt, written, hp] at found

theorem onDisk_written : onDisk written "file:///m.py" = some (.python, "y") := by
  simp only [onDisk, fileAt_m, textAt_written, Option.map_some]

theorem faithful_written : @Faithful digests {"x", "y"} := by
  rintro _ (rfl | rfl) _ (rfl | rfl) same
  · rfl
  · exact absurd same (by decide)
  · exact absurd same (by decide)
  · rfl

end Example

/-! ## Files in one language -/

namespace SymbolIndex

section

variable [Trees] [Digest] {i : SymbolIndex} {languageId : String}

theorem SpokenIn.step (spoken : i.SpokenIn languageId T uri)
    (paths : ∀ path language, fileAt uri = .ok (path, language) → languageId = language.id)
    (sound : i.Sound T) (e : Event) (within : e.Within T)
    (news : ∀ languageId' text, e = .textGiven uri languageId' text → languageId' = languageId) :
    (i.step e).SpokenIn languageId T uri := by
  cases e with
  | added v => exact spoken.enqueue v nofun
  | updated v => exact (spoken.withCache (i.cache.invalidate v)).enqueue v nofun
  | removed v => exact (spoken.withCache (i.cache.remove v)).enqueue v nofun
  | textGiven v languageId' text =>
    refine spoken.enqueue v ?_
    rintro rfl _ _ ⟨⟩
    exact news languageId' text rfl
  | update read => exact spoken.update paths sound within
  | obtain v =>
    simp only [SymbolIndex.step]
    split
    · exact spoken.withCache _
    · exact spoken
  | load read h => exact spoken.withCache _
  | forget h => exact spoken.withCache _
  | invalidate v => exact spoken.withCache _
  | drop v => exact spoken.withCache _

theorem SpokenIn.foldl_step (spoken : i.SpokenIn languageId T uri)
    (paths : ∀ path language, fileAt uri = .ok (path, language) → languageId = language.id)
    (sound : i.Sound T) (events : List Event) (within : ∀ e ∈ events, e.Within T)
    (news : ∀ languageId' text, .textGiven uri languageId' text ∈ events →
      languageId' = languageId) :
    (events.foldl SymbolIndex.step i).SpokenIn languageId T uri := by
  induction events generalizing i with
  | nil => exact spoken
  | cons e events ih =>
    obtain ⟨first, rest⟩ := List.forall_mem_cons.1 within
    have now := spoken.step paths sound e first fun l t h => news l t (h ▸ List.mem_cons_self)
    exact ih now (sound.step e first) rest fun l t h => news l t (List.mem_cons_of_mem e h)

/-! ## Updates -/

/-- The file is only ever given texts in the language of its path. -/
def OneLanguage (uri : String) (events : List Event) : Prop :=
  ∀ path language, fileAt uri = .ok (path, language) →
    ∀ languageId text, .textGiven uri languageId text ∈ events → languageId = language.id

variable {events : List Event}

theorem files_run_reload (faithful : Faithful T) (within : ∀ e ∈ events, e.Within T)
    (reads : ReadsIn read T) (spoken : OneLanguage uri events)
    (queued : (run events).queue[uri]? = some .reload) :
    ((run events).update read).2.snapshot.files[uri]? =
      ((run events).cache.view read uri).map
        fun (language, text) => Slice.ofText uri language.id text := by
  have sound := sound_run events within
  cases hf : fileAt uri with
  | error e =>
    have nothing : (run events).cache.view read uri = none := by rw [FileCache.view, hf]
    rw [files_update sound.valid read queued, wanted, nothing]
    rfl
  | ok source =>
    obtain ⟨path, language⟩ := source
    have paths : ∀ path' language', fileAt uri = .ok (path', language') →
        language.id = language'.id := fun path' language' hf' => by
      rw [hf] at hf'
      cases hf'
      rfl
    have spokenIn : (run events).SpokenIn language.id T uri :=
      spokenIn_empty.foldl_step paths sound_empty events within (spoken path language hf)
    rw [spokenIn.files_update paths sound faithful reads queued, wanted, Option.map_map]
    rfl

/-- **An update right after the news that a file was updated reads the file from disk.** -/
theorem run_updated_mirrors (faithful : Faithful T) (within : ∀ e ∈ events, e.Within T)
    (reads : ReadsIn read T) (spoken : OneLanguage uri events) :
    ((run (events ++ [.updated uri])).update read).2.snapshot.Mirrors read uri := by
  have within' : ∀ e ∈ events ++ [.updated uri], e.Within T := by
    intro e he
    rcases List.mem_append.1 he with he | he
    · exact within e he
    · rw [List.mem_singleton.1 he]
      trivial
  have spoken' : OneLanguage uri (events ++ [.updated uri]) :=
    fun path language hf languageId text mem =>
      spoken path language hf languageId text (by simpa using mem)
  have last : run (events ++ [.updated uri]) = (run events).fileUpdated uri := by
    simp [run, SymbolIndex.step]
  have queued : (run (events ++ [.updated uri])).queue[uri]? = some .reload := by
    rw [last, fileUpdated, queue_enqueue, if_pos rfl]
  have forgotten : (run (events ++ [.updated uri])).cache.kept uri = none := by
    rw [last]
    exact (congrFun ((sound_run events within).valid.kept_invalidate uri) uri).trans
      (Function.update_self ..)
  obtain ⟨order, laid⟩ := ((sound_run _ within').update reads).laid
  rw [laid.mirrors_iff, files_run_reload faithful within' reads spoken' queued, Option.map_map,
    FileCache.view_eq_onDisk (by simp [forgotten])]
  rfl

/-- **After any history, an update leaves a file that is to be read again as the disk has it if and
only if the cache keeps no text of the file, or one that contributes the same.** The file must be
known in one language, and the digests of different texts in the history must differ. -/
theorem run_reload_iff (faithful : Faithful T) (within : ∀ e ∈ events, e.Within T)
    (reads : ReadsIn read T) (spoken : OneLanguage uri events)
    (queued : (run events).queue[uri]? = some .reload) :
    ((run events).update read).2.snapshot.Mirrors read uri ↔
      ∀ text, (run events).cache.kept uri = some text → ∃ language text',
        onDisk read uri = some (language, text') ∧
          contributionOf uri language.id text' = contributionOf uri language.id text := by
  have sound := sound_run events within
  obtain ⟨order, laid⟩ := (sound.update reads).laid
  rw [laid.mirrors_iff, files_run_reload faithful within reads spoken queued, Option.map_map]
  exact sound.valid.map_view_eq_iff fun (language, text) => contributionOf uri language.id text

end

/-- A file is written after its text was loaded, and the cache is told to forget the old text. -/
theorem run_reload_iff_forgotten :
    let _ := Example.trees
    let _ := Example.digests
    let i := run [.added "file:///m.py", .update Example.oneFile, .added "file:///m.py",
      .invalidate "file:///m.py"]
    i.queue["file:///m.py"]? = some .reload ∧
      (i.update Example.written).2.snapshot.Mirrors Example.written "file:///m.py" := by
  intro _ _ i
  have queued : i.queue["file:///m.py"]? = some .reload := by decide +kernel
  have forgotten : i.cache.kept "file:///m.py" = none := by decide +kernel
  have within : ∀ e ∈ [Event.added "file:///m.py", .update Example.oneFile,
      .added "file:///m.py", .invalidate "file:///m.py"], e.Within {"x", "y"} := by
    simp [Event.Within, Example.readsIn_oneFile]
  have faithful : Faithful {"x", "y"} := Example.faithful_written
  subst i
  refine ⟨queued, (run_reload_iff faithful within Example.readsIn_written ?_ queued).2 ?_⟩
  · intro path language hf languageId text mem
    simp at mem
  · intro text hk
    rw [forgotten] at hk
    cases hk

/-- **A file that is written and then reported as added keeps the entries of its old text.** -/
theorem added_again_keeps_text :
    let _ := Example.trees
    let _ := Example.digests
    let i := run [.added "file:///m.py", .update Example.oneFile, .added "file:///m.py"]
    i.queue["file:///m.py"]? = some .reload ∧
      ¬ (i.update Example.written).2.snapshot.Mirrors Example.written "file:///m.py" := by
  intro _ _ i
  refine ⟨by decide +kernel, fun mirrors => ?_⟩
  rw [Snapshot.Mirrors, Example.onDisk_written] at mirrors
  have usages := mirrors.usages "x"
  revert usages
  decide +kernel

end SymbolIndex

end CodeIndex
