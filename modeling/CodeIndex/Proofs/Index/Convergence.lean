import CodeIndex.Proofs.Index.Freshness

/-!
# Keeping up against starting afresh

An index that is told of each change on disk comes to hold what an index that starts afresh would
hold.

**Watching** (`Watched`). Files are written, made and deleted, and each change is at once followed
by its news. In between there may be updates, and any file may be asked for and loaded. Each file is
known under one address, so a change shows under no other.

**The invariant** (`InSync`). A kept text is the one on disk: the news of a change make the cache
forget the text, or there was none to forget. A file without news in the queue has the record of its
text on disk; one with news will get it, since a removal only waits where no text is left. So after
an update all files that were ever reported have the records of the disk, whatever happened on the
way.

**Theorem (`update_agrees_rebuilt`).** After an update the index knows the same files with the same
entries as one that was rebuilt, and gives the same definitions and usages of each name, up to their
order.
-/

namespace CodeIndex

/-- The language and text at an address, as the disk has it. -/
def onDisk (read : Reader) (uri : String) : Option (Language × String) :=
  match fileAt uri with
  | .error _ => none
  | .ok (path, language) => (textAt read path).map (language, ·)

/-- All texts at the addresses in `U` are from `T`. -/
def DrawsOn (U T : Set String) (read : Reader) : Prop :=
  ∀ uri ∈ U, ∀ language text, onDisk read uri = some (language, text) → text ∈ T

/-- The disk changes in the file at `uri` and in no other file of `U`. -/
structure Edit (U T : Set String) (uri : String) (read read' : Reader) : Prop where
  known : uri ∈ U
  elsewhere : ∀ v ∈ U, v ≠ uri → onDisk read' v = onDisk read v
  texts : DrawsOn U T read'

variable {U T : Set String} {read read' : Reader} {c : FileCache} {uri v : String}

theorem Edit.refl (known : uri ∈ U) (texts : DrawsOn U T read) : Edit U T uri read read :=
  ⟨known, fun _ _ _ => rfl, texts⟩

/-- Where one address of `U` alone tells a path, a disk that changes at this path alone changes in
the file at this address alone. -/
theorem Edit.of_path {path : String} (known : uri ∈ U)
    (once : ∀ v ∈ U, ∀ language', fileAt v = .ok (path, language') → v = uri)
    (only : ∀ p, p ≠ path → read' p = read p) (texts : DrawsOn U T read') :
    Edit U T uri read read' := by
  refine ⟨known, fun v hv he => ?_, texts⟩
  unfold onDisk
  cases hf : fileAt v with
  | error e => rfl
  | ok source =>
    have other : source.1 ≠ path := by
      intro h
      exact he (once v hv source.2 (by rw [hf, ← h]))
    simp only [textAt, only source.1 other]

theorem FileCache.view_eq_onDisk
    (current : ∀ text, c.kept uri = some text → (onDisk read uri).map (·.2) = some text) :
    c.view read uri = onDisk read uri := by
  unfold FileCache.view onDisk at *
  cases hf : fileAt uri with
  | error e => rfl
  | ok source =>
    obtain ⟨path, language⟩ := source
    simp only [hf, Option.map_map] at current ⊢
    cases hk : c.kept uri with
    | none => rw [Option.none_or]
    | some text =>
      have same : textAt read path = some text := by
        simpa [Function.comp_def] using current text hk
      rw [Option.some_or, same]

theorem fileAt_of_onDisk {language : Language} {text : String}
    (found : onDisk read uri = some (language, text)) :
    ∃ path, fileAt uri = .ok (path, language) := by
  rw [← FileCache.view_eq_onDisk (c := {}) (by simp)] at found
  obtain ⟨path, hf, -⟩ := FileCache.view_eq_some found
  exact ⟨path, hf⟩

/-! ## A small example -/

namespace Example

/-- A disk with the text `x` in one file. -/
def oneFile : Reader := fun path => if path = "/m.py" then .ok "x".toUTF8 else .error .notFound

theorem onDisk_oneFile : onDisk oneFile "file:///m.py" = some (.python, "x") := by
  have text : textAt oneFile "/m.py" = some "x" := by decide +kernel
  simp only [onDisk, fileAt_m, text, Option.map_some]

theorem drawsOn_oneFile : DrawsOn {"file:///m.py"} {"x"} oneFile := by
  rintro _ rfl language text found
  rw [onDisk_oneFile] at found
  cases found
  rfl

end Example

namespace SymbolIndex

section

variable [Trees] [Digest] {seen uris : List String} {i : SymbolIndex}

/-- What the disk and an index can come to from an empty index, when each change on disk is followed
by its news. The files that there was news of are listed. -/
inductive Watched (U T : Set String) : Reader → List String → SymbolIndex → Prop
  | start {read : Reader} : DrawsOn U T read → Watched U T read [] {}
  | written {read read' : Reader} {seen : List String} {i : SymbolIndex} {uri : String} :
      Watched U T read seen i → Edit U T uri read read' →
      Watched U T read' (uri :: seen) (i.fileUpdated uri)
  | created {read read' : Reader} {seen : List String} {i : SymbolIndex} {uri : String} :
      Watched U T read seen i → Edit U T uri read read' → onDisk read uri = none →
      Watched U T read' (uri :: seen) (i.fileAdded uri)
  | deleted {read read' : Reader} {seen : List String} {i : SymbolIndex} {uri : String} :
      Watched U T read seen i → Edit U T uri read read' → onDisk read' uri = none →
      Watched U T read' (uri :: seen) (i.fileRemoved uri)
  | updated {read : Reader} {seen : List String} {i : SymbolIndex} :
      Watched U T read seen i → Watched U T read seen (i.update read).2
  | obtained {read : Reader} {seen : List String} {i : SymbolIndex} {uri : String} {h : Handle}
      {cache : FileCache} :
      Watched U T read seen i → i.cache.obtain uri = .ok (h, cache) →
      Watched U T read seen { i with cache }
  | loaded {read : Reader} {seen : List String} {i : SymbolIndex} (h : Handle) :
      Watched U T read seen i → Watched U T read seen { i with cache := (i.cache.load read h).2 }

/-- The index that starts afresh with the given files. -/
def rebuilt (read : Reader) (uris : List String) : SymbolIndex :=
  ((uris.foldl fileAdded {}).update read).2

/-- The record of a file as it is on disk. -/
def record (read : Reader) (uri : String) : Option Slice :=
  (onDisk read uri).map fun (language, text) => Slice.ofText uri language.id text

/-! ## The invariant -/

/-- The index keeps up with the disk. -/
structure InSync (U T : Set String) (read : Reader) (seen : List String)
    (i : SymbolIndex) : Prop where
  valid : i.cache.Valid
  laid : ∃ order, i.snapshot.LaidOut order
  texts : DrawsOn U T read
  known : ∀ uri ∈ seen, uri ∈ U
  /-- A kept text is the one on disk. -/
  kept : ∀ uri ∈ U, ∀ text,
    i.cache.kept uri = some text → (onDisk read uri).map (·.2) = some text
  /-- News wait only of files that were reported, and of removals only where no text is left. -/
  queued : ∀ (uri : String) change, i.queue[uri]? = some change →
    uri ∈ seen ∧ (change = .reload ∨ change = .remove ∧ onDisk read uri = none)
  /-- A file without news has the record of the disk. -/
  settled : ∀ uri ∈ seen, i.queue[uri]? = none → i.snapshot.files[uri]? = record read uri
  unknown : ∀ uri ∉ seen, i.snapshot.files[uri]? = none
  /-- Each record is that of some text in the language of its file. -/
  stored : ∀ (uri : String) slice, i.snapshot.files[uri]? = some slice →
    ∃ path language, fileAt uri = .ok (path, language) ∧
      ∃ text ∈ T, slice = Slice.ofText uri language.id text

theorem inSync_empty (texts : DrawsOn U T read) : InSync U T read [] {} := by
  refine ⟨FileCache.valid_empty, ⟨[], Snapshot.laidOut_empty⟩, texts, ?_, ?_, ?_, ?_, ?_, ?_⟩ <;>
    simp

/-- A change on disk with its news: the file is queued, and what was kept of it is forgotten. -/
theorem InSync.edit (sync : InSync U T read seen i) (edit : Edit U T uri read read')
    (valid : c.Valid) (same : ∀ v, v ≠ uri → c.kept v = i.cache.kept v)
    (forgotten : c.kept uri = none) {change : Change}
    (news : change = .reload ∨ change = .remove ∧ onDisk read' uri = none) :
    InSync U T read' (uri :: seen) (enqueue { i with cache := c } uri change) := by
  refine ⟨valid, sync.laid, edit.texts, ?_, ?_, ?_, ?_, ?_, sync.stored⟩
  · intro v hv
    rcases List.mem_cons.1 hv with rfl | hv
    · exact edit.known
    · exact sync.known v hv
  · intro v hv text hk
    replace hk : c.kept v = some text := hk
    by_cases he : v = uri
    · rw [he, forgotten] at hk
      cases hk
    · rw [edit.elsewhere v hv he]
      exact sync.kept v hv text (same v he ▸ hk)
  · intro v change' hq
    rcases queued_enqueue hq with ⟨rfl, rfl⟩ | ⟨he, old⟩
    · exact ⟨List.mem_cons_self, news⟩
    · obtain ⟨hv, hc⟩ := sync.queued v change' old
      rw [edit.elsewhere v (sync.known v hv) he]
      exact ⟨List.mem_cons_of_mem _ hv, hc⟩
  · intro v hv hq
    rw [queue_enqueue] at hq
    by_cases he : v = uri
    · rw [if_pos he] at hq
      cases hq
    · rw [if_neg he] at hq
      have hv : v ∈ seen := (List.mem_cons.1 hv).resolve_left he
      rw [record, edit.elsewhere v (sync.known v hv) he]
      exact sync.settled v hv hq
  · intro v hv
    exact sync.unknown v fun h => hv (List.mem_cons_of_mem _ h)

/-! ## Steps -/

theorem InSync.loads (sync : InSync U T read seen i)
    (loads : FileCache.Loads read i.cache c) : InSync U T read seen { i with cache := c } := by
  refine ⟨loads.valid, sync.laid, sync.texts, sync.known, fun v hv text hk => ?_, sync.queued,
    sync.settled, sync.unknown, sync.stored⟩
  rcases loads.kept v with same | seen
  · exact sync.kept v hv text (same ▸ hk)
  · rw [← FileCache.view_eq_onDisk (sync.kept v hv), ← seen]
    exact hk

theorem InSync.fileUpdated (sync : InSync U T read seen i) (edit : Edit U T uri read read') :
    InSync U T read' (uri :: seen) (i.fileUpdated uri) := by
  have kept := sync.valid.kept_invalidate uri
  refine sync.edit edit (sync.valid.invalidate uri) (fun v hv => ?_) ?_ (Or.inl rfl)
  · rw [kept, Function.update_of_ne hv]
  · rw [kept, Function.update_self]

theorem InSync.fileRemoved (sync : InSync U T read seen i) (edit : Edit U T uri read read')
    (gone : onDisk read' uri = none) : InSync U T read' (uri :: seen) (i.fileRemoved uri) := by
  refine sync.edit edit (sync.valid.remove uri) (fun v hv => ?_) ?_ (Or.inr ⟨rfl, gone⟩)
  · rw [FileCache.kept_remove, Function.update_of_ne hv]
  · rw [FileCache.kept_remove, Function.update_self]

/-- Nothing is kept of a file that was not there before it was made. -/
theorem InSync.fileAdded (sync : InSync U T read seen i) (edit : Edit U T uri read read')
    (absent : onDisk read uri = none) : InSync U T read' (uri :: seen) (i.fileAdded uri) := by
  refine sync.edit edit sync.valid (fun v _ => rfl) ?_ (Or.inl rfl)
  cases hk : i.cache.kept uri with
  | none => rfl
  | some text =>
    have := sync.kept uri edit.known text hk
    rw [absent] at this
    cases this

theorem InSync.wanted_eq (sync : InSync U T read seen i) {change : Change}
    (queued : i.queue[uri]? = some change) :
    wanted read i.cache uri change =
      (onDisk read uri).map fun (language, text) => (language.id, text) := by
  obtain ⟨hu, rfl | ⟨rfl, gone⟩⟩ := sync.queued uri change queued
  · rw [wanted, FileCache.view_eq_onDisk (sync.kept uri (sync.known uri hu))]
  · rw [wanted, gone]
    rfl

theorem InSync.files_update (sync : InSync U T read seen i) (faithful : Faithful T)
    {change : Change} (queued : i.queue[uri]? = some change) :
    (i.update read).2.snapshot.files[uri]? = record read uri := by
  obtain ⟨hu, -⟩ := sync.queued uri change queued
  rw [SymbolIndex.files_update sync.valid read queued, sync.wanted_eq queued, record]
  cases found : onDisk read uri with
  | none => rfl
  | some source =>
    obtain ⟨language, text⟩ := source
    refine settle_outcome_of_language faithful
      (sync.texts uri (sync.known uri hu) _ _ found) fun slice hs => ?_
    obtain ⟨path, language', hf, text', ht', rfl⟩ := sync.stored uri slice hs
    obtain ⟨path', hf'⟩ := fileAt_of_onDisk found
    rw [hf] at hf'
    cases hf'
    exact ⟨text', ht', rfl⟩

theorem InSync.update (sync : InSync U T read seen i) (faithful : Faithful T) :
    InSync U T read seen (i.update read).2 := by
  obtain ⟨order, laid⟩ := sync.laid
  have loaded := sync.loads (loads_update sync.valid read)
  have idle : ∀ {v}, i.queue[v]? = none →
      (i.update read).2.snapshot.files[v]? = i.snapshot.files[v]? :=
    files_update_of_not_mem sync.valid read
  refine ⟨loaded.valid, laidOut_update laid sync.valid read, sync.texts, sync.known, loaded.kept,
    by simp [queue_update], ?_, ?_, ?_⟩
  · intro v hv _
    cases hq : i.queue[v]? with
    | none => rw [idle hq, sync.settled v hv hq]
    | some change => exact sync.files_update faithful hq
  · intro v hv
    have hq : i.queue[v]? = none := by
      by_contra h
      obtain ⟨change, hq⟩ := Option.ne_none_iff_exists'.1 h
      exact hv (sync.queued v change hq).1
    rw [idle hq, sync.unknown v hv]
  · intro v slice hs
    cases hq : i.queue[v]? with
    | none =>
      rw [idle hq] at hs
      exact sync.stored v slice hs
    | some change =>
      rw [sync.files_update faithful hq] at hs
      obtain ⟨⟨language, text⟩, found, rfl⟩ := Option.map_eq_some_iff.1 hs
      obtain ⟨path, hf⟩ := fileAt_of_onDisk found
      have hv := sync.known v (sync.queued v change hq).1
      exact ⟨path, language, hf, text, sync.texts v hv _ _ found, rfl⟩

theorem Watched.inSync (faithful : Faithful T) (watched : Watched U T read seen i) :
    InSync U T read seen i := by
  induction watched with
  | start texts => exact inSync_empty texts
  | written _ edit ih => exact ih.fileUpdated edit
  | created _ edit absent ih => exact ih.fileAdded edit absent
  | deleted _ edit gone ih => exact ih.fileRemoved edit gone
  | updated _ ih => exact ih.update faithful
  | obtained _ got ih => exact ih.loads (ih.valid.loads_obtain got _)
  | loaded h _ ih => exact ih.loads (ih.valid.loads_load _ h)

/-! ## Starting afresh -/

theorem InSync.foldl_fileAdded (sync : InSync U T read seen i) (empty : i.cache = {})
    (known : ∀ uri ∈ uris, uri ∈ U) :
    InSync U T read (uris.reverse ++ seen) (uris.foldl SymbolIndex.fileAdded i) := by
  induction uris generalizing seen i with
  | nil => exact sync
  | cons uri uris ih =>
    obtain ⟨first, rest⟩ := List.forall_mem_cons.1 known
    rw [List.reverse_cons, List.append_assoc]
    refine ih (sync.edit (.refl first sync.texts) sync.valid (fun _ _ => rfl) ?_ (Or.inl rfl))
      empty rest
    rw [empty, FileCache.kept_empty]

theorem inSync_rebuilt (faithful : Faithful T) (texts : DrawsOn U T read)
    (known : ∀ uri ∈ uris, uri ∈ U) : InSync U T read (uris.reverse ++ []) (rebuilt read uris) :=
  ((inSync_empty texts).foldl_fileAdded rfl known).update faithful

/-- Indexes without news in the queue that keep up with the same files of the same disk agree. -/
theorem InSync.agrees {seen' : List String} {i' : SymbolIndex} (sync : InSync U T read seen i)
    (sync' : InSync U T read seen' i') (idle : i.queue = {}) (idle' : i'.queue = {})
    (same : ∀ uri, uri ∈ seen ↔ uri ∈ seen') : i.snapshot.Agrees i'.snapshot := by
  obtain ⟨order, laid⟩ := sync.laid
  obtain ⟨order', laid'⟩ := sync'.laid
  refine laid.agrees laid' fun uri => ?_
  by_cases hu : uri ∈ seen
  · rw [sync.settled uri hu (by simp [idle]), sync'.settled uri ((same uri).1 hu) (by simp [idle'])]
  · rw [sync.unknown uri hu, sync'.unknown uri fun h => hu ((same uri).2 h)]

/-- **After an update, a watched index agrees with one that starts afresh** with the files that
there was news of, whatever happened on the way. -/
theorem update_agrees_rebuilt (faithful : Faithful T) (watched : Watched U T read seen i)
    (reported : ∀ uri, uri ∈ uris ↔ uri ∈ seen) :
    (i.update read).2.snapshot.Agrees (rebuilt read uris).snapshot := by
  have sync := watched.inSync faithful
  refine (sync.update faithful).agrees (inSync_rebuilt faithful sync.texts fun uri hu =>
    sync.known uri ((reported uri).1 hu)) rfl rfl fun uri => ?_
  rw [List.append_nil, List.mem_reverse, reported]

end

/-- A file is made, taken up, asked for again and written. -/
theorem update_agrees_rebuilt_oneFile :
    let _ := Example.trees
    let _ := Example.digests
    let i := (((({} : SymbolIndex).fileAdded "file:///m.py").update Example.oneFile).2).fileUpdated
      "file:///m.py"
    (i.update Example.oneFile).2.snapshot.Agrees
        (rebuilt Example.oneFile ["file:///m.py"]).snapshot ∧
      (i.update Example.oneFile).2.snapshot.fileCount = 1 := by
  intro _ _ i
  have draws : DrawsOn {"file:///m.py"} {"x"} Example.noFiles := by
    rintro _ rfl language text found
    simp [onDisk, Example.fileAt_m, textAt, Example.noFiles] at found
  have edit : Edit {"file:///m.py"} {"x"} "file:///m.py" Example.noFiles Example.oneFile := by
    have once : ∀ v ∈ ({"file:///m.py"} : Set String), ∀ language,
        fileAt v = .ok ("/m.py", language) → v = "file:///m.py" := fun v hv _ _ => hv
    refine .of_path rfl once (fun p hp => ?_) Example.drawsOn_oneFile
    rw [Example.oneFile, if_neg hp, Example.noFiles]
  have absent : onDisk Example.noFiles "file:///m.py" = none := by
    simp [onDisk, Example.fileAt_m, textAt, Example.noFiles]
  have watched :
      Watched {"file:///m.py"} {"x"} Example.oneFile ["file:///m.py", "file:///m.py"] i :=
    .written (.updated (.created (.start draws) edit absent)) (.refl rfl Example.drawsOn_oneFile)
  exact ⟨update_agrees_rebuilt Example.faithful watched (by simp), by decide +kernel⟩

end SymbolIndex

end CodeIndex
