import CodeIndex.Proofs.Index.Freshness
import CodeIndex.Scan.Walk
import CodeIndex.Workspace

/-!
# Open buffers in the index

While a document is open, what the index holds of its file comes from the buffer, or is about to.

**The invariant** (`Workspace.Buffered`). Each open document waits in the queue with the text and
the language of its buffer, or there is no news of it and the record of its file is that of the
buffer (`SymbolIndex.Reflects`). Opening and changing a document queue its buffer in the place of
older news. News of its file on disk only touch the cache, as do all questions. An update takes up
the buffer.

**Languages.** The update may leave the record of an equal text in its place. This is the record of
the buffer because each file is only ever taken up in one language (`SymbolIndex.Spoken`).

Main result: `run_buffered`.
-/

namespace CodeIndex

/-- The language of each file that has one by its path. -/
def PathLanguage (L : String → String) : Prop :=
  ∀ uri path language, fileAt uri = .ok (path, language) → L uri = language.id

variable {L : String → String} {T : Set String} {read : Reader} {c : FileCache} {uri v : String}

namespace SymbolIndex

variable [Trees] [Digest] {i : SymbolIndex} {d : Buffer}

/-! ## Languages in the index -/

/-- A sound index in which each file waits and is on record in its language under `L` only. -/
structure Spoken (L : String → String) (T : Set String) (i : SymbolIndex) : Prop where
  sound : i.Sound T
  queued : ∀ uri languageId text : String,
    i.queue[uri]? = some (Change.text languageId text) → languageId = L uri
  stored : ∀ (uri : String) slice, i.snapshot.files[uri]? = some slice →
    ∃ text ∈ T, slice = Slice.ofText uri (L uri) text

theorem spoken_empty : Spoken L T {} := ⟨sound_empty, by simp, by simp⟩

theorem Spoken.spokenIn (spoken : i.Spoken L T) (uri : String) : i.SpokenIn (L uri) T uri :=
  ⟨spoken.queued uri, spoken.stored uri⟩

theorem Spoken.of_spokenIn (sound : i.Sound T) (each : ∀ uri, i.SpokenIn (L uri) T uri) :
    i.Spoken L T :=
  ⟨sound, fun uri => (each uri).queued, fun uri => (each uri).stored⟩

theorem Spoken.withCache (spoken : i.Spoken L T) (sound : Sound T { i with cache := c }) :
    Spoken L T { i with cache := c } :=
  ⟨sound, spoken.queued, spoken.stored⟩

theorem Spoken.enqueue (spoken : i.Spoken L T) (uri : String) {change : Change}
    (news : ∀ languageId text, change = .text languageId text → languageId = L uri ∧ text ∈ T) :
    (i.enqueue uri change).Spoken L T := by
  refine .of_spokenIn (spoken.sound.enqueue uri fun l t h => (news l t h).2) fun v => ?_
  refine (spoken.spokenIn v).enqueue uri ?_
  rintro rfl languageId text given
  exact (news languageId text given).1

theorem Spoken.update (spoken : i.Spoken L T) (paths : PathLanguage L) (reads : ReadsIn read T) :
    (i.update read).2.Spoken L T :=
  .of_spokenIn (spoken.sound.update reads) fun v =>
    (spoken.spokenIn v).update (paths v) spoken.sound reads

/-! ## Buffers in the index -/

/-- The buffer waits to be taken up, or is taken up and there is no news of its file. -/
def Reflects (i : SymbolIndex) (uri : String) (d : Buffer) : Prop :=
  i.queue[uri]? = some (.text d.languageId d.text) ∨
    i.queue[uri]? = none ∧
      i.snapshot.files[uri]? = some (Slice.ofText uri d.languageId d.text)

theorem Reflects.enqueue (reflects : i.Reflects v d) (other : v ≠ uri) (change : Change) :
    (i.enqueue uri change).Reflects v d := by
  unfold Reflects
  rw [queue_enqueue, if_neg other]
  exact reflects

theorem reflects_textGiven (i : SymbolIndex) (uri : String) (d : Buffer) :
    (i.textGiven uri d.languageId d.text).Reflects uri d :=
  Or.inl (by rw [textGiven, queue_enqueue, if_pos rfl])

theorem Reflects.files_update (reflects : i.Reflects uri d) (spoken : i.Spoken L T)
    (faithful : Faithful T) (reads : ReadsIn read T) :
    (i.update read).2.snapshot.files[uri]? = some (Slice.ofText uri d.languageId d.text) := by
  have sound := spoken.sound
  rcases reflects with queued | ⟨idle, stored⟩
  · by_cases known : i.snapshot.files[uri]? = some (Slice.ofText uri d.languageId d.text)
    · exact files_update_of_known sound.valid queued rfl known
    · refine sound.files_update_of_unknown faithful reads queued rfl fun l known' => known ?_
      -- a record of the same text is in the language of the file, which is that of the buffer
      obtain ⟨text, mem, same⟩ := spoken.stored uri _ known'
      have digest : Digest.ofText d.text = Digest.ofText text := congrArg Slice.digest same
      have equal := faithful _ (sound.queued uri _ _ queued) text mem digest
      rw [known', same, ← equal, spoken.queued uri _ _ queued]
  · rw [files_update_of_not_mem sound.valid read idle, stored]

theorem Reflects.update (reflects : i.Reflects uri d) (spoken : i.Spoken L T)
    (faithful : Faithful T) (reads : ReadsIn read T) : (i.update read).2.Reflects uri d :=
  Or.inr ⟨by simp [queue_update], reflects.files_update spoken faithful reads⟩

end SymbolIndex

/-! ## Searches -/

namespace SearchSpace

theorem loads_loadAll (valid : c.Valid) (read : Reader) (uris : List String) :
    FileCache.Loads read c (loadAll read c uris).2 := by
  induction uris generalizing c with
  | nil => exact valid.loads_refl read
  | cons uri uris ih =>
    have got := (valid.source read uri).loads
    exact got.trans (ih got.valid)

theorem loads_sweep (found : OpenText → List NamedSymbol) (cancelled : Moment → Bool)
    (total done : Nat) (st : SearchState) (valid : st.cache.Valid) (batches : List (List String)) :
    FileCache.Loads read st.cache (sweep read found cancelled total done st batches).cache := by
  induction batches generalizing done st with
  | nil => exact valid.loads_refl read
  | cons batch batches ih =>
    have loaded := loads_loadAll valid read batch
    rw [sweep_cons]
    split
    · exact valid.loads_refl read
    · dsimp only
      split
      · exact loaded
      · exact loaded.trans (ih (done + 1) ⟨_, _, (loadAll read st.cache batch).2⟩ loaded.valid)

/-- A search leaves the cache as it was, but for the files that it loaded. -/
theorem loads_search [Trees] (s : SearchSpace) (valid : c.Valid) (query : String)
    (mode : SearchMode) (test : String → Bool) (cancelled : Moment → Bool) :
    FileCache.Loads read c (s.search read c query mode test cancelled).cache := by
  unfold search
  cases mode with
  | off => exact valid.loads_refl read
  | documents => exact valid.loads_refl read
  | workspace =>
    dsimp only
    split
    · exact valid.loads_refl read
    · exact loads_sweep _ cancelled _ _ ⟨_, _, c⟩ valid _

end SearchSpace

/-! ## Workspaces -/

namespace Workspace

/-- What can happen to a workspace. Each question and each update brings the disk that it finds. -/
inductive Event where
  | openDocument (uri languageId text : String) (version : Int)
  | changeDocument (uri text : String) (version : Int)
  | closeDocument (uri : String)
  | fileAdded (uri : String)
  | fileUpdated (uri : String)
  | fileRemoved (uri : String)
  | update (read : Reader)
  | outline (read : Reader) (uri : String)
  | references (read : Reader) (uri : String) (p : Position) (includeDeclaration : Bool)
  | definitions (read : Reader) (uri : String) (p : Position)
  | highlights (read : Reader) (uri : String) (p : Position)
  | completions (read : Reader) (uri : String) (p : Position)
  | search (read : Reader) (query : String) (mode : Option SearchMode) (cancelled : Bool)

/-- Documents are opened in their languages under `L`, and all texts are from `T`. -/
def Event.Within (L : String → String) (T : Set String) : Event → Prop
  | openDocument uri languageId text _ => languageId = L uri ∧ text ∈ T
  | changeDocument _ text _ => text ∈ T
  | closeDocument _ | fileAdded _ | fileUpdated _ | fileRemoved _ => True
  | update read | outline read _ | references read _ _ _ | definitions read _ _
  | highlights read _ _ | completions read _ _ | search read _ _ _ => ReadsIn read T

theorem documents_of_closed {w : Workspace} (closed : ¬ w.isOpen uri) :
    w.documents[uri]? = none := by
  simpa [isOpen] using closed

theorem exists_document_eq [Trees] (read : Reader) (w : Workspace) (uri : String) :
    ∃ c, (w.document read uri).2 = { w with index := { w.index with cache := c } } := by
  simp only [document, source]
  split
  · exact ⟨w.index.cache, rfl⟩
  · exact ⟨_, rfl⟩

section

variable [Trees] [Digest] {w : Workspace}

def step [Prefilter.Builder] (w : Workspace) : Event → Workspace
  | .openDocument uri languageId text version => w.openDocument uri languageId text version
  | .changeDocument uri text version => (w.changeDocument uri text version).2
  | .closeDocument uri => w.closeDocument uri
  | .fileAdded uri => w.fileAdded uri
  | .fileUpdated uri => w.fileUpdated uri
  | .fileRemoved uri => w.fileRemoved uri
  | .update read => (w.update read).2
  | .outline read uri => (w.outline read uri).2
  | .references read uri p includeDeclaration => (w.references read uri p includeDeclaration).2
  | .definitions read uri p => (w.definitions read uri p).2
  | .highlights read uri p => (w.highlights read uri p).2
  | .completions read uri p => (w.completions read uri p).2
  | .search read query mode cancelled => (w.search read query mode cancelled).2

/-- The workspace after a run. -/
def run [Prefilter.Builder] (w : Workspace) (events : List Event) : Workspace :=
  events.foldl step w

/-- Where a run begins: with nothing, or with the files below a root. -/
inductive Begins [FolderWalk] (T : Set String) : Workspace → Prop
  | new (config : Config) : Begins T (new config)
  | opened {disk : Disk} {root : String} {w : Workspace} :
      ReadsIn disk.read T → Workspace.open disk root = .ok w → Begins T w

/-- The index reflects every open document, each in its language under `L`. -/
structure Buffered (L : String → String) (T : Set String) (w : Workspace) : Prop where
  spoken : w.index.Spoken L T
  language : ∀ (uri : String) d, w.documents[uri]? = some d → d.languageId = L uri
  reflects : ∀ (uri : String) d, w.documents[uri]? = some d → w.index.Reflects uri d

theorem buffered_new (config : Config) : (new config).Buffered L T :=
  ⟨SymbolIndex.spoken_empty, by simp [new], by simp [new]⟩

theorem Buffered.withCache (b : w.Buffered L T) (sound : { w.index with cache := c }.Sound T) :
    { w with index := { w.index with cache := c } }.Buffered L T :=
  ⟨b.spoken.withCache sound, b.language, b.reflects⟩

theorem Buffered.loads (b : w.Buffered L T) (reads : ReadsIn read T)
    (loads : FileCache.Loads read w.index.cache c) :
    { w with index := { w.index with cache := c } }.Buffered L T :=
  b.withCache (b.spoken.sound.loads reads loads)

theorem Buffered.update (b : w.Buffered L T) (paths : PathLanguage L) (faithful : Faithful T)
    (reads : ReadsIn read T) : (w.update read).2.Buffered L T :=
  ⟨b.spoken.update paths reads, b.language, fun uri d opened =>
    (b.reflects uri d opened).update b.spoken faithful reads⟩

/-! ### Documents -/

theorem Buffered.enqueue (b : w.Buffered L T) (closed : w.documents[uri]? = none)
    {change : Change} (news : ∀ languageId text, change ≠ .text languageId text) :
    { w with index := w.index.enqueue uri change }.Buffered L T := by
  refine ⟨b.spoken.enqueue uri fun l t h => absurd h (news l t), b.language, ?_⟩
  intro v d hd
  have other : v ≠ uri := by
    rintro rfl
    rw [closed] at hd
    cases hd
  exact (b.reflects v d hd).enqueue other change

theorem Buffered.openDocument (b : w.Buffered L T) {languageId text : String} (version : Int)
    (language : languageId = L uri) (mem : text ∈ T) :
    (w.openDocument uri languageId text version).Buffered L T := by
  have buffer : ∀ (v : String) d,
      (w.openDocument uri languageId text version).documents[v]? = some d →
      v = uri ∧ d = ⟨languageId, text, version⟩ ∨ v ≠ uri ∧ w.documents[v]? = some d := by
    intro v d hd
    rw [Workspace.openDocument, lookup_insert] at hd
    by_cases hv : v = uri
    · rw [if_pos hv] at hd
      exact Or.inl ⟨hv, (Option.some.inj hd).symm⟩
    · rw [if_neg hv] at hd
      exact Or.inr ⟨hv, hd⟩
  refine ⟨b.spoken.enqueue uri ?_, fun v d hd => ?_, fun v d hd => ?_⟩
  · rintro _ _ ⟨⟩
    exact ⟨language, mem⟩
  · rcases buffer v d hd with ⟨rfl, rfl⟩ | ⟨-, hd⟩
    · exact language
    · exact b.language v d hd
  · rcases buffer v d hd with ⟨rfl, rfl⟩ | ⟨other, hd⟩
    · exact SymbolIndex.reflects_textGiven _ _ ⟨languageId, text, version⟩
    · exact (b.reflects v d hd).enqueue other _

theorem Buffered.changeDocument (b : w.Buffered L T) (uri : String) {text : String}
    (version : Int) (mem : text ∈ T) : (w.changeDocument uri text version).2.Buffered L T := by
  unfold Workspace.changeDocument
  split
  · exact b
  · rename_i d hd
    split
    · exact b
    · exact b.openDocument version (b.language uri d hd) mem

theorem Buffered.closeDocument (b : w.Buffered L T) (uri : String) :
    (w.closeDocument uri).Buffered L T := by
  unfold Workspace.closeDocument
  split
  · have still : ∀ {v : String} {d}, (w.documents.erase uri)[v]? = some d →
        w.documents[v]? = some d := fun {v d} hd => by
      rw [lookup_erase] at hd
      exact (Option.ite_none_left_eq_some.1 hd).2
    have closed : { w with documents := w.documents.erase uri }.Buffered L T :=
      ⟨b.spoken, fun v d hd => b.language v d (still hd), fun v d hd => b.reflects v d (still hd)⟩
    have gone : (w.documents.erase uri)[uri]? = none := by rw [lookup_erase, if_pos rfl]
    split
    · rename_i hc
      have obtained := closed.withCache (closed.spoken.sound.obtain hc)
      have forgotten := obtained.withCache (obtained.spoken.sound.invalidate uri)
      exact forgotten.enqueue gone nofun
    · exact (closed.withCache (closed.spoken.sound.drop uri)).enqueue gone nofun
  · exact b

/-! ### News of files -/

theorem Buffered.fileAdded (b : w.Buffered L T) (uri : String) :
    (w.fileAdded uri).Buffered L T := by
  unfold Workspace.fileAdded
  split
  · exact b
  · rename_i closed
    exact b.enqueue (documents_of_closed closed) nofun

theorem Buffered.fileUpdated (b : w.Buffered L T) (uri : String) :
    (w.fileUpdated uri).Buffered L T := by
  have forgotten := b.withCache (b.spoken.sound.invalidate uri)
  unfold Workspace.fileUpdated
  split
  · exact forgotten
  · rename_i closed
    exact forgotten.enqueue (documents_of_closed closed) nofun

theorem Buffered.fileRemoved (b : w.Buffered L T) (uri : String) :
    (w.fileRemoved uri).Buffered L T := by
  have dropped := b.withCache (b.spoken.sound.drop uri)
  unfold Workspace.fileRemoved
  split
  · exact dropped
  · rename_i closed
    exact dropped.enqueue (documents_of_closed closed) nofun

/-! ### Questions -/

theorem Buffered.document (b : w.Buffered L T) (reads : ReadsIn read T) (uri : String) :
    (w.document read uri).2.Buffered L T := by
  simp only [Workspace.document, source]
  split
  · exact b
  · exact b.loads reads (b.spoken.sound.valid.source read uri).loads

theorem Buffered.references (b : w.Buffered L T) (paths : PathLanguage L) (faithful : Faithful T)
    (reads : ReadsIn read T) (uri : String) (p : Position) (includeDeclaration : Bool) :
    (w.references read uri p includeDeclaration).2.Buffered L T := by
  have asked := b.document reads uri
  unfold Workspace.references
  split
  · rename_i hd
    rwa [hd] at asked
  · rename_i d w' hd
    rw [hd] at asked
    simp only [SymbolIndex.references]
    split
    · exact asked
    · exact asked.update paths faithful reads

theorem Buffered.answer (b : w.Buffered L T) (reads : ReadsIn read T) (uri : String) {α : Type}
    (none? : α) (answer : Document → Workspace → α) :
    (match w.document read uri with
      | (none, w) => (none?, w)
      | (some d, w) => (answer d w, w) : α × Workspace).2.Buffered L T := by
  have asked := b.document reads uri
  split
  · rename_i hd
    rwa [hd] at asked
  · rename_i hd
    rwa [hd] at asked

/-! ### Runs -/

theorem Begins.buffered [FolderWalk] (begins : Begins T w) (paths : PathLanguage L) :
    w.Buffered L T := by
  cases begins with
  | new config => exact buffered_new config
  | @opened disk root _ reads opened =>
    have queued : ∀ (files : List SourceFile) (i : SymbolIndex), i.Spoken L T →
        (files.foldl (fun i f => i.fileAdded f.uri) i).Spoken L T := fun files => by
      induction files with
      | nil => exact fun i spoken => spoken
      | cons f files ih => exact fun i spoken => ih _ (spoken.enqueue f.uri nofun)
    unfold Workspace.open indexRoot at opened
    cases hs : scan disk (Workspace.new (Config.load disk.read root)).config root with
    | error e => rw [hs] at opened; cases opened
    | ok files =>
      rw [hs] at opened
      cases opened
      exact ⟨(queued files {} SymbolIndex.spoken_empty).update paths reads, by simp [Workspace.new],
        by simp [Workspace.new]⟩

variable [Prefilter.Builder]

theorem Buffered.search (b : w.Buffered L T) (reads : ReadsIn read T) (query : String)
    (mode : Option SearchMode) (cancelled : Bool) :
    (w.search read query mode cancelled).2.Buffered L T :=
  b.loads reads (w.searchSpace.loads_search b.spoken.sound.valid query _ _ _)

theorem Buffered.step (b : w.Buffered L T) (paths : PathLanguage L) (faithful : Faithful T)
    (e : Event) (within : e.Within L T) : (w.step e).Buffered L T := by
  cases e with
  | openDocument uri languageId text version => exact b.openDocument version within.1 within.2
  | changeDocument uri text version => exact b.changeDocument uri version within
  | closeDocument uri => exact b.closeDocument uri
  | fileAdded uri => exact b.fileAdded uri
  | fileUpdated uri => exact b.fileUpdated uri
  | fileRemoved uri => exact b.fileRemoved uri
  | update read => exact b.update paths faithful within
  | outline read uri => exact b.document within uri
  | references read uri p includeDeclaration =>
    exact b.references paths faithful within uri p includeDeclaration
  | definitions read uri p => exact b.answer within uri [] fun d w => w.index.definitions d uri p
  | highlights read uri p => exact b.answer within uri [] fun d _ => d.highlights p
  | completions read uri p => exact b.answer within uri {} fun d w => w.index.completions d p
  | search read query mode cancelled => exact b.search within query mode cancelled

theorem Buffered.run (b : w.Buffered L T) (paths : PathLanguage L) (faithful : Faithful T)
    (events : List Event) (within : ∀ e ∈ events, e.Within L T) : (w.run events).Buffered L T := by
  unfold Workspace.run
  induction events generalizing w with
  | nil => exact b
  | cons e events ih =>
    obtain ⟨first, rest⟩ := List.forall_mem_cons.1 within
    exact ih (b.step paths faithful e first) rest

/-- **In every state of a run, each open document waits in the queue with the text and language of
its buffer, or there is no news of it and its file has just the entries of the buffer.** So after an
update each open document is taken up from its buffer. -/
theorem run_buffered [FolderWalk] (begins : Begins T w) (paths : PathLanguage L)
    (faithful : Faithful T) (events : List Event) (within : ∀ e ∈ events, e.Within L T) {d : Buffer}
    (opened : (w.run events).documents[uri]? = some d) :
    ((w.run events).index.queue[uri]? = some (.text d.languageId d.text) ∨
      (w.run events).index.queue[uri]? = none ∧
        (w.run events).index.snapshot.Stores uri (contributionOf uri d.languageId d.text)) ∧
    ∀ read, ReadsIn read T → ((w.run events).update read).2.index.snapshot.Stores uri
      (contributionOf uri d.languageId d.text) := by
  have b := (begins.buffered paths).run paths faithful events within
  have reflects := b.reflects uri d opened
  refine ⟨?_, fun read reads => ?_⟩
  · refine reflects.imp id fun ⟨idle, stored⟩ => ⟨idle, ?_⟩
    obtain ⟨order, laid⟩ := b.spoken.sound.laid
    rw [laid.stores_iff, stored]
    rfl
  · obtain ⟨order, laid⟩ := (b.spoken.update paths reads).sound.laid
    refine laid.stores_iff.2 ?_
    rw [reflects.files_update b.spoken faithful reads]
    rfl

end

/-- A document whose file is removed while it is open. -/
theorem run_buffered_m :
    let _ := Example.trees
    let _ := Example.digests
    let w := (new {}).run [.openDocument "file:///m.py" "python" "x" 1, .update Example.noFiles,
      .fileRemoved "file:///m.py"]
    w.documents["file:///m.py"]? = some ⟨"python", "x", 1⟩ ∧
      w.index.snapshot.Stores "file:///m.py" (contributionOf "file:///m.py" "python" "x") := by
  intro _ _ w
  let L (uri : String) : String := match fileAt uri with
    | .ok (_, language) => language.id
    | .error _ => "plaintext"
  have paths : PathLanguage L := fun uri path language hf => by simp only [L, hf]
  have python : L "file:///m.py" = "python" := paths _ _ _ Example.fileAt_m
  have opened : w.documents["file:///m.py"]? = some ⟨"python", "x", 1⟩ := by decide +kernel
  have idle : w.index.queue["file:///m.py"]? = none := by decide +kernel
  have stored := (run_buffered (L := L) (T := {"x"}) (.new {}) paths Example.faithful _ (by
    simp [Event.Within, Example.readsIn_noFiles, python]) opened).1
  rw [idle] at stored
  exact ⟨opened, (stored.resolve_left nofun).2⟩

end Workspace

end CodeIndex
