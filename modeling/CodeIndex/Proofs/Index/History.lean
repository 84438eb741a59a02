import CodeIndex.Proofs.Index.Update
import Mathlib.Data.Set.Basic

/-!
# Histories of an index

What holds of an index after any history of news, updates and uses of its cache. The disk may change
at any time: each update and each load brings the disk that it finds.

**The invariant** (`SymbolIndex.Sound`). The cache is valid, the snapshot is laid out, and the
record of each file is that of some text under some language. Given a set of texts that the news and
the disks draw on, all texts in the index are from that set.

**Theorem (`run_consistent`).** After every history the three maps of the snapshot agree: one
ordering of the files gives the definitions and the usages of every name.

The proof goes by the steps of the history. News leave the snapshot alone; an update changes it one
file at a time, and each change keeps it laid out.
-/

namespace CodeIndex

/-- What can happen to an index. -/
inductive Event where
  | added (uri : String)
  | updated (uri : String)
  | removed (uri : String)
  | textGiven (uri languageId text : String)
  | update (read : Reader)
  /-- A file is asked for from the cache. -/
  | obtain (uri : String)
  /-- A file that was handed out, now or earlier, is loaded. -/
  | load (read : Reader) (h : Handle)
  /-- The text of a file that was handed out is forgotten. -/
  | forget (h : Handle)
  /-- The text at an address is forgotten. -/
  | invalidate (uri : String)
  /-- An address is dropped from the cache. -/
  | drop (uri : String)

/-- All texts on the disk are from `T`. -/
def ReadsIn (read : Reader) (T : Set String) : Prop :=
  ∀ path text, textAt read path = some text → text ∈ T

/-- All texts that come with the event are from `T`. -/
def Event.Within (T : Set String) : Event → Prop
  | textGiven _ _ text => text ∈ T
  | update read => ReadsIn read T
  | load read _ => ReadsIn read T
  | _ => True

namespace SymbolIndex

variable [Trees] [Digest]

def step (i : SymbolIndex) : Event → SymbolIndex
  | .added uri => i.fileAdded uri
  | .updated uri => i.fileUpdated uri
  | .removed uri => i.fileRemoved uri
  | .textGiven uri languageId text => i.textGiven uri languageId text
  | .update read => (i.update read).2
  | .obtain uri => match i.cache.obtain uri with
    | .ok (_, cache) => { i with cache }
    | .error _ => i
  | .load read h => { i with cache := (i.cache.load read h).2 }
  | .forget h => { i with cache := i.cache.forget h }
  | .invalidate uri => { i with cache := i.cache.invalidate uri }
  | .drop uri => { i with cache := i.cache.remove uri }

/-- The index after a history. -/
def run (events : List Event) : SymbolIndex := events.foldl step {}

/-- What holds of an index whose texts are all from `T`. -/
structure Sound (T : Set String) (i : SymbolIndex) : Prop where
  valid : i.cache.Valid
  laid : ∃ order, i.snapshot.LaidOut order
  kept : ∀ uri text : String, i.cache.kept uri = some text → text ∈ T
  queued : ∀ uri languageId text : String,
    i.queue[uri]? = some (Change.text languageId text) → text ∈ T
  stored : ∀ (uri : String) slice, i.snapshot.files[uri]? = some slice →
    ∃ languageId, ∃ text ∈ T, slice = Slice.ofText uri languageId text

variable {T : Set String} {i : SymbolIndex} {c : FileCache} {read : Reader} {uri : String}

theorem sound_empty : Sound T {} :=
  ⟨FileCache.valid_empty, ⟨[], Snapshot.laidOut_empty⟩, by simp, by simp, by simp⟩

/-! ## News and uses of the cache -/

theorem Sound.withCache (sound : i.Sound T) (valid : c.Valid)
    (kept : ∀ uri text, c.kept uri = some text → text ∈ T) : Sound T { i with cache := c } :=
  ⟨valid, sound.laid, kept, sound.queued, sound.stored⟩

theorem Sound.enqueue (sound : i.Sound T) (uri : String) {change : Change}
    (within : ∀ languageId text, change = .text languageId text → text ∈ T) :
    (i.enqueue uri change).Sound T := by
  refine ⟨sound.valid, sound.laid, sound.kept, ?_, sound.stored⟩
  intro v languageId text hq
  rcases queued_enqueue hq with ⟨-, same⟩ | ⟨-, old⟩
  · exact within languageId text same.symm
  · exact sound.queued v languageId text old

theorem Sound.kept_update_none (sound : i.Sound T) (uri v text : String)
    (hk : Function.update i.cache.kept uri none v = some text) : text ∈ T := by
  by_cases hv : v = uri
  · rw [hv, Function.update_self] at hk
    cases hk
  · rw [Function.update_of_ne hv] at hk
    exact sound.kept v text hk

theorem Sound.invalidate (sound : i.Sound T) (uri : String) :
    Sound T { i with cache := i.cache.invalidate uri } := by
  refine sound.withCache (sound.valid.invalidate uri) fun v text hk => ?_
  rw [sound.valid.kept_invalidate] at hk
  exact sound.kept_update_none uri v text hk

theorem Sound.drop (sound : i.Sound T) (uri : String) :
    Sound T { i with cache := i.cache.remove uri } := by
  refine sound.withCache (sound.valid.remove uri) fun v text hk => ?_
  rw [FileCache.kept_remove] at hk
  exact sound.kept_update_none uri v text hk

theorem Sound.forget (sound : i.Sound T) (h : Handle) :
    Sound T { i with cache := i.cache.forget h } := by
  refine sound.withCache (sound.valid.setText h none) fun v text hk => ?_
  rcases i.cache.stale_or_current h with stale | ⟨uri, hu⟩
  · rw [FileCache.forget, FileCache.kept_setText_of_stale stale] at hk
    exact sound.kept v text hk
  · rw [FileCache.forget, sound.valid.kept_setText hu] at hk
    exact sound.kept_update_none uri v text hk

theorem Sound.obtain (sound : i.Sound T) {h : Handle} (hc : i.cache.obtain uri = .ok (h, c)) :
    Sound T { i with cache := c } := by
  have ob := sound.valid.obtain hc
  exact sound.withCache ob.valid fun v text hk => sound.kept v text (ob.kept ▸ hk)

theorem Sound.view_mem (sound : i.Sound T) (reads : ReadsIn read T) {language : Language}
    {text : String} (hv : i.cache.view read uri = some (language, text)) : text ∈ T := by
  obtain ⟨path, -, hk | hr⟩ := FileCache.view_eq_some hv
  · exact sound.kept uri text hk
  · exact reads path text hr

theorem Sound.loads (sound : i.Sound T) (reads : ReadsIn read T)
    (loads : FileCache.Loads read i.cache c) : Sound T { i with cache := c } := by
  refine sound.withCache loads.valid fun v text hk => ?_
  rcases loads.kept v with same | seen
  · exact sound.kept v text (same ▸ hk)
  · rw [seen] at hk
    obtain ⟨⟨language, text'⟩, hv, he⟩ := Option.map_eq_some_iff.1 hk
    cases he
    exact sound.view_mem reads hv

/-! ## Updates -/

theorem Sound.wanted_mem (sound : i.Sound T) (reads : ReadsIn read T) {change : Change}
    (queued : i.queue[uri]? = some change) {languageId text : String}
    (hw : wanted read i.cache uri change = some (languageId, text)) : text ∈ T := by
  cases change with
  | remove => cases hw
  | text languageId text =>
    cases hw
    exact sound.queued uri _ _ queued
  | reload =>
    obtain ⟨⟨language, text'⟩, hv, he⟩ := Option.map_eq_some_iff.1 hw
    cases he
    exact sound.view_mem reads hv

theorem Sound.stored_update (sound : i.Sound T) (reads : ReadsIn read T) (uri : String)
    (slice : Slice) (hs : (i.update read).2.snapshot.files[uri]? = some slice) :
    ∃ languageId, ∃ text ∈ T, slice = Slice.ofText uri languageId text := by
  rcases slice_of_update sound.valid hs with old | ⟨change, languageId, text, hq, hw, rfl⟩
  · exact sound.stored uri slice old
  · exact ⟨languageId, text, sound.wanted_mem reads hq hw, rfl⟩

theorem Sound.update (sound : i.Sound T) (reads : ReadsIn read T) : (i.update read).2.Sound T := by
  obtain ⟨order, laid⟩ := sound.laid
  have loaded := sound.loads reads (loads_update sound.valid read)
  refine ⟨loaded.valid, laidOut_update laid sound.valid read, loaded.kept, ?_,
    sound.stored_update reads⟩
  simp [queue_update]

/-! ## Histories -/

theorem Sound.step (sound : i.Sound T) (e : Event) (within : e.Within T) :
    (i.step e).Sound T := by
  cases e with
  | added uri => exact sound.enqueue uri nofun
  | updated uri => exact (sound.invalidate uri).enqueue uri nofun
  | removed uri => exact (sound.drop uri).enqueue uri nofun
  | textGiven uri languageId text =>
    refine sound.enqueue uri ?_
    rintro _ _ ⟨⟩
    exact within
  | update read => exact sound.update within
  | obtain uri =>
    simp only [SymbolIndex.step]
    split
    · rename_i hc
      exact sound.obtain hc
    · exact sound
  | load read h => exact sound.loads within (sound.valid.loads_load read h)
  | forget h => exact sound.forget h
  | invalidate uri => exact sound.invalidate uri
  | drop uri => exact sound.drop uri

theorem Sound.foldl_step (sound : i.Sound T) (events : List Event)
    (within : ∀ e ∈ events, e.Within T) : (events.foldl SymbolIndex.step i).Sound T := by
  induction events generalizing i with
  | nil => exact sound
  | cons e events ih =>
    obtain ⟨first, rest⟩ := List.forall_mem_cons.1 within
    exact ih (sound.step e first) rest

/-- An index is sound after any history whose texts are from `T`. -/
theorem sound_run (events : List Event) (within : ∀ e ∈ events, e.Within T) :
    (run events).Sound T :=
  sound_empty.foldl_step events within

theorem sound_univ_run (events : List Event) : (run events).Sound Set.univ :=
  sound_run events fun e _ => by cases e <;> simp [Event.Within, ReadsIn]

/-- After every history there is one ordering of the files in which both tables list their entries.
No name stands in a table without entries, each file's entries bear its address, and each defined
name is given once, with the kind of its first definition. -/
theorem run_consistent (events : List Event) :
    (∃ order : List String, order.Nodup ∧
      (∀ uri, uri ∈ order ↔ uri ∈ (run events).snapshot.files) ∧
      ∀ name,
        (run events).snapshot.definitionsOf name = order.flatMap (fun uri =>
          ((run events).snapshot.contribution uri).definitions.filter (·.name = name)) ∧
        (run events).snapshot.usagesOf name = order.flatMap (fun uri =>
          ((run events).snapshot.contribution uri).usages.filter (·.name = name))) ∧
    (∀ name : String, (run events).snapshot.definitions[name]? ≠ some #[] ∧
      (run events).snapshot.usages[name]? ≠ some #[]) ∧
    (∀ uri, ((run events).snapshot.contribution uri).Owned uri) ∧
    ((run events).snapshot.definitionNames.map (·.1)).Nodup ∧
    ∀ name, (∀ kind, (name, kind) ∈ (run events).snapshot.definitionNames ↔
        ((run events).snapshot.definitionsOf name).head?.bind (·.kind) = some kind) ∧
      ((∃ kind, (name, kind) ∈ (run events).snapshot.definitionNames) ↔
        (run events).snapshot.definitionsOf name ≠ []) := by
  have sound : (run events).Sound Set.univ := sound_run events fun e _ => by
    cases e <;> simp [Event.Within, ReadsIn]
  obtain ⟨order, laid⟩ := sound.laid
  refine ⟨⟨order, laid.nodup, laid.mem_iff, fun name => ?_⟩, fun name => ?_, laid.owned,
    Snapshot.nodup_definitionNames _, fun name => ⟨fun kind => Snapshot.mem_definitionNames, ?_⟩⟩
  · exact ⟨laid.definitions.entries name, laid.usages.entries name⟩
  · exact ⟨laid.definitions.tight name, laid.usages.tight name⟩
  · exact laid.exists_mem_definitionNames

end SymbolIndex

end CodeIndex
