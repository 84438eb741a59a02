import CodeIndex.Index.Update
import CodeIndex.Proofs.Files.Cache
import CodeIndex.Proofs.Index.Layout

/-!
# What an update does

An update decides for each queued file what becomes of it and puts these outcomes into effect, one
after the other.

**Deciding.** The files are loaded in turn, so each decision leaves its mark in the cache. It leaves
nothing that a later one could see (`FileCache.Loads`), so each file gets the outcome that it would
get by itself (`outcomes_eq`).

**Putting into effect.** An outcome touches its own file alone, and a file is queued once; so an
update does to each file what its own outcome says (`files_update`). Each outcome keeps the snapshot
laid out (`laidOut_update`).
-/

namespace CodeIndex

/-! ## Outcomes -/

/-- What an outcome makes of the record of its file. -/
def Outcome.settle : Outcome → Option Slice → Option Slice
  | replace slice, _ => some slice
  | unchanged, old => old
  | remove, _ => none

/-- What an outcome takes up for a file bears the file's address. -/
def Outcome.Owned (uri : String) : Outcome → Prop
  | replace slice => slice.contribution.Owned uri
  | unchanged => True
  | remove => True

/-- What an outcome makes of the order in which the files stand. -/
def Outcome.reorder (uri : String) : Outcome → List String → List String
  | replace _, order => order.filter (· ≠ uri) ++ [uri]
  | unchanged, order => order
  | remove, order => order.filter (· ≠ uri)

namespace SymbolIndex

variable {read : Reader} {c : FileCache} {s : Snapshot} {uri v : String} {i : SymbolIndex}

/-! ## Putting into effect -/

theorem files_applyOutcome (st : Snapshot × UpdateStats) (o : Outcome) :
    (applyOutcome st (uri, o)).1.files[v]? =
      if v = uri then o.settle st.1.files[uri]? else st.1.files[v]? := by
  cases o with
  | replace slice => exact st.1.files_insertFile uri v slice
  | unchanged => by_cases hv : v = uri <;> simp [applyOutcome, Outcome.settle, hv]
  | remove => exact st.1.files_removeFile uri v

theorem files_applyOutcomes_of_not_mem (outs : List (String × Outcome))
    (st : Snapshot × UpdateStats) (absent : v ∉ outs.map (·.1)) :
    (outs.foldl applyOutcome st).1.files[v]? = st.1.files[v]? := by
  induction outs generalizing st with
  | nil => rfl
  | cons out outs ih =>
    rw [List.map_cons, List.mem_cons, not_or] at absent
    rw [List.foldl_cons, ih _ absent.2, files_applyOutcome, if_neg absent.1]

theorem files_applyOutcomes_of_mem {o : Outcome} (outs : List (String × Outcome))
    (st : Snapshot × UpdateStats) (distinct : (outs.map (·.1)).Nodup) (mem : (uri, o) ∈ outs) :
    (outs.foldl applyOutcome st).1.files[uri]? = o.settle st.1.files[uri]? := by
  induction outs generalizing st with
  | nil => cases mem
  | cons out outs ih =>
    obtain ⟨fresh, distinct⟩ := List.nodup_cons.1 distinct
    rw [List.foldl_cons]
    rcases List.mem_cons.1 mem with rfl | mem
    · rw [files_applyOutcomes_of_not_mem outs _ fresh, files_applyOutcome, if_pos rfl]
    · have other : uri ≠ out.1 := by
        rintro rfl
        exact fresh (List.mem_map.2 ⟨_, mem, rfl⟩)
      rw [ih _ distinct mem, files_applyOutcome, if_neg other]

theorem laidOut_applyOutcome {order : List String} {st : Snapshot × UpdateStats}
    (laid : st.1.LaidOut order) {o : Outcome} (owned : o.Owned uri) :
    (applyOutcome st (uri, o)).1.LaidOut (o.reorder uri order) := by
  cases o with
  | replace slice => exact laid.insertFile owned
  | unchanged => exact laid
  | remove => exact laid.removeFile uri

theorem laidOut_applyOutcomes (outs : List (String × Outcome)) {order : List String}
    {st : Snapshot × UpdateStats} (laid : st.1.LaidOut order)
    (owned : ∀ out ∈ outs, out.2.Owned out.1) :
    (outs.foldl applyOutcome st).1.LaidOut
      (outs.foldl (fun order out => out.2.reorder out.1 order) order) := by
  induction outs generalizing st order with
  | nil => exact laid
  | cons out outs ih =>
    obtain ⟨first, rest⟩ := List.forall_mem_cons.1 owned
    exact ih (laidOut_applyOutcome laid first) rest

/-! ## The queue -/

theorem queue_enqueue (i : SymbolIndex) (uri v : String) (change : Change) :
    (i.enqueue uri change).queue[v]? = if v = uri then some change else i.queue[v]? := by
  rw [enqueue, lookup_insert]

/-- What waits in the queue after news is the news itself, or it concerns another file. -/
theorem queued_enqueue {change change' : Change}
    (hq : (i.enqueue uri change).queue[v]? = some change') :
    v = uri ∧ change' = change ∨ v ≠ uri ∧ i.queue[v]? = some change' := by
  rw [queue_enqueue] at hq
  by_cases hv : v = uri
  · rw [if_pos hv] at hq
    exact Or.inl ⟨hv, (Option.some.inj hq).symm⟩
  · rw [if_neg hv] at hq
    exact Or.inr ⟨hv, hq⟩

theorem distinct_queue (i : SymbolIndex) : (i.queue.toList.map (·.1)).Nodup := by
  rw [Std.TreeMap.map_fst_toList_eq_keys]
  exact Std.TreeMap.nodup_keys

/-! ## Deciding -/

/-- The language and text that a change asks to take up, as the cache and the disk stand. -/
def wanted (read : Reader) (c : FileCache) (uri : String) : Change → Option (String × String)
  | .remove => none
  | .text languageId text => some (languageId, text)
  | .reload => (c.view read uri).map fun (language, text) => (language.id, text)

theorem wanted_loads {c' : FileCache} (loads : FileCache.Loads read c c') (uri : String)
    (change : Change) : wanted read c' uri change = wanted read c uri change := by
  cases change <;> simp only [wanted, loads.view]

theorem changeSource_eq (valid : c.Valid) (read : Reader) (uri : String) (change : Change) :
    (changeSource read c uri change).1 = wanted read c uri change ∧
      FileCache.Loads read c (changeSource read c uri change).2 := by
  cases change with
  | remove => exact ⟨rfl, valid.loads_refl read⟩
  | text languageId text => exact ⟨rfl, valid.loads_refl read⟩
  | reload =>
    have got := valid.source read uri
    exact ⟨by rw [wanted, ← got.found]; rfl, got.loads⟩

variable [Trees] [Digest]

theorem outcome_owned (s : Snapshot) (uri : String) (source : Option (String × String)) :
    (outcome s uri source).Owned uri := by
  unfold outcome
  split
  · trivial
  · split
    · trivial
    · exact contributionOf_owned uri _ _

/-- A file for which there is a text is on record with this text, or with one of the same digest. -/
theorem settle_outcome (s : Snapshot) (uri languageId text : String) :
    (outcome s uri (some (languageId, text))).settle s.files[uri]? =
      if (s.files[uri]?).any (·.digest = Digest.ofText text) then s.files[uri]?
      else some (Slice.ofText uri languageId text) := by
  simp only [outcome]
  split <;> rfl

theorem outcomes_eq (valid : c.Valid) (changes : List (String × Change)) :
    (outcomes read s c changes).1 =
        changes.map (fun (uri, change) => (uri, outcome s uri (wanted read c uri change))) ∧
      FileCache.Loads read c (outcomes read s c changes).2 := by
  induction changes generalizing c with
  | nil => exact ⟨rfl, valid.loads_refl read⟩
  | cons first rest ih =>
    obtain ⟨uri, change⟩ := first
    obtain ⟨source, loads⟩ := changeSource_eq valid read uri change
    obtain ⟨others, more⟩ := ih loads.valid
    refine ⟨?_, loads.trans more⟩
    simp only [outcomes, List.map_cons, source, others, wanted_loads loads]

theorem kept_outcomes (valid : c.Valid) {changes : List (String × Change)}
    (mem : (uri, .reload) ∈ changes) {language : Language} {text : String}
    (seen : c.view read uri = some (language, text)) :
    (outcomes read s c changes).2.kept uri = some text := by
  induction changes generalizing c with
  | nil => cases mem
  | cons first rest ih =>
    obtain ⟨-, loads⟩ := changeSource_eq valid read first.1 first.2
    rcases List.mem_cons.1 mem with rfl | mem
    · have now : (changeSource read c uri .reload).2.kept uri = some text := by
        have got := (valid.source read uri).kept
        rw [seen] at got
        exact (congrFun got uri).trans (Function.update_self ..)
      exact (outcomes_eq loads.valid rest).2.kept_of_some loads.valid now
    · exact ih loads.valid mem ((loads.view uri).trans seen)

/-! ## Updates -/

theorem queue_update (read : Reader) (i : SymbolIndex) : (i.update read).2.queue = {} := rfl

theorem loads_update (valid : i.cache.Valid) (read : Reader) :
    FileCache.Loads read i.cache (i.update read).2.cache :=
  (outcomes_eq valid i.queue.toList).2

theorem kept_update (valid : i.cache.Valid) (queued : i.queue[uri]? = some .reload)
    {language : Language} {text : String}
    (seen : i.cache.view read uri = some (language, text)) :
    (i.update read).2.cache.kept uri = some text :=
  kept_outcomes valid (Std.TreeMap.mem_toList_iff_getElem?_eq_some.2 queued) seen

theorem snapshot_update (valid : i.cache.Valid) (read : Reader) :
    (i.update read).2.snapshot =
      ((i.queue.toList.map fun (uri, change) =>
          (uri, outcome i.snapshot uri (wanted read i.cache uri change))).foldl
        applyOutcome (i.snapshot, {})).1 := by
  rw [← (outcomes_eq valid i.queue.toList).1]
  rfl

theorem files_update_of_not_mem (valid : i.cache.Valid) (read : Reader)
    (idle : i.queue[uri]? = none) :
    (i.update read).2.snapshot.files[uri]? = i.snapshot.files[uri]? := by
  rw [snapshot_update valid]
  refine files_applyOutcomes_of_not_mem _ _ ?_
  simp [Std.TreeMap.mem_toList_iff_getElem?_eq_some, idle]

theorem files_update (valid : i.cache.Valid) (read : Reader) {change : Change}
    (queued : i.queue[uri]? = some change) :
    (i.update read).2.snapshot.files[uri]? =
      (outcome i.snapshot uri (wanted read i.cache uri change)).settle i.snapshot.files[uri]? := by
  rw [snapshot_update valid]
  refine files_applyOutcomes_of_mem _ _ ?_ ?_
  · simpa [Function.comp_def] using i.distinct_queue
  · exact List.mem_map.2
      ⟨(uri, change), Std.TreeMap.mem_toList_iff_getElem?_eq_some.2 queued, rfl⟩

/-- A record after an update was there before, or it is that of a text that was wanted. -/
theorem slice_of_update (valid : i.cache.Valid) {slice : Slice}
    (hs : (i.update read).2.snapshot.files[uri]? = some slice) :
    i.snapshot.files[uri]? = some slice ∨ ∃ change languageId text,
      i.queue[uri]? = some change ∧ wanted read i.cache uri change = some (languageId, text) ∧
        slice = Slice.ofText uri languageId text := by
  cases hq : i.queue[uri]? with
  | none =>
    rw [files_update_of_not_mem valid read hq] at hs
    exact Or.inl hs
  | some change =>
    rw [files_update valid read hq] at hs
    cases hw : wanted read i.cache uri change with
    | none => rw [hw] at hs; cases hs
    | some source =>
      obtain ⟨languageId, text⟩ := source
      rw [hw, settle_outcome] at hs
      split at hs
      · exact Or.inl hs
      · exact Or.inr ⟨change, languageId, text, rfl, hw, (Option.some.inj hs).symm⟩

theorem laidOut_update {order : List String} (laid : i.snapshot.LaidOut order)
    (valid : i.cache.Valid) (read : Reader) :
    ∃ order, (i.update read).2.snapshot.LaidOut order := by
  rw [snapshot_update valid]
  refine ⟨_, laidOut_applyOutcomes _ laid fun out hout => ?_⟩
  obtain ⟨⟨uri, change⟩, -, rfl⟩ := List.mem_map.1 hout
  exact outcome_owned _ _ _

end SymbolIndex

end CodeIndex
