import CodeIndex.Proofs.Index.History

/-!
# What an update leaves alone

An update touches the files in its queue, and of these only the ones that are taken up or taken out.

**Theorem (`run_update_frame`).** After any history, an update empties the queue. A file of which
there is no news, or whose text is unchanged, keeps its record. In the list of each name the entries
of such files stand as before, in front of those of the files that were taken up. The update counts
each file in the queue once, as taken up, unchanged or taken out, except for the files that were to
be taken out and were not there. The number of files grows by those that are new and falls by those
that were taken out.

**The order of the files.** A snapshot is laid out in an ordering of its files, and each outcome
moves its own file alone: it goes to the end or is dropped (`Outcome.reorder`). So outcomes for
different files leave the others in their order and put the files that are taken up behind them
(`foldl_reorder`).

**The counts.** An outcome is counted by what the snapshot holds of its file at that moment. This is
what the snapshot held before the update, since the outcomes are for different files
(`tallied_applyOutcomes`).
-/

namespace CodeIndex

variable {read : Reader} {uri v name : String}

/-- The file is taken up. -/
def Outcome.takesUp : Outcome → Bool
  | replace _ => true
  | unchanged | remove => false

/-! ## Lists of entries -/

/-- When some files keep their places and others come behind them, the entries of the former stand
as before, in front of the others. -/
theorem EntryTable.Lists.entries_eq_append {t t' : EntryTable} {order taken : List String}
    {part part' : String → List Entry} {p : String → Bool} (h : t.Lists order part)
    (h' : t'.Lists (order.filter p ++ taken) part')
    (owned : ∀ u, ∀ e ∈ part u, e.location.uri = u)
    (owned' : ∀ u, ∀ e ∈ part' u, e.location.uri = u) (same : ∀ u, p u → part' u = part u)
    (others : ∀ u ∈ taken, ¬ p u) (name : String) :
    t'.entries name = (t.entries name).filter (fun e => p e.location.uri) ++
      (t'.entries name).filter (fun e => !p e.location.uri) := by
  have kept : (t.entries name).filter (fun e => p e.location.uri) =
      (order.filter p).flatMap fun u => (part' u).filter (·.name = name) := by
    rw [h.entries, filter_flatMap (owned_named owned name)]
    apply List.flatMap_congr
    intro u hu
    rw [same u (List.mem_filter.1 hu).2]
  have behind : (t'.entries name).filter (fun e => !p e.location.uri) =
      taken.flatMap fun u => (part' u).filter (·.name = name) := by
    have rest : (order.filter p ++ taken).filter (fun u => !p u) = taken := by
      have all : taken.filter (fun u => !p u) = taken :=
        List.filter_eq_self.2 fun u hu => by simpa using others u hu
      rw [List.filter_append, List.filter_filter, all]
      simp
    rw [h'.entries, filter_flatMap (owned_named owned' name) fun u => !p u, rest]
  rw [kept, behind, h'.entries, List.flatMap_append]

/-! ## Numbers of files -/

namespace Snapshot

theorem containsFile_eq (s : Snapshot) (uri : String) :
    s.containsFile uri = (s.files[uri]?).isSome :=
  Std.TreeMap.contains_eq_isSome_getElem?

theorem fileCount_removeFile (s : Snapshot) (uri : String) :
    (s.removeFile uri).fileCount + (if s.containsFile uri then 1 else 0) = s.fileCount := by
  have known := s.containsFile_eq uri
  unfold removeFile
  cases h : s.files[uri]? with
  | none => simp [known, h]
  | some old =>
    have member : s.files.contains uri = true := by
      rw [← containsFile, known, h, Option.isSome_some]
    have positive : 0 < s.files.size := by
      rw [← Std.TreeMap.length_keys]
      exact List.length_pos_of_mem (Std.TreeMap.mem_keys.2 member)
    rw [if_pos (show s.containsFile uri = true from member)]
    show (s.files.erase uri).size + 1 = s.files.size
    rw [Std.TreeMap.size_erase, if_pos member]
    omega

theorem fileCount_insertFile (s : Snapshot) (uri : String) (slice : Slice) :
    (s.insertFile uri slice).fileCount =
      s.fileCount + if s.containsFile uri then 0 else 1 := by
  have gone : ¬ (s.removeFile uri).files.contains uri := by
    rw [← containsFile, containsFile_eq, files_removeFile, if_pos rfl]
    simp
  have removed := s.fileCount_removeFile uri
  show ((s.removeFile uri).files.insert uri slice).size = _
  rw [Std.TreeMap.size_insert, if_neg gone]
  unfold fileCount at *
  split at removed <;> simp_all

end Snapshot

namespace SymbolIndex

/-! ## Outcomes put into effect -/

/-- Outcomes leave a file alone if all that there are for it leave it unchanged. -/
def leaves (outs : List (String × Outcome)) (uri : String) : Bool :=
  outs.all fun out => out.1 ≠ uri || out.2 = .unchanged

/-- The files that outcomes take up. -/
def takenUp (outs : List (String × Outcome)) : List String :=
  (outs.filter (·.2.takesUp)).map (·.1)

theorem leaves_iff {outs : List (String × Outcome)} :
    leaves outs uri = true ↔ ∀ o, (uri, o) ∈ outs → o = .unchanged := by
  unfold leaves
  rw [List.all_eq_true]
  constructor
  · intro all o hout
    simpa using all (uri, o) hout
  · rintro all ⟨v, o⟩ hout
    by_cases hv : v = uri
    · subst hv
      simp [all o hout]
    · simp [hv]

theorem leaves_of_not_mem {outs : List (String × Outcome)} (absent : v ∉ outs.map (·.1)) :
    leaves outs v = true := by
  rw [leaves_iff]
  intro o hout
  exact absurd (List.mem_map_of_mem hout) absent

theorem not_leaves_of_mem_takenUp {outs : List (String × Outcome)} (taken : v ∈ takenUp outs) :
    ¬ leaves outs v := by
  obtain ⟨⟨v, o⟩, hout, rfl⟩ := List.mem_map.1 taken
  obtain ⟨mem, takes⟩ := List.mem_filter.1 hout
  rw [leaves_iff]
  intro all
  obtain rfl := all o mem
  cases takes

/-- **Outcomes for different files leave the other files in their order,** and the files that they
take up come behind. -/
theorem foldl_reorder (outs : List (String × Outcome)) (distinct : (outs.map (·.1)).Nodup)
    (order : List String) :
    outs.foldl (fun order out => out.2.reorder out.1 order) order =
      order.filter (leaves outs) ++ takenUp outs := by
  induction outs generalizing order with
  | nil =>
    have all : order.filter (leaves []) = order := List.filter_eq_self.2 fun _ _ => rfl
    rw [all]
    exact (List.append_nil order).symm
  | cons out outs ih =>
    obtain ⟨fresh, rest⟩ := List.nodup_cons.1 distinct
    obtain ⟨u, o⟩ := out
    have stays : leaves outs u = true := leaves_of_not_mem fresh
    have first : order.filter (leaves ((u, o) :: outs)) =
        (order.filter fun v => v ≠ u || o = .unchanged).filter (leaves outs) := by
      rw [List.filter_filter]
      apply List.filter_congr
      intro v _
      rw [leaves, List.all_cons, ← leaves, Bool.and_comm]
      simp only [ne_comm]
    rw [List.foldl_cons, ih rest, first]
    cases o with
    | replace slice => simp [Outcome.reorder, takenUp, Outcome.takesUp, stays]
    | unchanged => simp [Outcome.reorder, takenUp, Outcome.takesUp]
    | remove => simp [Outcome.reorder, takenUp, Outcome.takesUp]

/-- What outcomes count for: how many take up a file, leave one unchanged and take out one that is
there; and the number of files grows by those that are new and falls by those that are taken out. -/
structure Tallied (outs : List (String × Outcome)) (st st' : Snapshot × UpdateStats) : Prop where
  indexed : st'.2.indexed = st.2.indexed + outs.countP (·.2.takesUp)
  unchanged : st'.2.unchanged = st.2.unchanged + outs.countP (·.2 = .unchanged)
  removed : st'.2.removed = st.2.removed +
    outs.countP fun out => out.2 = .remove && st.1.containsFile out.1
  files : st'.1.fileCount + st'.2.removed = st.1.fileCount + st.2.removed +
    outs.countP fun out => out.2.takesUp && !st.1.containsFile out.1

theorem containsFile_applyOutcome (st : Snapshot × UpdateStats) (o : Outcome) (other : v ≠ uri) :
    (applyOutcome st (uri, o)).1.containsFile v = st.1.containsFile v := by
  rw [Snapshot.containsFile_eq, files_applyOutcome, if_neg other, ← Snapshot.containsFile_eq]

theorem tallied_applyOutcome (st : Snapshot × UpdateStats) (uri : String) (o : Outcome) :
    Tallied [(uri, o)] st (applyOutcome st (uri, o)) := by
  cases o with
  | replace slice =>
    have files := st.1.fileCount_insertFile uri slice
    by_cases known : st.1.containsFile uri
    · rw [if_pos known] at files
      constructor <;> simp [applyOutcome, Outcome.takesUp, known, files]
    · rw [if_neg known] at files
      constructor <;> simp [applyOutcome, Outcome.takesUp, known, files]
      omega
  | unchanged => constructor <;> simp [applyOutcome, Outcome.takesUp]
  | remove =>
    have files := st.1.fileCount_removeFile uri
    by_cases known : st.1.containsFile uri
    · rw [if_pos known] at files
      constructor <;> simp [applyOutcome, Outcome.takesUp, known]
      omega
    · rw [if_neg known] at files
      constructor <;> simp [applyOutcome, Outcome.takesUp, known]
      omega

/-- Outcomes for different files count by what the snapshot holds at first. -/
theorem tallied_applyOutcomes (outs : List (String × Outcome))
    (distinct : (outs.map (·.1)).Nodup) (st : Snapshot × UpdateStats) :
    Tallied outs st (outs.foldl applyOutcome st) := by
  induction outs generalizing st with
  | nil => constructor <;> simp
  | cons out outs ih =>
    obtain ⟨fresh, rest⟩ := List.nodup_cons.1 distinct
    have same : ∀ x ∈ outs,
        (applyOutcome st out).1.containsFile x.1 = st.1.containsFile x.1 := by
      intro x hx
      apply containsFile_applyOutcome
      intro h
      exact fresh (List.mem_map.2 ⟨x, hx, h⟩)
    have removed :
        outs.countP (fun x => x.2 = .remove && (applyOutcome st out).1.containsFile x.1) =
        outs.countP fun x => x.2 = .remove && st.1.containsFile x.1 :=
      List.countP_congr fun x hx => by rw [same x hx]
    have added : outs.countP (fun x => x.2.takesUp && !(applyOutcome st out).1.containsFile x.1) =
        outs.countP fun x => x.2.takesUp && !st.1.containsFile x.1 :=
      List.countP_congr fun x hx => by rw [same x hx]
    have first : Tallied [out] st (applyOutcome st out) := tallied_applyOutcome st out.1 out.2
    have others := ih rest (applyOutcome st out)
    rw [List.foldl_cons]
    constructor
    · rw [others.indexed, first.indexed, List.countP_singleton, List.countP_cons]
      omega
    · rw [others.unchanged, first.unchanged, List.countP_singleton, List.countP_cons]
      omega
    · rw [others.removed, first.removed, removed, List.countP_singleton, List.countP_cons]
      omega
    · rw [others.files, first.files, added, List.countP_singleton, List.countP_cons]
      omega

/-- Each outcome takes up a file, leaves it unchanged, takes out one that is known or one that is
not. -/
theorem length_eq_countP (known : String → Bool) (outs : List (String × Outcome)) :
    outs.length = outs.countP (·.2.takesUp) + outs.countP (·.2 = .unchanged) +
      outs.countP (fun out => out.2 = .remove && known out.1) +
      outs.countP fun out => out.2 = .remove && !known out.1 := by
  induction outs with
  | nil => rfl
  | cons out outs ih =>
    obtain ⟨uri, o⟩ := out
    simp only [List.length_cons, List.countP_cons, ih]
    cases o with
    | replace slice => simp [Outcome.takesUp]; omega
    | unchanged => simp [Outcome.takesUp]; omega
    | remove => cases known uri <;> simp [Outcome.takesUp] <;> omega

/-! ## Updates -/

variable [Trees] [Digest] {i : SymbolIndex}

/-- What an update makes of a file of which there is news. -/
def fate (read : Reader) (i : SymbolIndex) (uri : String) : Option Outcome :=
  (i.queue[uri]?).map fun change => outcome i.snapshot uri (changeSource read i.cache uri change).1

/-- There is no news of the file, or its text is unchanged. -/
def untouched (read : Reader) (i : SymbolIndex) (uri : String) : Bool :=
  (i.fate read uri).all (· = .unchanged)

theorem untouched_iff :
    untouched read i uri = true ↔
      i.queue[uri]? = none ∨ i.fate read uri = some .unchanged := by
  unfold untouched fate
  cases i.queue[uri]? <;> simp

/-- The number of files in the queue with a fate of some kind. -/
def countFates (read : Reader) (i : SymbolIndex) (p : String → Outcome → Bool) : Nat :=
  i.queue.keys.countP fun uri => (i.fate read uri).any (p uri)

/-- The outcomes that an update puts into effect. -/
def decided (read : Reader) (i : SymbolIndex) : List (String × Outcome) :=
  (outcomes read i.snapshot i.cache i.queue.toList).1

theorem update_eq_foldl (read : Reader) (i : SymbolIndex) :
    ((i.update read).2.snapshot, (i.update read).1) =
      (decided read i).foldl applyOutcome (i.snapshot, {}) := rfl

theorem decided_of_idle {read : Reader} (idle : i.hasPending = false) : decided read i = [] := by
  have empty : i.queue.isEmpty = true := by simpa [hasPending] using idle
  have nothing : i.queue.toList = [] := by
    rw [← List.length_eq_zero_iff, Std.TreeMap.length_toList]
    simpa [Std.TreeMap.isEmpty_eq_size_eq_zero] using empty
  rw [decided, nothing]
  rfl

theorem decided_eq (valid : i.cache.Valid) (read : Reader) :
    decided read i = i.queue.toList.map fun (uri, change) =>
      (uri, outcome i.snapshot uri (changeSource read i.cache uri change).1) := by
  rw [decided, (outcomes_eq valid _).1]
  apply List.map_congr_left
  rintro ⟨uri, change⟩ -
  simp only [(changeSource_eq valid read uri change).1]

theorem map_fst_decided (valid : i.cache.Valid) (read : Reader) :
    (decided read i).map (·.1) = i.queue.keys := by
  rw [decided_eq valid, List.map_map, ← Std.TreeMap.map_fst_toList_eq_keys]
  rfl

theorem nodup_decided (valid : i.cache.Valid) (read : Reader) :
    ((decided read i).map (·.1)).Nodup := by
  rw [map_fst_decided valid]
  exact Std.TreeMap.nodup_keys

theorem mem_decided (valid : i.cache.Valid) {o : Outcome} :
    (uri, o) ∈ decided read i ↔ i.fate read uri = some o := by
  rw [decided_eq valid, List.mem_map, fate, Option.map_eq_some_iff]
  constructor
  · rintro ⟨⟨v, change⟩, queued, ⟨⟩⟩
    exact ⟨change, Std.TreeMap.mem_toList_iff_getElem?_eq_some.1 queued, rfl⟩
  · rintro ⟨change, queued, rfl⟩
    exact ⟨(uri, change), Std.TreeMap.mem_toList_iff_getElem?_eq_some.2 queued, rfl⟩

theorem owned_decided (valid : i.cache.Valid) (read : Reader) :
    ∀ out ∈ decided read i, out.2.Owned out.1 := by
  rintro ⟨uri, o⟩ hout
  obtain ⟨change, -, rfl⟩ := Option.map_eq_some_iff.1 ((mem_decided valid).1 hout)
  exact outcome_owned _ _ _

theorem leaves_decided (valid : i.cache.Valid) (read : Reader) :
    leaves (decided read i) = untouched read i := by
  funext uri
  rw [Bool.eq_iff_iff, leaves_iff, untouched]
  simp only [mem_decided valid]
  cases i.fate read uri <;> simp

theorem countP_decided (valid : i.cache.Valid) (read : Reader) (p : String → Outcome → Bool) :
    (decided read i).countP (fun out => p out.1 out.2) = countFates read i p := by
  rw [countFates, ← map_fst_decided valid read, List.countP_map]
  apply List.countP_congr
  rintro ⟨uri, o⟩ hout
  simp [(mem_decided valid).1 hout]

theorem files_update_of_untouched (valid : i.cache.Valid) (alone : untouched read i uri = true) :
    (i.update read).2.snapshot.files[uri]? = i.snapshot.files[uri]? := by
  rcases untouched_iff.1 alone with idle | unchanged
  · exact files_update_of_not_mem valid read idle
  · obtain ⟨change, queued, same⟩ := Option.map_eq_some_iff.1 unchanged
    rw [(changeSource_eq valid read uri change).1] at same
    rw [files_update valid read queued, same]
    rfl

/-- The files that an update leaves alone keep their order, and those that it takes up come
behind. -/
theorem Sound.laidOut_update_frame {T : Set String} (sound : i.Sound T) (read : Reader)
    {order : List String} (laid : i.snapshot.LaidOut order) :
    (i.update read).2.snapshot.LaidOut
      (order.filter (untouched read i) ++ takenUp (decided read i)) := by
  rw [← leaves_decided sound.valid, ← foldl_reorder _ (nodup_decided sound.valid read)]
  exact laidOut_applyOutcomes _ laid (owned_decided sound.valid read)

theorem Sound.tallied_update {T : Set String} (sound : i.Sound T) (read : Reader) :
    Tallied (decided read i) (i.snapshot, {}) ((i.update read).2.snapshot, (i.update read).1) := by
  rw [update_eq_foldl]
  exact tallied_applyOutcomes _ (nodup_decided sound.valid read) _

/-- The entries of the files that an update leaves alone stand as before, in front of the others. -/
theorem Sound.entries_update {T : Set String} (sound : i.Sound T) (read : Reader) (name : String) :
    (i.update read).2.snapshot.definitionsOf name =
        (i.snapshot.definitionsOf name).filter (fun e => untouched read i e.location.uri) ++
          ((i.update read).2.snapshot.definitionsOf name).filter
            (fun e => !untouched read i e.location.uri) ∧
      (i.update read).2.snapshot.usagesOf name =
        (i.snapshot.usagesOf name).filter (fun e => untouched read i e.location.uri) ++
          ((i.update read).2.snapshot.usagesOf name).filter
            (fun e => !untouched read i e.location.uri) := by
  obtain ⟨order, laid⟩ := sound.laid
  have after := sound.laidOut_update_frame read laid
  have taken : ∀ u ∈ takenUp (decided read i), ¬ untouched read i u := by
    intro u hu
    rw [← leaves_decided sound.valid]
    exact not_leaves_of_mem_takenUp hu
  have same : ∀ u, untouched read i u = true →
      (i.update read).2.snapshot.contribution u = i.snapshot.contribution u := by
    intro u alone
    rw [Snapshot.contribution, files_update_of_untouched sound.valid alone, Snapshot.contribution]
  constructor
  · exact laid.definitions.entries_eq_append after.definitions
      (fun u => (laid.owned u).definitions) (fun u => (after.owned u).definitions)
      (fun u alone => by rw [same u alone]) taken name
  · exact laid.usages.entries_eq_append after.usages
      (fun u => (laid.owned u).usages) (fun u => (after.owned u).usages)
      (fun u alone => by rw [same u alone]) taken name

/-- **What an update does after any history.** It empties the queue. A file of which there is no
news, or whose text is unchanged, keeps its record, and its entries stand as before in the list of
each name, in front of those of other files. Each file in the queue counts once: as taken up, as
unchanged, as taken out, or not at all if it was to be taken out and is not there. The number of
files grows by those that are taken up and are new, and falls by those that are taken out. Without
news nothing changes. -/
theorem run_update_frame (events : List Event) (read : Reader) :
    let i := run events
    let stats := (i.update read).1
    let after := (i.update read).2
    after.queue = {} ∧
    (∀ uri, untouched read i uri = true →
      after.snapshot.files[uri]? = i.snapshot.files[uri]?) ∧
    (∀ name,
      after.snapshot.definitionsOf name =
        (i.snapshot.definitionsOf name).filter (fun e => untouched read i e.location.uri) ++
          (after.snapshot.definitionsOf name).filter
            (fun e => !untouched read i e.location.uri) ∧
      after.snapshot.usagesOf name =
        (i.snapshot.usagesOf name).filter (fun e => untouched read i e.location.uri) ++
          (after.snapshot.usagesOf name).filter (fun e => !untouched read i e.location.uri)) ∧
    stats.indexed = countFates read i (fun _ o => o.takesUp) ∧
    stats.unchanged = countFates read i (fun _ o => o = .unchanged) ∧
    stats.removed = countFates read i (fun uri o => o = .remove && i.snapshot.containsFile uri) ∧
    after.snapshot.fileCount + stats.removed = i.snapshot.fileCount +
      countFates read i (fun uri o => o.takesUp && !i.snapshot.containsFile uri) ∧
    stats.indexed + stats.unchanged + stats.removed +
        countFates read i (fun uri o => o = .remove && !i.snapshot.containsFile uri) =
      i.queue.size ∧
    (i.hasPending = false → after.snapshot = i.snapshot ∧ stats = {}) := by
  intro i stats after
  have sound : i.Sound Set.univ := sound_univ_run events
  have tallied := sound.tallied_update read
  have indexed : stats.indexed = countFates read i fun _ o => o.takesUp := by
    rw [← countP_decided sound.valid, tallied.indexed]
    exact Nat.zero_add _
  have unchanged : stats.unchanged = countFates read i fun _ o => o = .unchanged := by
    rw [← countP_decided sound.valid, tallied.unchanged]
    exact Nat.zero_add _
  have removed : stats.removed =
      countFates read i fun uri o => o = .remove && i.snapshot.containsFile uri := by
    rw [← countP_decided sound.valid, tallied.removed]
    exact Nat.zero_add _
  refine ⟨queue_update read i, fun uri => files_update_of_untouched sound.valid,
    sound.entries_update read, indexed, unchanged, removed, ?_, ?_, ?_⟩
  · rw [← countP_decided sound.valid]
    exact tallied.files
  · have size : i.queue.size = (decided read i).length := by
      rw [← Std.TreeMap.length_keys, ← map_fst_decided sound.valid read, List.length_map]
    rw [indexed, unchanged, removed, size, length_eq_countP i.snapshot.containsFile]
    simp only [← countP_decided sound.valid]
  · intro idle
    have nothing := update_eq_foldl read i
    rw [decided_of_idle idle] at nothing
    exact Prod.mk.inj nothing

end SymbolIndex

end CodeIndex
