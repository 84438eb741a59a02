import CodeIndex.Index.Resolve
import CodeIndex.Proofs.Index.History
import CodeIndex.Proofs.Symbol.References

/-!
# No location is reported twice

A table keeps its entries by name. Taken all together they are still told apart by their locations,
as far as this holds in each file: entries of different files bear different addresses, and entries
of one file at one location are one, so they have one name and stand in the list of this name alone
(`Lists.nodup_all`).

**Theorem (`run_locations_apart`).** After every history no location occurs twice among the usages
of all names, and none is both that of a usage and that of a definition. So a search for references
gives no location twice, and one that includes declarations gives no usage's location as a
declaration.

Each file on record contributes what some text contributes, so the history comes in by
`SymbolIndex.Sound` alone.
-/

namespace CodeIndex

/-! ## All entries of a table -/

namespace EntryTable

variable {t : EntryTable} {order : List String} {part : String → List Entry} {e : Entry}

/-- The entries of all names. -/
def all (t : EntryTable) : List Entry := t.toList.flatMap fun group => group.2.toList

theorem toList_of_mem {group : String × Array Entry} (h : group ∈ t.toList) :
    group.2.toList = t.entries group.1 := by
  rw [entries, Std.TreeMap.mem_toList_iff_getElem?_eq_some.1 h, Option.getD_some]

theorem entries_sublist_all (t : EntryTable) (name : String) : (t.entries name).Sublist t.all := by
  cases found : t[name]? with
  | none => simp [entries, found]
  | some es =>
    have listed := Std.TreeMap.mem_toList_iff_getElem?_eq_some.2 found
    rw [← toList_of_mem listed, all, List.flatMap_def]
    exact List.sublist_flatten_of_mem (List.mem_map_of_mem listed)

theorem mem_all : e ∈ t.all ↔ ∃ name, e ∈ t.entries name := by
  refine ⟨fun he => ?_, fun ⟨name, he⟩ => (t.entries_sublist_all name).subset he⟩
  obtain ⟨group, listed, he⟩ := List.mem_flatMap.1 he
  exact ⟨group.1, toList_of_mem listed ▸ he⟩

theorem Lists.mem_entries (h : t.Lists order part) {name : String} :
    e ∈ t.entries name ↔ e.name = name ∧ ∃ uri ∈ order, e ∈ part uri := by
  simp only [h.entries, List.mem_flatMap, List.mem_filter, decide_eq_true_eq]
  exact ⟨fun ⟨uri, hu, he, hn⟩ => ⟨hn, uri, hu, he⟩, fun ⟨hn, uri, hu, he⟩ => ⟨uri, hu, he, hn⟩⟩

theorem Lists.mem_all (h : t.Lists order part) : e ∈ t.all ↔ ∃ uri ∈ order, e ∈ part uri := by
  simp only [EntryTable.mem_all, h.mem_entries, exists_eq_left']

theorem Lists.eq_of_location (h : t.Lists order part)
    (owned : ∀ u, ∀ e ∈ part u, e.location.uri = u)
    (distinct : ∀ u, ((part u).map (·.location)).Nodup) {e' : Entry} (he : e ∈ t.all)
    (he' : e' ∈ t.all) (same : e.location = e'.location) : e = e' := by
  obtain ⟨u, -, hu⟩ := h.mem_all.1 he
  obtain ⟨u', -, hu'⟩ := h.mem_all.1 he'
  have one : u' = u := by rw [← owned u e hu, same, owned u' e' hu']
  exact List.inj_on_of_nodup_map (distinct u) hu (one ▸ hu') same

theorem Lists.nodup_entries (h : t.Lists order part) (nodup : order.Nodup)
    (owned : ∀ u, ∀ e ∈ part u, e.location.uri = u)
    (distinct : ∀ u, ((part u).map (·.location)).Nodup) (name : String) :
    ((t.entries name).map (·.location)).Nodup := by
  rw [h.entries, List.map_flatMap, List.nodup_flatMap]
  refine ⟨fun u _ => (distinct u).sublist (List.filter_sublist.map _), nodup.imp ?_⟩
  intro u u' apart l hl hl'
  obtain ⟨e, he, rfl⟩ := List.mem_map.1 hl
  obtain ⟨e', he', same⟩ := List.mem_map.1 hl'
  refine apart ?_
  rw [← owned_named owned name u e he, ← owned_named owned name u' e' he', same]

/-- **All entries have different locations, if those of each file have.** -/
theorem Lists.nodup_all (h : t.Lists order part) (nodup : order.Nodup)
    (owned : ∀ u, ∀ e ∈ part u, e.location.uri = u)
    (distinct : ∀ u, ((part u).map (·.location)).Nodup) : (t.all.map (·.location)).Nodup := by
  rw [all, List.map_flatMap, List.nodup_flatMap]
  constructor
  · intro group listed
    rw [toList_of_mem listed]
    exact h.nodup_entries nodup owned distinct group.1
  · refine List.Pairwise.imp_of_mem ?_ t.distinct_keys_toList
    intro group group' listed listed' apart l hl hl'
    obtain ⟨e, he, rfl⟩ := List.mem_map.1 hl
    obtain ⟨e', he', same⟩ := List.mem_map.1 hl'
    rw [toList_of_mem listed] at he
    rw [toList_of_mem listed'] at he'
    -- an entry that two groups share would have both their names
    obtain rfl := h.eq_of_location owned distinct (EntryTable.mem_all.2 ⟨_, he⟩)
      (EntryTable.mem_all.2 ⟨_, he'⟩) same.symm
    refine apart (Std.LawfulEqCmp.compare_eq_iff_eq.2 ?_)
    rw [← (h.mem_entries.1 he).1, ← (h.mem_entries.1 he').1]

end EntryTable

/-! ## Snapshots and histories -/

/-- No location occurs twice among the usages of all names, and none is both that of a usage and
that of a definition. -/
structure Snapshot.LocationsApart (s : Snapshot) : Prop where
  distinct : (s.usages.all.map (·.location)).Nodup
  undeclared : ∀ u ∈ s.usages.all, ∀ d ∈ s.definitions.all, u.location ≠ d.location

theorem Snapshot.LaidOut.locationsApart {s : Snapshot} {order : List String} (h : s.LaidOut order)
    (apart : ∀ uri, (s.contribution uri).Apart) : s.LocationsApart := by
  refine ⟨h.usages.nodup_all h.nodup (fun u => (h.owned u).usages) fun u => (apart u).distinct, ?_⟩
  intro u hu d hd same
  obtain ⟨v, -, hv⟩ := h.usages.mem_all.1 hu
  obtain ⟨w, -, hw⟩ := h.definitions.mem_all.1 hd
  have one : w = v := by rw [← (h.owned v).usages u hv, same, (h.owned w).definitions d hw]
  exact (apart v).undeclared u hv d (one ▸ hw) same

/-- References to a name stand apart when all entries do. -/
theorem Snapshot.LocationsApart.references {s : Snapshot} (h : s.LocationsApart) (name uri : String)
    (p : Position) :
    ReferencesApart (s.usagesOf name) (s.definitionsOf name)
      (selectReferences (s.usagesOf name) (s.definitionsOf name) uri p false)
      (selectReferences (s.usagesOf name) (s.definitionsOf name) uri p true) := by
  have usages := s.usages.entries_sublist_all name
  have definitions := s.definitions.entries_sublist_all name
  exact referencesApart_select (h.distinct.sublist (usages.map _))
    (fun u hu d hd => h.undeclared u (usages.subset hu) d (definitions.subset hd)) uri p

namespace SymbolIndex

variable [Trees] [Digest] {i : SymbolIndex} {T : Set String}

theorem Sound.apart (sound : i.Sound T) (uri : String) : (i.snapshot.contribution uri).Apart := by
  unfold Snapshot.contribution
  cases stored : i.snapshot.files[uri]? with
  | none => exact Contribution.apart_empty
  | some slice =>
    obtain ⟨languageId, text, -, rfl⟩ := sound.stored uri slice stored
    exact apart_contributionOf uri languageId text

theorem Sound.locationsApart (sound : i.Sound T) : i.snapshot.LocationsApart := by
  obtain ⟨order, laid⟩ := sound.laid
  exact laid.locationsApart sound.apart

theorem run_update (events : List Event) (read : Reader) :
    ((run events).update read).2 = run (events ++ [.update read]) := by
  rw [run, run, List.foldl_append]
  rfl

/-- **After every history no location is reported twice.** Over all names no location occurs twice
among the usages, and none is both that of a usage and that of a definition. So the references to a
name, chosen at any position, and the references that an index gives for any position of any
document have no location twice as long as they leave out declarations; with declarations they are
the same and definitions' locations, none of which is that of a usage given. -/
theorem run_locations_apart (events : List Event) :
    (run events).snapshot.LocationsApart ∧
    (∀ name uri p,
      let usages := (run events).snapshot.usagesOf name
      let definitions := (run events).snapshot.definitionsOf name
      ReferencesApart usages definitions (selectReferences usages definitions uri p false)
        (selectReferences usages definitions uri p true)) ∧
    ∀ read d uri p,
      let updated := ((run events).update read).2.snapshot
      ReferencesApart updated.usages.all updated.definitions.all
        ((run events).references read d uri p false).1
        ((run events).references read d uri p true).1 := by
  have apart : ∀ events, (run events).snapshot.LocationsApart :=
    fun events => (sound_univ_run events).locationsApart
  refine ⟨apart events, fun name uri p => (apart events).references name uri p, ?_⟩
  intro read d uri p updated
  have now : updated.LocationsApart := by
    rw [show updated = (run (events ++ [.update read])).snapshot by rw [← run_update]]
    exact apart _
  unfold references
  cases d.identifierAt p with
  | none => exact referencesApart_nil
  | some word =>
    exact (now.references word.1 uri p).mono (updated.usages.entries_sublist_all word.1).subset
      (updated.definitions.entries_sublist_all word.1).subset

end SymbolIndex

end CodeIndex
