import CodeIndex.Language.Document
import CodeIndex.Proofs.Index.Table

/-!
# How a snapshot is laid out

A snapshot keeps three maps: what each file contributes, and the definitions and the usages by name.
They agree in one ordering of the files: the entries of every name, definitions and usages alike,
are those of the files one after the other in that ordering.

**The invariant** (`LaidOut`). The ordering lists each file once; both tables list the files'
entries in it (`EntryTable.Lists`) and are tight; each file's entries bear its address.

**Taking out a file** drops its entries wherever one of its names stands. All its entries stand
there, because the file owns just the entries that bear its address; so the ordering loses the file
and nothing else moves. **Taking up a file** takes it out first and puts it last.

Main results: `LaidOut.insertFile`, `LaidOut.removeFile`, and what the invariant gives:
`LaidOut.stores_iff` (a file's entries can be read off the lists of names) and
`mem_definitionNames`.
-/

namespace CodeIndex

/-! ## Contributions -/

/-- All entries are those of the file at `uri`, and its definitions tell their kinds. -/
structure Contribution.Owned (c : Contribution) (uri : String) : Prop where
  definitions : ∀ e ∈ c.definitions, e.location.uri = uri
  usages : ∀ e ∈ c.usages, e.location.uri = uri
  kinds : ∀ e ∈ c.definitions, e.kind.isSome

theorem addUsage_owned {uri : String} {es : List Entry} (h : ∀ e ∈ es, e.location.uri = uri)
    (c : Syntax.Capture) : ∀ e ∈ addUsage uri es c, e.location.uri = uri := by
  unfold addUsage
  split
  · intro e he
    obtain ⟨u, hu, rfl⟩ := List.mem_map.1 he
    split <;> exact h u hu
  · intro e he
    rcases List.mem_append.1 he with he | he
    · exact h e he
    · rw [List.mem_singleton.1 he]

theorem usagesOf_owned (uri : String) (declared : List Span) (cs : List Syntax.Capture) :
    ∀ e ∈ usagesOf uri declared cs, e.location.uri = uri := by
  unfold usagesOf
  generalize cs.filter (fun c => !declared.contains c.span) = kept
  suffices ∀ es : List Entry, (∀ e ∈ es, e.location.uri = uri) →
      ∀ e ∈ kept.foldl (addUsage uri) es, e.location.uri = uri from this [] (by simp)
  induction kept with
  | nil => exact fun es h => h
  | cons c kept ih => exact fun es h => ih _ (addUsage_owned h c)

theorem contributionOf_owned [Trees] (uri languageId text : String) :
    (contributionOf uri languageId text).Owned uri := by
  unfold contributionOf
  split
  · refine ⟨fun e he => ?_, usagesOf_owned _ _ _, fun e he => ?_⟩ <;>
      obtain ⟨s, -, rfl⟩ := List.mem_map.1 he <;> rfl
  · exact ⟨by simp, by simp, by simp⟩

/-! ## Tables that list files in an order -/

namespace EntryTable

/-- The entries of each name are those of the files, one after the other. -/
structure Lists (t : EntryTable) (order : List String) (part : String → List Entry) : Prop where
  entries : ∀ name, t.entries name = order.flatMap fun uri => (part uri).filter (·.name = name)
  tight : t.Tight

variable {t : EntryTable} {order : List String} {part : String → List Entry} {uri : String}

theorem Lists.congr (h : t.Lists order part) {part' : String → List Entry}
    (same : ∀ uri ∈ order, part' uri = part uri) : t.Lists order part' := by
  refine ⟨fun name => ?_, h.tight⟩
  rw [h.entries]
  exact List.flatMap_congr fun uri hu => by rw [same uri hu]

theorem filter_flatMap (owned : ∀ u, ∀ e ∈ part u, e.location.uri = u) (p : String → Bool)
    (order : List String) :
    (order.flatMap part).filter (fun e => p e.location.uri) = (order.filter p).flatMap part := by
  induction order with
  | nil => rfl
  | cons u order ih =>
    rw [List.flatMap_cons, List.filter_append, ih]
    by_cases hu : p u
    · have : (part u).filter (fun e => p e.location.uri) = part u :=
        List.filter_eq_self.2 fun e he => by rw [owned u e he, hu]
      rw [this, List.filter_cons_of_pos hu, List.flatMap_cons]
    · have : (part u).filter (fun e => p e.location.uri) = [] :=
        List.filter_eq_nil_iff.2 fun e he => by rwa [owned u e he]
      rw [this, List.nil_append, List.filter_cons_of_neg hu]

theorem filter_flatMap_eq (owned : ∀ u, ∀ e ∈ part u, e.location.uri = u) (nodup : order.Nodup) :
    (order.flatMap part).filter (·.location.uri = uri) = if uri ∈ order then part uri else [] := by
  rw [filter_flatMap owned fun u => u = uri, List.filter_eq, nodup.count]
  split <;> simp

theorem owned_named (owned : ∀ u, ∀ e ∈ part u, e.location.uri = u) (name : String) :
    ∀ u, ∀ e ∈ (part u).filter (·.name = name), e.location.uri = u :=
  fun u e he => owned u e (List.mem_of_mem_filter he)

theorem Lists.filter_entries (h : t.Lists order part)
    (owned : ∀ u, ∀ e ∈ part u, e.location.uri = u) (nodup : order.Nodup)
    (absent : uri ∉ order → part uri = []) (name : String) :
    (t.entries name).filter (·.location.uri = uri) = (part uri).filter (·.name = name) := by
  rw [h.entries, filter_flatMap_eq (owned_named owned name) nodup]
  split
  · rfl
  · rename_i missing
    rw [absent missing, List.filter_nil]

theorem Lists.dropAll (h : t.Lists order part) (owned : ∀ u, ∀ e ∈ part u, e.location.uri = u) :
    (t.dropAll uri (part uri)).Lists (order.filter (· ≠ uri)) part := by
  refine ⟨fun name => ?_, h.tight.dropAll uri _⟩
  rw [entries_dropAll, h.entries, filter_flatMap (owned_named owned name) fun u => u ≠ uri]
  -- an entry of the file stands in the list because the file contributes it
  intro e he hu
  rw [h.entries, List.mem_flatMap] at he
  obtain ⟨v, -, hv⟩ := he
  obtain ⟨hm, hn⟩ := List.mem_filter.1 hv
  have : v = uri := (owned v e hm).symm.trans hu
  exact List.mem_map.2 ⟨e, this ▸ hm, by simpa using hn⟩

theorem Lists.addAll (h : t.Lists order part) (fresh : uri ∉ order) (es : List Entry) :
    (t.addAll es).Lists (order ++ [uri]) (Function.update part uri es) := by
  refine ⟨fun name => ?_, h.tight.addAll es⟩
  have old : t.Lists order (Function.update part uri es) :=
    h.congr fun u hu => Function.update_of_ne (ne_of_mem_of_not_mem hu fresh) es part
  rw [entries_addAll, old.entries, List.flatMap_append]
  simp

end EntryTable

/-! ## Snapshots -/

namespace Snapshot

/-- What is known of a file: nothing, unless it is taken up. -/
def contribution (s : Snapshot) (uri : String) : Contribution :=
  ((s.files[uri]?).map (·.contribution)).getD {}

/-- The snapshot's three maps agree in the given ordering of its files. -/
structure LaidOut (s : Snapshot) (order : List String) : Prop where
  nodup : order.Nodup
  mem_iff : ∀ uri, uri ∈ order ↔ uri ∈ s.files
  owned : ∀ uri, (s.contribution uri).Owned uri
  definitions : s.definitions.Lists order fun uri => (s.contribution uri).definitions
  usages : s.usages.Lists order fun uri => (s.contribution uri).usages

variable {s : Snapshot} {order : List String} {uri : String}

theorem contribution_of_files {slice : Slice} (h : s.files[uri]? = some slice) :
    s.contribution uri = slice.contribution := by
  simp [contribution, h]

theorem LaidOut.contribution_of_not_mem (h : s.LaidOut order) (absent : uri ∉ order) :
    s.contribution uri = {} := by
  rw [h.mem_iff] at absent
  simp [contribution, Std.TreeMap.getElem?_eq_none absent]

theorem laidOut_empty : LaidOut {} [] := by
  have nothing : ∀ uri, contribution {} uri = {} := fun uri => by simp [contribution]
  refine ⟨List.nodup_nil, by simp, fun uri => ?_, ⟨by simp, EntryTable.tight_empty⟩,
    ⟨by simp, EntryTable.tight_empty⟩⟩
  rw [nothing]
  exact ⟨by simp, by simp, by simp⟩

/-! ### Taking out and taking up -/

theorem files_removeFile (s : Snapshot) (uri v : String) :
    (s.removeFile uri).files[v]? = if v = uri then none else s.files[v]? := by
  unfold removeFile
  cases h : s.files[uri]? with
  | none => by_cases hv : v = uri <;> simp [hv, h]
  | some old => exact lookup_erase s.files uri v

theorem files_insertFile (s : Snapshot) (uri v : String) (slice : Slice) :
    (s.insertFile uri slice).files[v]? = if v = uri then some slice else s.files[v]? := by
  rw [insertFile, lookup_insert, files_removeFile]
  by_cases hv : v = uri <;> simp [hv]

theorem definitions_removeFile (s : Snapshot) (uri : String) :
    (s.removeFile uri).definitions =
      s.definitions.dropAll uri (s.contribution uri).definitions := by
  unfold removeFile contribution
  cases s.files[uri]? <;> rfl

theorem usages_removeFile (s : Snapshot) (uri : String) :
    (s.removeFile uri).usages = s.usages.dropAll uri (s.contribution uri).usages := by
  unfold removeFile contribution
  cases s.files[uri]? <;> rfl

theorem contribution_removeFile (s : Snapshot) (uri : String) :
    (s.removeFile uri).contribution = Function.update s.contribution uri {} := by
  funext v
  by_cases hv : v = uri <;> simp [contribution, files_removeFile, hv]

theorem contribution_insertFile (s : Snapshot) (uri : String) (slice : Slice) :
    (s.insertFile uri slice).contribution =
      Function.update s.contribution uri slice.contribution := by
  funext v
  by_cases hv : v = uri <;> simp [contribution, files_insertFile, hv]

theorem owned_update {f : String → Contribution} (h : ∀ v, (f v).Owned v) {c : Contribution}
    (hc : c.Owned uri) (v : String) : (Function.update f uri c v).Owned v := by
  by_cases hv : v = uri
  · subst hv; simpa using hc
  · rw [Function.update_of_ne hv]; exact h v

theorem LaidOut.removeFile (h : s.LaidOut order) (uri : String) :
    (s.removeFile uri).LaidOut (order.filter (· ≠ uri)) := by
  have members : ∀ v, v ∈ order.filter (· ≠ uri) ↔ v ∈ (s.removeFile uri).files := fun v => by
    rw [Std.TreeMap.mem_iff_isSome_getElem?, files_removeFile, List.mem_filter, h.mem_iff,
      Std.TreeMap.mem_iff_isSome_getElem?]
    by_cases hv : v = uri <;> simp [hv]
  have others : ∀ v ∈ order.filter (· ≠ uri),
      (s.removeFile uri).contribution v = s.contribution v := fun v hv => by
    rw [contribution_removeFile, Function.update_of_ne (by simpa using (List.mem_filter.1 hv).2)]
  refine ⟨h.nodup.filter _, members, ?_, ?_, ?_⟩
  · rw [contribution_removeFile]
    exact owned_update h.owned ⟨by simp, by simp, by simp⟩
  · rw [definitions_removeFile]
    exact (h.definitions.dropAll fun v => (h.owned v).definitions).congr fun v hv => by
      rw [others v hv]
  · rw [usages_removeFile]
    exact (h.usages.dropAll fun v => (h.owned v).usages).congr fun v hv => by rw [others v hv]

theorem LaidOut.insertFile (h : s.LaidOut order) {slice : Slice}
    (owned : slice.contribution.Owned uri) :
    (s.insertFile uri slice).LaidOut (order.filter (· ≠ uri) ++ [uri]) := by
  have hr := h.removeFile uri
  have fresh : uri ∉ order.filter (· ≠ uri) := by simp
  have same : (s.insertFile uri slice).contribution =
      Function.update (s.removeFile uri).contribution uri slice.contribution := by
    rw [contribution_insertFile, contribution_removeFile, Function.update_idem]
  refine ⟨?_, fun v => ?_, ?_, ?_, ?_⟩
  · exact hr.nodup.append (List.nodup_singleton uri) (by simp)
  · rw [Std.TreeMap.mem_iff_isSome_getElem?, files_insertFile, List.mem_append, hr.mem_iff,
      Std.TreeMap.mem_iff_isSome_getElem?, files_removeFile]
    by_cases hv : v = uri <;> simp [hv]
  · rw [same]
    exact owned_update hr.owned owned
  · refine (hr.definitions.addAll fresh slice.contribution.definitions).congr fun v _ => ?_
    by_cases hv : v = uri <;> simp [same, hv]
  · refine (hr.usages.addAll fresh slice.contribution.usages).congr fun v _ => ?_
    by_cases hv : v = uri <;> simp [same, hv]

/-! ### Reading off -/

/-- A file is taken up with just these entries: they are on record for it, and of the entries of
each name they are those that bear its address. -/
structure Stores (s : Snapshot) (uri : String) (c : Contribution) : Prop where
  known : uri ∈ s.files
  record : s.contribution uri = c
  definitions : ∀ name, (s.definitionsOf name).filter (·.location.uri = uri) =
    c.definitions.filter (·.name = name)
  usages : ∀ name, (s.usagesOf name).filter (·.location.uri = uri) =
    c.usages.filter (·.name = name)

theorem LaidOut.filter_definitionsOf (h : s.LaidOut order) (uri name : String) :
    (s.definitionsOf name).filter (·.location.uri = uri) =
      (s.contribution uri).definitions.filter (·.name = name) := by
  apply h.definitions.filter_entries (fun v => (h.owned v).definitions) h.nodup
  intro absent
  rw [h.contribution_of_not_mem absent]

theorem LaidOut.filter_usagesOf (h : s.LaidOut order) (uri name : String) :
    (s.usagesOf name).filter (·.location.uri = uri) =
      (s.contribution uri).usages.filter (·.name = name) := by
  apply h.usages.filter_entries (fun v => (h.owned v).usages) h.nodup
  intro absent
  rw [h.contribution_of_not_mem absent]

theorem LaidOut.stores_iff (h : s.LaidOut order) {c : Contribution} :
    s.Stores uri c ↔ (s.files[uri]?).map (·.contribution) = some c := by
  constructor
  · rintro ⟨known, rfl, -, -⟩
    obtain ⟨slice, hs⟩ := Option.isSome_iff_exists.1 (Std.TreeMap.mem_iff_isSome_getElem?.1 known)
    rw [hs, contribution_of_files hs]
    rfl
  · intro hc
    obtain ⟨slice, hs, rfl⟩ := Option.map_eq_some_iff.1 hc
    have known : uri ∈ s.files := Std.TreeMap.mem_iff_isSome_getElem?.2 (by simp [hs])
    have record := contribution_of_files hs
    refine ⟨known, record, fun name => ?_, fun name => ?_⟩
    · rw [h.filter_definitionsOf, record]
    · rw [h.filter_usagesOf, record]

/-- A defined name is given once, with the kind of the first of its definitions. -/
theorem mem_definitionNames {name : String} {kind : SymbolKind} :
    (name, kind) ∈ s.definitionNames ↔
      ((s.definitionsOf name).head?.bind (·.kind)) = some kind := by
  simp only [definitionNames, List.mem_filterMap, Prod.exists, Option.map_eq_some_iff,
    Prod.mk.injEq, Std.TreeMap.mem_toList_iff_getElem?_eq_some, definitionsOf, EntryTable.entries]
  constructor
  · rintro ⟨n, es, hes, k, hk, rfl, rfl⟩
    simpa [hes, List.head?_eq_getElem?] using hk
  · intro h
    cases hes : s.definitions[name]? with
    | none => simp [hes] at h
    | some es =>
      have first : es[0]?.bind (·.kind) = some kind := by
        simpa [hes, List.head?_eq_getElem?] using h
      exact ⟨name, es, hes, kind, first, rfl, rfl⟩

theorem nodup_definitionNames (s : Snapshot) : (s.definitionNames.map (·.1)).Nodup := by
  have keys : (s.definitions.toList.map (·.1)).Nodup := by
    rw [Std.TreeMap.map_fst_toList_eq_keys]
    exact Std.TreeMap.nodup_keys
  refine keys.sublist ?_
  unfold definitionNames
  generalize s.definitions.toList = entries
  induction entries with
  | nil => simp
  | cons e entries ih =>
    rw [List.filterMap_cons]
    cases hk : e.2[0]?.bind (·.kind) with
    | none => simpa [hk] using ih.cons e.1
    | some kind => simpa [hk] using ih

/-- In a snapshot that is laid out, each name with definitions has a kind. -/
theorem LaidOut.exists_mem_definitionNames (h : s.LaidOut order) {name : String} :
    (∃ kind, (name, kind) ∈ s.definitionNames) ↔ s.definitionsOf name ≠ [] := by
  simp only [mem_definitionNames]
  cases hes : s.definitionsOf name with
  | nil => simp
  | cons e es =>
    have he : e ∈ s.definitionsOf name := by simp [hes]
    rw [definitionsOf, h.definitions.entries, List.mem_flatMap] at he
    obtain ⟨v, -, hv⟩ := he
    simpa [← Option.isSome_iff_exists] using (h.owned v).kinds e (List.mem_of_mem_filter hv)

/-! ### Snapshots of the same files -/

/-- The same files with the same entries; the entries of a name may stand in another order. -/
structure Agrees (s s' : Snapshot) : Prop where
  uris : s.uris = s'.uris
  contribution : ∀ uri, s.contribution uri = s'.contribution uri
  definitions : ∀ name, (s.definitionsOf name).Perm (s'.definitionsOf name)
  usages : ∀ name, (s.usagesOf name).Perm (s'.usagesOf name)

/-- The records of the files tell all but the order. -/
theorem LaidOut.agrees {s' : Snapshot} {order' : List String} (h : s.LaidOut order)
    (h' : s'.LaidOut order') (same : ∀ uri : String, s.files[uri]? = s'.files[uri]?) :
    s.Agrees s' := by
  have files : s.files.Equiv s'.files := Std.TreeMap.Equiv.of_forall_constGet?_eq same
  have contribution : ∀ uri, s.contribution uri = s'.contribution uri := fun uri => by
    rw [Snapshot.contribution, same, Snapshot.contribution]
  have orders : order.Perm order' := by
    refine (List.perm_ext_iff_of_nodup h.nodup h'.nodup).2 fun uri => ?_
    rw [h.mem_iff, h'.mem_iff, files.mem_iff]
  refine ⟨files.keys_eq, contribution, fun name => ?_, fun name => ?_⟩
  · rw [definitionsOf, h.definitions.entries, definitionsOf, h'.definitions.entries]
    simp only [contribution]
    exact orders.flatMap_right _
  · rw [usagesOf, h.usages.entries, usagesOf, h'.usages.entries]
    simp only [contribution]
    exact orders.flatMap_right _

end Snapshot

end CodeIndex
