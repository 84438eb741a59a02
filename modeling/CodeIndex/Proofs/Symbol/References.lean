import CodeIndex.Language.Document
import CodeIndex.Proofs.Lists

/-!
# Usages, declarations and the references among them

**A document's usages** stand one at each span that is captured and not declared, in the order in
which the spans are first met (`map_span_usagesOf`). So no two of them share a location, and none
has the location of a definition (`Contribution.Apart`).

**Choosing references** puts entries into buckets, one for each kind. All buckets together are the
entries grouped by kind (`Buckets.all_foldl_push`). No entry is given twice: up to order, the
locations are those of the usages that may mean the same as the entry under the cursor, and behind
them those of the definitions (`selectReferences_perm`). Where usages and definitions stand apart,
so do the references (`referencesApart_select`).
-/

namespace CodeIndex

open Syntax (Capture)

/-! ## Usages of a document -/

theorem map_span_addUsage (uri : String) (es : List Entry) (c : Capture) :
    (addUsage uri es c).map (·.location.span) =
      if c.span ∈ es.map (·.location.span) then es.map (·.location.span)
      else es.map (·.location.span) ++ [c.span] := by
  have met : (es.any fun e => e.location.span = c.span) = true ↔
      c.span ∈ es.map (·.location.span) := by simp
  unfold addUsage
  simp only [met]
  split
  · -- a kind is filled in, and the span stays
    rw [List.map_map]
    refine List.map_congr_left fun e _ => ?_
    simp only [Function.comp_apply]
    split <;> rfl
  · rw [List.map_append, List.map_singleton]

theorem map_span_foldl_addUsage (uri : String) (cs : List Capture) :
    (cs.foldl (addUsage uri) []).map (·.location.span) = (cs.map (·.span)).eraseDups := by
  induction cs using List.reverseRecOn with
  | nil => rfl
  | append_singleton cs c ih =>
    rw [List.foldl_append, List.foldl_cons, List.foldl_nil, map_span_addUsage, ih, List.map_append,
      List.map_singleton, eraseDups_concat]
    simp only [List.mem_eraseDups]

/-- **The spans of the usages are the captured ones that are not declared,** in the order in which
they are first met. -/
theorem map_span_usagesOf (uri : String) (declared : List Span) (cs : List Capture) :
    (usagesOf uri declared cs).map (·.location.span) =
      ((cs.filter fun c => !declared.contains c.span).map (·.span)).eraseDups :=
  map_span_foldl_addUsage uri _

/-- No two usages share a location, and none has the location of a definition. -/
structure Contribution.Apart (c : Contribution) : Prop where
  distinct : (c.usages.map (·.location)).Nodup
  undeclared : ∀ u ∈ c.usages, ∀ d ∈ c.definitions, u.location ≠ d.location

theorem Contribution.apart_empty : Contribution.Apart {} := ⟨List.nodup_nil, by simp⟩

theorem Contribution.apart_ofCaptures (uri : String)
    (outlineCaptures usageCaptures : List Capture) :
    (Contribution.ofCaptures uri outlineCaptures usageCaptures).Apart := by
  have spans := map_span_usagesOf uri
    ((definitionsOf uri outlineCaptures).map (·.location.span)) usageCaptures
  constructor
  · refine List.Nodup.of_map (·.span) ?_
    rw [List.map_map]
    exact spans ▸ nodup_eraseDups _
  · intro u hu d hd same
    have captured := spans ▸ List.mem_map_of_mem hu
    obtain ⟨c, hc, span⟩ := List.mem_map.1 (List.mem_eraseDups.1 captured)
    have undeclared := (List.mem_filter.1 hc).2
    simp only [Bool.not_eq_true', List.contains_eq_mem, decide_eq_false_iff_not] at undeclared
    exact undeclared (List.mem_map.2 ⟨d, hd, by rw [span, same]⟩)

theorem apart_contributionOf [Trees] (uri languageId text : String) :
    (contributionOf uri languageId text).Apart := by
  unfold contributionOf
  split
  · exact Contribution.apart_ofCaptures ..
  · exact Contribution.apart_empty

/-! ## Buckets -/

/-- Entries grouped by kind: groups in order of first appearance, each in its old order. -/
def groupByKind (es : List Entry) : List Entry :=
  (es.map (·.kind)).eraseDups.flatMap fun k => es.filter (·.kind = k)

namespace Buckets

variable (b : Buckets) (e : Entry) (es : List Entry) (kind : Option SymbolKind)

theorem ofKind_cons (k : Option SymbolKind) (ls : Array Location) :
    ofKind ((k, ls) :: b) kind = if kind = k then ls.toList else b.ofKind kind := by
  rw [ofKind, List.lookup_cons]
  by_cases same : kind = k
  · simp [same]
  · simp [beq_false_of_ne same, same, ofKind]

theorem ofKind_push :
    (b.push e).ofKind kind = b.ofKind kind ++ if e.kind = kind then [e.location] else [] := by
  induction b with
  | nil =>
    rw [push, ofKind_cons]
    by_cases same : e.kind = kind
    · simp [same, ofKind]
    · simp [same, Ne.symm same, ofKind]
  | cons bucket b ih =>
    obtain ⟨k, ls⟩ := bucket
    by_cases here : k = e.kind
    · rw [push, if_pos here, ofKind_cons, ofKind_cons, here]
      by_cases same : e.kind = kind
      · simp [same]
      · simp [same, Ne.symm same]
    · rw [push, if_neg here, ofKind_cons, ofKind_cons, ih]
      by_cases same : kind = k
      · simp [same, Ne.symm here]
      · simp [same]

theorem ofKind_foldl_push :
    (es.foldl push b).ofKind kind =
      b.ofKind kind ++ (es.filter (·.kind = kind)).map (·.location) := by
  induction es generalizing b with
  | nil => simp
  | cons e es ih =>
    rw [List.foldl_cons, ih, ofKind_push, List.append_assoc, List.filter_cons]
    by_cases same : e.kind = kind <;> simp [same]

/-- A bucket is opened at the end, for a kind that has none. -/
theorem map_fst_push :
    (b.push e).map (·.1) =
      if e.kind ∈ b.map (·.1) then b.map (·.1) else b.map (·.1) ++ [e.kind] := by
  induction b with
  | nil => simp [push]
  | cons bucket b ih =>
    obtain ⟨k, ls⟩ := bucket
    by_cases here : k = e.kind
    · simp [push, here]
    · rw [push, if_neg here, List.map_cons, ih, List.map_cons]
      have others : e.kind ∈ k :: b.map (·.1) ↔ e.kind ∈ b.map (·.1) := by
        rw [List.mem_cons, or_iff_right (Ne.symm here)]
      simp only [others]
      split <;> rfl

/-- There is a bucket for each kind, in the order in which the kinds are first met. -/
theorem map_fst_foldl_push : (es.foldl push []).map (·.1) = (es.map (·.kind)).eraseDups := by
  induction es using List.reverseRecOn with
  | nil => rfl
  | append_singleton es e ih =>
    rw [List.foldl_append, List.foldl_cons, List.foldl_nil, map_fst_push, ih, List.map_append,
      List.map_singleton, eraseDups_concat]
    simp only [List.mem_eraseDups]

theorem all_eq_flatMap (distinct : (b.map (·.1)).Nodup) :
    b.all = (b.map (·.1)).flatMap b.ofKind := by
  induction b with
  | nil => rfl
  | cons bucket b ih =>
    obtain ⟨k, ls⟩ := bucket
    obtain ⟨fresh, distinct⟩ := List.nodup_cons.1 distinct
    rw [all, List.flatMap_cons, ← all, ih distinct, List.map_cons, List.flatMap_cons, ofKind_cons,
      if_pos rfl]
    refine congrArg (ls.toList ++ ·) (List.flatMap_congr fun kind listed => ?_)
    have other : kind ≠ k := fun same => fresh (same ▸ listed)
    rw [ofKind_cons, if_neg other]

/-- **The buckets group entries by kind.** -/
theorem all_foldl_push :
    (es.foldl push []).all = (groupByKind es).map (·.location) := by
  rw [all_eq_flatMap _ (map_fst_foldl_push es ▸ nodup_eraseDups _), map_fst_foldl_push, groupByKind,
    List.map_flatMap]
  exact List.flatMap_congr fun kind _ => ofKind_foldl_push [] es kind

end Buckets

/-! ## Choosing references -/

theorem flatMap_filter_kind_perm (es : List Entry) (ks : List (Option SymbolKind))
    (distinct : ks.Nodup) :
    (ks.flatMap fun k => es.filter (·.kind = k)).Perm (es.filter (·.kind ∈ ks)) := by
  induction ks with
  | nil => simp
  | cons k ks ih =>
    obtain ⟨fresh, distinct⟩ := List.nodup_cons.1 distinct
    have first : (es.filter (·.kind ∈ k :: ks)).filter (·.kind = k) = es.filter (·.kind = k) := by
      rw [List.filter_filter]
      exact List.filter_congr fun e _ => by by_cases h : e.kind = k <;> simp [h]
    have others : (es.filter (·.kind ∈ k :: ks)).filter (fun e => !decide (e.kind = k)) =
        es.filter (·.kind ∈ ks) := by
      rw [List.filter_filter]
      exact List.filter_congr fun e _ => by by_cases h : e.kind = k <;> simp [h, fresh]
    rw [List.flatMap_cons]
    refine (List.Perm.append_left _ (ih distinct)).trans ?_
    rw [← first, ← others]
    exact List.filter_append_perm _ _

theorem groupByKind_perm (es : List Entry) : (groupByKind es).Perm es := by
  have all : es.filter (·.kind ∈ (es.map (·.kind)).eraseDups) = es :=
    List.filter_eq_self.2 fun e he => by
      simpa only [decide_eq_true_eq, List.mem_eraseDups] using List.mem_map_of_mem he
  exact (flatMap_filter_kind_perm es _ (nodup_eraseDups _)).trans (.of_eq all)

/-- The entries that may mean the same as one of the given kind: those of this kind and those of
unknown kind, or all if the kind itself is unknown. -/
def alike (kind : Option SymbolKind) (es : List Entry) : List Entry :=
  es.filter fun e => kind = none ∨ e.kind = kind ∨ e.kind = none

theorem alike_sublist (kind : Option SymbolKind) (es : List Entry) : (alike kind es).Sublist es :=
  List.filter_sublist

variable {usages definitions : List Entry}

section

variable {uri : String} {p : Position} {includeDeclaration : Bool}

/-- Where there are no entries at all, the buckets are empty too. -/
theorem selectReferences_eq :
    selectReferences usages definitions uri p includeDeclaration =
      let entries := usages ++ if includeDeclaration then definitions else []
      let buckets : Buckets := entries.foldl .push []
      match (entryAt usages definitions uri p).bind (·.kind) with
      | none => buckets.all
      | some kind => buckets.ofKind (some kind) ++ buckets.ofKind none := by
  rw [selectReferences]
  split
  · rename_i empty
    obtain ⟨rfl, rfl⟩ : usages = [] ∧ definitions = [] := by simpa using empty
    cases includeDeclaration <;> rfl
  · rfl

theorem selectReferences_of_kind {k : SymbolKind}
    (known : (entryAt usages definitions uri p).bind (·.kind) = some k) :
    let es := usages ++ if includeDeclaration then definitions else []
    selectReferences usages definitions uri p includeDeclaration =
      (es.filter (·.kind = some k) ++ es.filter (·.kind = none)).map (·.location) := by
  intro es
  rw [selectReferences_eq, known, List.map_append]
  exact congrArg₂ (· ++ ·) (Buckets.ofKind_foldl_push [] es (some k))
    (Buckets.ofKind_foldl_push [] es none)

theorem selectReferences_of_unknown
    (unknown : (entryAt usages definitions uri p).bind (·.kind) = none) :
    selectReferences usages definitions uri p includeDeclaration =
      (groupByKind (usages ++ if includeDeclaration then definitions else [])).map
        (·.location) := by
  rw [selectReferences_eq, unknown]
  exact Buckets.all_foldl_push _

end

/-- **References are the entries alike the one under the cursor,** among the usages and, if they are
asked for, the definitions; each is given once. -/
theorem selectReferences_perm_alike (usages definitions : List Entry) (uri : String) (p : Position)
    (includeDeclaration : Bool) :
    (selectReferences usages definitions uri p includeDeclaration).Perm
      ((alike ((entryAt usages definitions uri p).bind (·.kind))
        (usages ++ if includeDeclaration then definitions else [])).map (·.location)) := by
  cases kind : (entryAt usages definitions uri p).bind (·.kind) with
  | none =>
    rw [selectReferences_of_unknown kind]
    generalize usages ++ (if includeDeclaration then definitions else []) = es
    refine List.Perm.map _ ?_
    simpa [alike] using groupByKind_perm es
  | some k =>
    rw [selectReferences_of_kind kind]
    generalize usages ++ (if includeDeclaration then definitions else []) = es
    refine List.Perm.map _ ?_
    simpa [alike] using flatMap_filter_kind_perm es [some k, none] (by simp)

theorem selectReferences_perm (usages definitions : List Entry) (uri : String) (p : Position)
    (includeDeclaration : Bool) :
    let kind := (entryAt usages definitions uri p).bind (·.kind)
    (selectReferences usages definitions uri p includeDeclaration).Perm
      ((alike kind usages).map (·.location) ++
        if includeDeclaration then (alike kind definitions).map (·.location) else []) := by
  refine (selectReferences_perm_alike usages definitions uri p includeDeclaration).trans (.of_eq ?_)
  cases includeDeclaration <;> simp [alike]

theorem mem_selectReferences {uri : String} {p : Position} {includeDeclaration : Bool}
    {l : Location} :
    l ∈ selectReferences usages definitions uri p includeDeclaration ↔
      ∃ e ∈ alike ((entryAt usages definitions uri p).bind (·.kind))
        (usages ++ if includeDeclaration then definitions else []), e.location = l := by
  rw [(selectReferences_perm_alike usages definitions uri p includeDeclaration).mem_iff,
    List.mem_map]

/-- References without and with declarations: the former are locations of usages, each given once;
the latter are the same ones and locations of definitions, none of which is that of a usage
given. -/
structure ReferencesApart (usages definitions : List Entry)
    (plain declared : List Location) : Prop where
  nodup : plain.Nodup
  plain_subset : plain ⊆ usages.map (·.location)
  declared_perm : ∃ declarations ⊆ definitions.map (·.location),
    declared.Perm (plain ++ declarations) ∧ plain.Disjoint declarations

theorem referencesApart_nil : ReferencesApart usages definitions [] [] :=
  ⟨List.nodup_nil, List.nil_subset _, [], List.nil_subset _, .refl _, List.disjoint_nil_left _⟩

theorem ReferencesApart.mono {usages' definitions' : List Entry} {plain declared : List Location}
    (h : ReferencesApart usages definitions plain declared) (hu : usages ⊆ usages')
    (hd : definitions ⊆ definitions') : ReferencesApart usages' definitions' plain declared := by
  obtain ⟨declarations, subset, perm⟩ := h.declared_perm
  exact ⟨h.nodup, List.Subset.trans h.plain_subset (List.map_subset _ hu),
    declarations, List.Subset.trans subset (List.map_subset _ hd), perm⟩

/-- **Where usages and definitions stand apart, so do the references chosen from them.** -/
theorem referencesApart_select (distinct : (usages.map (·.location)).Nodup)
    (undeclared : ∀ u ∈ usages, ∀ d ∈ definitions, u.location ≠ d.location) (uri : String)
    (p : Position) :
    ReferencesApart usages definitions (selectReferences usages definitions uri p false)
      (selectReferences usages definitions uri p true) := by
  have plain := selectReferences_perm usages definitions uri p false
  have declared := selectReferences_perm usages definitions uri p true
  generalize (entryAt usages definitions uri p).bind (·.kind) = kind at plain declared
  simp only [Bool.false_eq_true, if_false, List.append_nil, if_true] at plain declared
  have usagesOnly := (alike_sublist kind usages).map (·.location)
  have definitionsOnly := (alike_sublist kind definitions).map (·.location)
  refine ⟨plain.nodup_iff.2 (distinct.sublist usagesOnly),
    List.Subset.trans plain.subset usagesOnly.subset, _, definitionsOnly.subset,
    declared.trans (plain.symm.append_right _), ?_⟩
  intro l inUsages inDefinitions
  obtain ⟨u, hu, rfl⟩ := List.mem_map.1 (usagesOnly.subset (plain.subset inUsages))
  obtain ⟨d, hd, same⟩ := List.mem_map.1 (definitionsOnly.subset inDefinitions)
  exact undeclared u hu d hd same.symm

end CodeIndex
