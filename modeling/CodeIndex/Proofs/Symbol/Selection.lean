import CodeIndex.Proofs.Symbol.References
import Mathlib.Data.List.Flatten

/-!
# What the choice of references is

**Grouping.** Entries are grouped by kind when an entry stands behind those whose kinds appear
earlier, and entries of one kind keep their order (`GroupedByKind`). There is one such list, and it
is the one that `groupByKind` gives (`groupByKind_eq_iff`). With more entries behind, a grouped list
only gains entries (`groupByKind_sublist`).

**Theorem (`selectReferences_eq_iff`).** Where the entry under the cursor has a kind, the references
are the entries of this kind and behind them those of unknown kind. Else they are all entries,
grouped by kind. Asking for declarations too only adds to them, and the entry under the cursor is
among them.

**Theorem (`references_symmetric`).** Where each position is covered by one entry at most, an entry
is among the references of another if and only if the other is among its own. Both say that their
kinds are equal or that one of them is unknown.
-/

namespace CodeIndex

variable {es es' gs gs' usages definitions : List Entry}

/-- Where a test holds of all before one that it holds of, what it holds of stands in front. -/
theorem filter_append_filter_not {α : Type} {p : α → Bool} {l : List α}
    (early : l.Pairwise fun a b => p b → p a) : l.filter p ++ l.filter (!p ·) = l := by
  induction l with
  | nil => rfl
  | cons a l ih =>
    obtain ⟨first, early⟩ := List.pairwise_cons.1 early
    cases met : p a with
    | true => simp [met, ih early]
    | false =>
      have none : ∀ b ∈ l, p b = false := fun b hb =>
        Bool.eq_false_iff.2 fun hp => Bool.false_ne_true (met.symm.trans (first b hb hp))
      have front : l.filter p = [] := List.filter_eq_nil_iff.2 fun b hb => by simp [none b hb]
      have back : l.filter (!p ·) = l := List.filter_eq_self.2 fun b hb => by simp [none b hb]
      simp [met, front, back]

/-! ## Grouping by kind -/

/-- `gs` is `es` grouped by kind, groups in order of first appearance. -/
structure GroupedByKind (es gs : List Entry) : Prop where
  /-- Entries of one kind are the same, in the same order. -/
  stable : ∀ kind, gs.filter (·.kind = kind) = es.filter (·.kind = kind)
  /-- No entry stands before one whose kind appears earlier. -/
  ordered : gs.Pairwise fun a b => (es.map (·.kind)).idxOf a.kind ≤ (es.map (·.kind)).idxOf b.kind

theorem filter_kind_flatMap (kind : Option SymbolKind) {kinds : List (Option SymbolKind)}
    (distinct : kinds.Nodup) :
    (kinds.flatMap fun k => es.filter (·.kind = k)).filter (·.kind = kind) =
      if kind ∈ kinds then es.filter (·.kind = kind) else [] := by
  induction kinds with
  | nil => rfl
  | cons k kinds ih =>
    obtain ⟨fresh, distinct⟩ := List.nodup_cons.1 distinct
    rw [List.flatMap_cons, List.filter_append, ih distinct, List.filter_filter]
    by_cases same : kind = k
    · subst same
      simp [fresh]
    · have none : es.filter (fun e => e.kind = kind && e.kind = k) = [] :=
        List.filter_eq_nil_iff.2 fun e _ => by simpa using fun h h' => same (h.symm.trans h')
      simp [none, same]

theorem groupedByKind_groupByKind (es : List Entry) : GroupedByKind es (groupByKind es) := by
  constructor
  · intro kind
    rw [groupByKind, filter_kind_flatMap kind (nodup_eraseDups _)]
    split
    · rfl
    · rename_i unmet
      refine (List.filter_eq_nil_iff.2 fun e he => ?_).symm
      rw [List.mem_eraseDups, List.mem_map] at unmet
      simpa using fun same => unmet ⟨e, he, same⟩
  · have kind_of_mem {kind : Option SymbolKind} : ∀ e ∈ es.filter (·.kind = kind), e.kind = kind :=
      fun e he => of_decide_eq_true (List.mem_filter.1 he).2
    refine List.pairwise_flatMap.2 ⟨fun kind _ => ?_, ?_⟩
    · exact List.pairwise_of_forall_mem_list fun a ha b hb => Nat.le_of_eq <| by
        rw [kind_of_mem a ha, kind_of_mem b hb]
    · refine (pairwise_idxOf_eraseDups (es.map (·.kind))).imp ?_
      intro k k' before a ha b hb
      rw [kind_of_mem a ha, kind_of_mem b hb]
      exact Nat.le_of_lt before

/-- What is in order of the ranks of its kinds is made up of its groups. -/
theorem eq_flatMap_of_ordered (rank : Option SymbolKind → Nat) {kinds : List (Option SymbolKind)}
    (ranked : kinds.Pairwise fun k k' => rank k < rank k')
    (ordered : gs.Pairwise fun a b => rank a.kind ≤ rank b.kind)
    (listed : ∀ g ∈ gs, g.kind ∈ kinds) :
    gs = kinds.flatMap fun k => gs.filter (·.kind = k) := by
  induction kinds generalizing gs with
  | nil => exact List.eq_nil_iff_forall_not_mem.2 fun g hg => by simpa using listed g hg
  | cons k kinds ih =>
    obtain ⟨first, ranked⟩ := List.pairwise_cons.1 ranked
    have least : ∀ g ∈ gs, rank g.kind ≤ rank k → g.kind = k := fun g hg low => by
      rcases List.mem_cons.1 (listed g hg) with same | later
      · exact same
      · exact absurd low (Nat.not_le_of_lt (first _ later))
    -- the group of the first kind stands in front
    have early : gs.Pairwise fun a b => decide (b.kind = k) → decide (a.kind = k) :=
      ordered.imp_of_mem fun {a b} ha _ before hb => by
        rw [of_decide_eq_true hb] at before
        exact decide_eq_true (least a ha before)
    have rest : gs.filter (fun g => !decide (g.kind = k)) =
        kinds.flatMap fun k' => (gs.filter fun g => !decide (g.kind = k)).filter (·.kind = k') :=
      ih ranked (ordered.filter _) fun g hg => by
        obtain ⟨hg, other⟩ := List.mem_filter.1 hg
        exact (List.mem_cons.1 (listed g hg)).resolve_left (by simpa using other)
    have groups :
        (kinds.flatMap fun k' => (gs.filter fun g => !decide (g.kind = k)).filter (·.kind = k')) =
          kinds.flatMap fun k' => gs.filter (·.kind = k') :=
      List.flatMap_congr fun k' hk' => by
        have apart : k' ≠ k := fun same => Nat.lt_irrefl _ (same ▸ first k' hk')
        rw [List.filter_filter]
        exact List.filter_congr fun g _ => by
          by_cases h : g.kind = k' <;> simp [h, apart]
    rw [List.flatMap_cons, ← groups, ← rest, filter_append_filter_not early]

theorem groupByKind_eq_iff : groupByKind es = gs ↔ GroupedByKind es gs := by
  constructor
  · rintro rfl
    exact groupedByKind_groupByKind es
  · intro h
    have listed : ∀ g ∈ gs, g.kind ∈ (es.map (·.kind)).eraseDups := fun g hg => by
      have kept : g ∈ es.filter (·.kind = g.kind) :=
        h.stable g.kind ▸ List.mem_filter.2 ⟨hg, decide_eq_true rfl⟩
      exact List.mem_eraseDups.2 (List.mem_map_of_mem (List.mem_filter.1 kept).1)
    rw [eq_flatMap_of_ordered _ (pairwise_idxOf_eraseDups _) h.ordered listed, groupByKind]
    simp only [h.stable]

theorem groupByKind_sublist (es more : List Entry) :
    (groupByKind es).Sublist (groupByKind (es ++ more)) := by
  have longer (kinds : List (Option SymbolKind)) :
      (kinds.flatMap fun k => es.filter (·.kind = k)).Sublist
        (kinds.flatMap fun k => (es ++ more).filter (·.kind = k)) :=
    List.Sublist.flatMap_right kinds fun _ _ => (List.sublist_append_left es more).filter _
  rw [groupByKind, groupByKind, List.map_append, List.eraseDups_append, List.flatMap_append]
  exact (longer _).trans (List.sublist_append_left _ _)

/-! ## Choosing references -/

theorem entryAt_eq_find? (usages definitions : List Entry) (uri : String) (p : Position) :
    entryAt usages definitions uri p = (usages ++ definitions).find? fun e => e.At uri p := by
  rw [entryAt, List.find?_append]

theorem selectReferences_sublist (usages definitions : List Entry) (uri : String) (p : Position) :
    (selectReferences usages definitions uri p false).Sublist
      (selectReferences usages definitions uri p true) := by
  have more := List.sublist_append_left usages definitions
  cases kind : (entryAt usages definitions uri p).bind (·.kind) with
  | none =>
    rw [selectReferences_of_unknown kind, selectReferences_of_unknown kind]
    simpa only [Bool.false_eq_true, if_false, List.append_nil, if_true] using
      (groupByKind_sublist usages definitions).map (·.location)
  | some k =>
    rw [selectReferences_of_kind kind, selectReferences_of_kind kind]
    simpa only [Bool.false_eq_true, if_false, List.append_nil, if_true] using
      ((more.filter _).append (more.filter _)).map (·.location)

/-- **What the choice of references is.** The cursor is on the first usage that covers it, or else
on the first definition that does. If this entry has a kind, the references are the entries of this
kind, in their order, and behind them those of unknown kind. If it has none, or nothing covers the
cursor, they are all entries, grouped by kind. Declarations only add to them, and the entry under
the cursor is among them if it is one of those that are asked for. -/
theorem selectReferences_eq_iff (usages definitions : List Entry) (uri : String) (p : Position)
    (includeDeclaration : Bool) :
    let es := usages ++ if includeDeclaration then definitions else []
    let cursor := (usages ++ definitions).find? fun e => e.At uri p
    let references := selectReferences usages definitions uri p includeDeclaration
    (∀ ls, references = ls ↔
      match cursor.bind (·.kind) with
      | some k =>
        ls = (es.filter (·.kind = some k) ++ es.filter (·.kind = none)).map (·.location)
      | none => ∃ gs, GroupedByKind es gs ∧ ls = gs.map (·.location)) ∧
    (selectReferences usages definitions uri p false).Sublist
      (selectReferences usages definitions uri p true) ∧
    ∀ c ∈ cursor, c ∈ es → c.location ∈ references := by
  intro es cursor references
  have at_cursor : entryAt usages definitions uri p = cursor := entryAt_eq_find? ..
  refine ⟨fun ls => ?_, selectReferences_sublist .., fun c hc among => ?_⟩
  · cases kind : cursor.bind (·.kind) with
    | some k =>
      have chosen : references = _ := selectReferences_of_kind (at_cursor ▸ kind)
      rw [chosen]
      exact eq_comm
    | none =>
      have chosen : references = _ := selectReferences_of_unknown (at_cursor ▸ kind)
      rw [chosen]
      exact ⟨fun h => ⟨groupByKind es, groupedByKind_groupByKind es, h.symm⟩,
        fun ⟨gs, grouped, h⟩ => by rw [h, ← groupByKind_eq_iff.2 grouped]⟩
  · rw [mem_selectReferences, at_cursor, Option.mem_def.1 hc, Option.bind_some]
    exact ⟨c, List.mem_filter.2 ⟨among, by simp⟩, rfl⟩

/-! ## Symmetry -/

/-- Where each position is covered by one entry at most, the entry under the cursor is any that
covers it. -/
theorem entryAt_eq {e : Entry} {uri : String} {p : Position}
    (apart : ∀ e ∈ usages ++ definitions, ∀ e' ∈ usages ++ definitions,
      e.At uri p → e'.At uri p → e = e')
    (among : e ∈ usages ++ definitions) (covers : e.At uri p) :
    entryAt usages definitions uri p = some e := by
  rw [entryAt_eq_find?]
  cases found : (usages ++ definitions).find? fun e => e.At uri p with
  | none => exact absurd (decide_eq_true covers) (List.find?_eq_none.1 found e among)
  | some e' =>
    have covers' : e'.At uri p := by simpa using List.find?_some found
    rw [apart e' (List.mem_of_find?_eq_some found) e among covers' covers]

/-- Where each position is covered by one entry at most, the references of an entry are those of its
kind or of unknown kind, or all if its kind is unknown. -/
theorem location_mem_selectReferences {e e' : Entry} {p p' : Position}
    (apart : ∀ uri p, ∀ e ∈ usages ++ definitions, ∀ e' ∈ usages ++ definitions,
      e.At uri p → e'.At uri p → e = e')
    (among : e ∈ usages ++ definitions) (among' : e' ∈ usages ++ definitions)
    (covers : e.location.span.ContainsPosition p) (covers' : e'.location.span.ContainsPosition p') :
    e'.location ∈ selectReferences usages definitions e.location.uri p true ↔
      e.kind = none ∨ e'.kind = none ∨ e.kind = e'.kind := by
  have order : (e.kind = none ∨ e'.kind = none ∨ e.kind = e'.kind) ↔
      (e.kind = none ∨ e'.kind = e.kind ∨ e'.kind = none) := by
    rw [or_comm (a := e'.kind = none), eq_comm (a := e.kind) (b := e'.kind)]
  rw [order, mem_selectReferences, entryAt_eq (apart _ p) among ⟨rfl, covers⟩, Option.bind_some,
    if_pos rfl]
  constructor
  · rintro ⟨f, hf, same⟩
    obtain ⟨among'', kinds⟩ := List.mem_filter.1 hf
    have there : f.At e'.location.uri p' := by rw [Entry.At, same]; exact ⟨rfl, covers'⟩
    obtain rfl : f = e' := apart _ p' f among'' e' among' there ⟨rfl, covers'⟩
    exact of_decide_eq_true kinds
  · exact fun kinds => ⟨e', List.mem_filter.2 ⟨among', decide_eq_true kinds⟩, rfl⟩

/-- **References are symmetric.** Let each position be covered by one entry at most. With
declarations, an entry is among the references of another if and only if the other is among its own:
both say that they are of one kind or that the kind of one of them is unknown. -/
theorem references_symmetric {usages definitions : List Entry}
    (apart : ∀ uri p, ∀ e ∈ usages ++ definitions, ∀ e' ∈ usages ++ definitions,
      e.At uri p → e'.At uri p → e = e')
    {e₁ e₂ : Entry} (among₁ : e₁ ∈ usages ++ definitions) (among₂ : e₂ ∈ usages ++ definitions)
    {p₁ p₂ : Position} (covers₁ : e₁.location.span.ContainsPosition p₁)
    (covers₂ : e₂.location.span.ContainsPosition p₂) :
    (e₂.location ∈ selectReferences usages definitions e₁.location.uri p₁ true ↔
      e₁.location ∈ selectReferences usages definitions e₂.location.uri p₂ true) ∧
    (e₂.location ∈ selectReferences usages definitions e₁.location.uri p₁ true ↔
      e₁.kind = none ∨ e₂.kind = none ∨ e₁.kind = e₂.kind) := by
  have forth := location_mem_selectReferences apart among₁ among₂ covers₁ covers₂
  have back := location_mem_selectReferences apart among₂ among₁ covers₂ covers₁
  refine ⟨?_, forth⟩
  rw [forth, back, or_left_comm, eq_comm (a := e₁.kind) (b := e₂.kind)]

/-- A definition and a call in one document, a variable and a word of unknown kind in others. The
definition and the unknown word are among the references of each other. -/
theorem references_symmetric_unknown :
    let entry (kind : Option SymbolKind) (uri : String) (line : Nat) : Entry :=
      ⟨"foo", kind, uri, ⟨⟨line, 0⟩, ⟨line, 3⟩⟩⟩
    let usages := [entry (some .variable) "file:///c" 1, entry (some .function) "file:///a" 3,
      entry none "file:///d" 2]
    let definitions := [entry (some .function) "file:///a" 0]
    (∀ uri p, ∀ e ∈ usages ++ definitions, ∀ e' ∈ usages ++ definitions,
      e.At uri p → e'.At uri p → e = e') ∧
    ⟨"file:///d", ⟨⟨2, 0⟩, ⟨2, 3⟩⟩⟩ ∈ selectReferences usages definitions "file:///a" ⟨0, 1⟩ true ∧
    ⟨"file:///a", ⟨⟨0, 0⟩, ⟨0, 3⟩⟩⟩ ∈
      selectReferences usages definitions "file:///d" ⟨2, 3⟩ true := by
  intro entry usages definitions
  have apart : ∀ uri p, ∀ e ∈ usages ++ definitions, ∀ e' ∈ usages ++ definitions,
      e.At uri p → e'.At uri p → e = e' := by
    -- each entry stands on a line of its own
    have distinct : ((usages ++ definitions).map fun e =>
        (e.location.uri, e.location.span.start.line)).Nodup := by decide +kernel
    have flat : ∀ e ∈ usages ++ definitions,
        e.location.span.stop.line = e.location.span.start.line := by decide +kernel
    intro uri p
    have place : ∀ e ∈ usages ++ definitions, e.At uri p →
        (e.location.uri, e.location.span.start.line) = (uri, p.line) := by
      rintro e he ⟨there, from_start, to_stop⟩
      have line := flat e he
      rw [Position.le_def] at from_start to_stop
      rw [there, Prod.mk.injEq]
      exact ⟨rfl, by omega⟩
    intro e he e' he' covers covers'
    exact List.inj_on_of_nodup_map distinct he he'
      ((place e he covers).trans (place e' he' covers').symm)
  have among₁ : entry (some .function) "file:///a" 0 ∈ usages ++ definitions := by decide +kernel
  have among₂ : entry none "file:///d" 2 ∈ usages ++ definitions := by decide +kernel
  have covers₁ : (⟨⟨0, 0⟩, ⟨0, 3⟩⟩ : Span).ContainsPosition ⟨0, 1⟩ := by decide +kernel
  have covers₂ : (⟨⟨2, 0⟩, ⟨2, 3⟩⟩ : Span).ContainsPosition ⟨2, 3⟩ := by decide +kernel
  have both := references_symmetric apart among₁ among₂ covers₁ covers₂
  have forth := both.2.2 (.inr (.inl rfl))
  exact ⟨apart, forth, both.1.1 forth⟩

end CodeIndex
