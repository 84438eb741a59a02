import CodeIndex.Proofs.Symbol.Outline
import Mathlib.Order.Bounds.Basic

/-!
# Nesting in document order

Queries report captures in document order: by start, and the longer span first when two start
together. On such captures, where spans are not empty and no two of them overlap in part
(`Arranged`), the forest is the nesting of the spans.

**Theorem (`forest_is_nesting`).** A capture lies beneath another if and only if it comes after it
and its span lies in that one's. Its parent is the last such capture, and it is a root when there is
none. Children of one parent, and roots, follow one another without overlap.

A capture that does not contain the next one ends before that one starts, so it contains none of
those to come (`Arranged.contains_or_before`). This is why nothing is lost when a capture is closed
for good at the first one that lies outside.

The nodes of a forest are told apart by their positions in it, as a capture may occur twice. So each
node is listed with the positions of those above it (`lineage`).
-/

namespace CodeIndex

open Syntax (Capture)

/-! ## Spans one after the other -/

namespace Span

variable {a b c : Span}

/-- `a` ends before `b` starts. They may touch. -/
def Before (a b : Span) : Prop := a.stop ≤ b.start

theorem Before.not_contains (h : a.Before b) (nonempty : b.start < b.stop) : ¬ a.Contains b :=
  fun inside => Position.lt_irrefl _
    (Position.lt_of_lt_of_le nonempty (Position.le_trans inside.2 h))

theorem Before.of_contains (h : a.Before b) (inside : b.Contains c) : a.Before c :=
  Position.le_trans h inside.1

theorem Before.trans (h : a.Before b) (nonempty : b.start < b.stop) (h' : b.Before c) :
    a.Before c :=
  Position.le_trans h (Position.le_trans (Position.le_of_lt nonempty) h')

end Span

/-! ## Captures in document order -/

theorem start_le_of_before {c d : Capture} (h : c.before d) : c.span.start ≤ d.span.start := by
  simp only [Capture.before, Bool.or_eq_true, Bool.and_eq_true, decide_eq_true_eq] at h
  rcases h with first | ⟨same, -⟩
  · exact Position.le_of_lt first
  · exact same ▸ Position.le_refl _

/-- Captures in document order: no span is empty, and any two are nested or disjoint. -/
structure Arranged (cs : List Capture) : Prop where
  ordered : cs.Pairwise fun c d => Capture.before c d
  nonempty : ∀ c ∈ cs, c.span.start < c.span.stop
  nested : cs.Pairwise fun c d => ¬ c.span.PartiallyOverlaps d.span

namespace Arranged

variable {c : Capture} {cs ds : List Capture}

theorem sublist (h : Arranged cs) (part : ds.Sublist cs) : Arranged ds :=
  ⟨h.ordered.sublist part, fun d hd => h.nonempty d (part.subset hd), h.nested.sublist part⟩

theorem tail (h : Arranged (c :: cs)) : Arranged cs := h.sublist (List.sublist_cons_self c cs)

theorem contains_or_before (h : Arranged cs) :
    cs.Pairwise fun c d => c.span.Contains d.span ∨ c.span.Before d.span := by
  refine (h.ordered.and h.nested).imp_of_mem fun {c d} _ hd ⟨ordered, nested⟩ => ?_
  have start := start_le_of_before ordered
  by_cases inside : c.span.Contains d.span
  · exact .inl inside
  refine .inr (Classical.byContradiction fun later =>
    nested ⟨⟨?_, ?_⟩, inside, fun around => inside ?_⟩)
  · exact Position.lt_of_le_of_lt start (h.nonempty d hd)
  · exact Position.not_le.1 later
  · simp only [Capture.before, Bool.or_eq_true, Bool.and_eq_true, decide_eq_true_eq] at ordered
    rcases ordered with first | ⟨same, longer⟩
    · exact absurd (Position.lt_of_lt_of_le first around.1) (Position.lt_irrefl _)
    · exact ⟨same ▸ Position.le_refl _, longer⟩

theorem head_contains_or_before (h : Arranged (c :: cs)) :
    ∀ d ∈ cs, c.span.Contains d.span ∨ c.span.Before d.span :=
  (List.pairwise_cons.1 h.contains_or_before).1

end Arranged

/-! ## Positions in a forest -/

namespace CaptureTree

mutual

/-- The nodes of a tree whose root stands at position `i`, parents before children, each with the
positions of the nodes above it, the nearest first. -/
def lineage (above : List Nat) (i : Nat) : CaptureTree → List (CaptureTree × List Nat)
  | mk c ts => (mk c ts, above) :: lineages (i :: above) (i + 1) ts

/-- The nodes of trees side by side, the first of which stands at position `i`. -/
def lineages (above : List Nat) (i : Nat) : List CaptureTree → List (CaptureTree × List Nat)
  | [] => []
  | t :: ts => lineage above i t ++ lineages above (i + (preorder t).length) ts

end

mutual

theorem map_capture_lineage (above : List Nat) (i : Nat) (t : CaptureTree) :
    (lineage above i t).map (·.1.capture) = preorder t := by
  cases t with
  | mk c ts => rw [lineage, List.map_cons, map_capture_lineages, preorder, capture]

/-- But for what is above them, the nodes are those that the forest lists. -/
theorem map_capture_lineages (above : List Nat) (i : Nat) (ts : List CaptureTree) :
    (lineages above i ts).map (·.1.capture) = preorderAll ts := by
  cases ts with
  | nil => rfl
  | cons t ts =>
    rw [lineages, List.map_append, map_capture_lineage, map_capture_lineages, preorderAll]

end

mutual

theorem lineage_append (below above : List Nat) (i : Nat) (t : CaptureTree) :
    lineage (below ++ above) i t = (lineage below i t).map fun n => (n.1, n.2 ++ above) := by
  cases t with
  | mk c ts =>
    rw [lineage, lineage, List.map_cons, ← List.cons_append, lineages_append]

/-- What is above all trees is above each node, further away than what lies between. -/
theorem lineages_append (below above : List Nat) (i : Nat) (ts : List CaptureTree) :
    lineages (below ++ above) i ts = (lineages below i ts).map fun n => (n.1, n.2 ++ above) := by
  cases ts with
  | nil => rfl
  | cons t ts => rw [lineages, lineages, List.map_append, lineage_append, lineages_append]

end

theorem capture_mem_preorderAll {above : List Nat} {i : Nat} {ts : List CaptureTree}
    {n : CaptureTree × List Nat} (hn : n ∈ lineages above i ts) : n.1.capture ∈ preorderAll ts :=
  map_capture_lineages above i ts ▸ List.mem_map_of_mem hn

theorem lineages_beside (above : List Nat) (i : Nat) (f g : List CaptureTree) :
    lineages above i (f ++ g) =
      lineages above i f ++ lineages above (i + (preorderAll f).length) g := by
  induction f generalizing i with
  | nil => simp [lineages, preorderAll]
  | cons t f ih => simp [lineages, preorderAll, ih, Nat.add_assoc]

theorem mem_preorderAll {c : Capture} {ts : List CaptureTree} :
    c ∈ preorderAll ts ↔ ∃ t ∈ ts, c ∈ preorder t := by
  induction ts with
  | nil => simp [preorderAll]
  | cons t ts ih => simp [preorderAll, ih]

theorem capture_mem_preorder (t : CaptureTree) : t.capture ∈ preorder t := by
  cases t with
  | mk c ts => exact List.mem_cons_self

theorem Nested.contains {t : CaptureTree} (h : t.Nested) :
    ∀ c ∈ preorder t, t.capture.span.Contains c.span := by
  induction h with
  | mk inside _ _ ih =>
    intro d hd
    rw [preorder, List.mem_cons, mem_preorderAll] at hd
    rcases hd with rfl | ⟨t, child, hd⟩
    · exact Span.contains_refl _
    · exact (inside t child).trans (ih t child d hd)

/-- The trees follow one another: each ends before the next ones start. -/
def SideBySide (f : List CaptureTree) : Prop :=
  f.Pairwise fun t u => t.capture.span.Before u.capture.span

end CaptureTree

namespace Forest

open CaptureTree (preorder preorderAll lineage lineages SideBySide)

variable {c : Capture} {cs : List Capture} {f : Forest}

/-- Of trees side by side, a capture ends before all from the first on that it does not contain. -/
theorem before_of_mem_dropWhile (h : Arranged (c :: preorderAll f)) (side : SideBySide f) :
    ∀ t ∈ f.dropWhile fun t => c.span.Contains t.capture.span, c.span.Before t.capture.span := by
  induction f with
  | nil => simp
  | cons t f ih =>
    obtain ⟨first, side⟩ := List.pairwise_cons.1 side
    have root : t.capture ∈ preorderAll (t :: f) :=
      List.mem_append_left _ t.capture_mem_preorder
    by_cases inside : c.span.Contains t.capture.span
    · have rest := h.sublist ((List.sublist_append_right (preorder t) (preorderAll f)).cons_cons c)
      simpa only [List.dropWhile_cons, inside, decide_true, if_true] using ih rest side
    · have before := (h.head_contains_or_before _ root).resolve_left inside
      have wide := h.tail.nonempty _ root
      simp only [List.dropWhile_cons, inside, decide_false, Bool.false_eq_true, if_false]
      exact List.forall_mem_cons.2 ⟨before, fun u hu => before.trans wide (first u hu)⟩

/-- What spans hand down to the spans in them holds for all nodes if it holds for the roots. -/
theorem forall_mem_lineages {p : Span → Prop} (down : ∀ a b : Span, a.Contains b → p a → p b)
    (nested : ∀ t ∈ f, t.Nested) (roots : ∀ t ∈ f, p t.capture.span) (above : List Nat) (i : Nat) :
    ∀ n ∈ lineages above i f, p n.1.capture.span := by
  intro n hn
  obtain ⟨t, ht, within⟩ := CaptureTree.mem_preorderAll.1 (CaptureTree.capture_mem_preorderAll hn)
  exact down _ _ ((nested t ht).contains _ within) (roots t ht)

/-- A capture that is put before a forest comes above just the nodes that it contains. -/
theorem lineages_cons (h : Arranged (c :: preorderAll f)) (side : SideBySide f)
    (nested : ∀ t ∈ f, t.Nested) (i : Nat) :
    lineages [] i (cons c f) =
      (.mk c (f.takeWhile fun t => c.span.Contains t.capture.span), []) ::
        (lineages [] (i + 1) f).map fun n =>
          (n.1, if c.span.Contains n.1.capture.span then n.2 ++ [i] else n.2) := by
  have after := before_of_mem_dropWhile h side
  have inside : ∀ t ∈ f.takeWhile fun t => c.span.Contains t.capture.span,
      c.span.Contains t.capture.span := fun t ht => by simpa using List.mem_takeWhile_imp ht
  have parts : (f.takeWhile fun t => c.span.Contains t.capture.span) ++
      (f.dropWhile fun t => c.span.Contains t.capture.span) = f := List.takeWhile_append_dropWhile
  rw [cons, lineages, lineage, List.cons_append]
  generalize (f.takeWhile fun t => c.span.Contains t.capture.span) = taken at *
  generalize (f.dropWhile fun t => c.span.Contains t.capture.span) = left at *
  subst parts
  obtain ⟨nestedTaken, nestedLeft⟩ := List.forall_mem_append.1 nested
  have length : (preorder (.mk c taken)).length = 1 + (preorderAll taken).length := by
    rw [preorder, List.length_cons, Nat.add_comm]
  rw [CaptureTree.lineages_beside, List.map_append, length, ← Nat.add_assoc, ← List.nil_append [i],
    CaptureTree.lineages_append, List.nil_append]
  refine congrArg (_ :: ·) (congrArg₂ (· ++ ·) ?_ ?_)
  · have all := forall_mem_lineages (fun _ _ down around => around.trans down) nestedTaken inside
      [] (i + 1)
    exact List.map_congr_left fun n hn => by rw [if_pos (all n hn)]
  · have all := forall_mem_lineages (fun _ _ down before => before.of_contains down) nestedLeft
      after [] (i + 1 + (preorderAll taken).length)
    refine (List.map_id' _).symm.trans (List.map_congr_left fun n hn => ?_)
    have listed : n.1.capture ∈ preorderAll (taken ++ left) := by
      rw [preorderAll_append]
      exact List.mem_append_right _ (CaptureTree.capture_mem_preorderAll hn)
    rw [if_neg ((all n hn).not_contains (h.tail.nonempty _ listed))]

/-! ### The forest of arranged captures -/

theorem sideBySide_ofCaptures (h : Arranged cs) : SideBySide (ofCaptures cs) := by
  induction cs with
  | nil => exact .nil
  | cons c cs ih =>
    have side := ih h.tail
    rw [← preorder_ofCaptures cs] at h
    rw [ofCaptures_cons]
    exact List.pairwise_cons.2
      ⟨before_of_mem_dropWhile h side, side.sublist (List.dropWhile_sublist _)⟩

/-- The first capture is a root, and it comes above the nodes that it contains. -/
theorem lineages_ofCaptures_cons (h : Arranged (c :: cs)) (i : Nat) :
    lineages [] i (ofCaptures (c :: cs)) =
      (.mk c ((ofCaptures cs).takeWhile fun t => c.span.Contains t.capture.span), []) ::
        (lineages [] (i + 1) (ofCaptures cs)).map fun n =>
          (n.1, if c.span.Contains n.1.capture.span then n.2 ++ [i] else n.2) := by
  have side := sideBySide_ofCaptures h.tail
  rw [← preorder_ofCaptures cs] at h
  rw [ofCaptures_cons]
  exact lineages_cons h side (wellNested_ofCaptures cs).nested i

theorem sideBySide_children (h : Arranged cs) (i : Nat) :
    ∀ n ∈ lineages [] i (ofCaptures cs), SideBySide n.1.children := by
  induction cs generalizing i with
  | nil => simp [ofCaptures_nil, lineages]
  | cons c cs ih =>
    rw [lineages_ofCaptures_cons h, List.forall_mem_cons, List.forall_mem_map]
    exact ⟨(sideBySide_ofCaptures h.tail).sublist (List.takeWhile_sublist _), ih h.tail (i + 1)⟩

/-- Above a node are the positions of the captures before it that contain it, the last first. -/
theorem lineages_ofCaptures (h : Arranged cs) (i k : Nat) {t : CaptureTree} {above : List Nat}
    (hk : (lineages [] i (ofCaptures cs))[k]? = some (t, above)) :
    above = ((List.range k).reverse.filter fun j =>
      ∃ c ∈ cs[j]?, c.span.Contains t.capture.span).map (i + ·) := by
  induction cs generalizing i k above with
  | nil => simp [ofCaptures_nil, lineages] at hk
  | cons c cs ih =>
    rw [lineages_ofCaptures_cons h] at hk
    cases k with
    | zero =>
      obtain ⟨-, rfl⟩ : _ ∧ [] = above := by simpa using hk
      rfl
    | succ k =>
      rw [List.getElem?_cons_succ, List.getElem?_map, Option.map_eq_some_iff] at hk
      obtain ⟨⟨t, nearer⟩, hk, same⟩ := hk
      obtain ⟨rfl, rfl⟩ := Prod.mk.inj same
      rw [ih h.tail (i + 1) k hk, List.range_succ_eq_map, List.reverse_cons, ← List.map_reverse,
        List.filter_append, List.filter_map, List.map_append, List.map_map]
      have later :
          (fun j => decide (∃ d ∈ (c :: cs)[j]?, d.span.Contains t.capture.span)) ∘ Nat.succ =
            fun j => decide (∃ d ∈ cs[j]?, d.span.Contains t.capture.span) := rfl
      have shifted : (i + ·) ∘ Nat.succ = (i + 1 + ·) := by
        funext j
        simp only [Function.comp_apply, Nat.succ_eq_add_one]
        omega
      rw [later, shifted]
      by_cases inside : c.span.Contains t.capture.span <;> simp [inside]

end Forest

/-! ## Descending positions -/

theorem head?_filter_reverse_range (p : Nat → Bool) (k j : Nat) :
    ((List.range k).reverse.filter p).head? = some j ↔ IsGreatest {j | j < k ∧ p j} j := by
  have descending : ((List.range k).reverse.filter p).Pairwise (· > ·) :=
    (List.pairwise_reverse.2 List.pairwise_lt_range).filter p
  have members : {j | j < k ∧ p j} = {j | j ∈ (List.range k).reverse.filter p} := by
    ext j
    simp
  rw [members]
  cases found : (List.range k).reverse.filter p with
  | nil => simp [IsGreatest]
  | cons a l =>
    rw [found] at descending
    have greatest : IsGreatest {j | j ∈ a :: l} a :=
      ⟨List.mem_cons_self, fun j hj => by
        rcases List.mem_cons.1 hj with rfl | hj
        · exact Nat.le_refl _
        · exact Nat.le_of_lt (List.rel_of_pairwise_cons descending hj)⟩
    rw [List.head?_cons, Option.some_inj]
    exact ⟨fun same => same ▸ greatest, fun h => greatest.unique h⟩

/-- **The forest is the nesting of the spans.** Its nodes bear the captures in their order. Above
the node at `i` stand just the captures before it whose spans contain its own; its parent is the
last of them, and it is a root when there is none. Children of one node, and roots, follow one
another. -/
theorem forest_is_nesting {cs : List Capture} (arranged : Arranged cs) :
    let nodes := CaptureTree.lineages [] 0 (Forest.ofCaptures cs)
    nodes.map (·.1.capture) = cs ∧
    (∀ (i : Nat) (t : CaptureTree) (above : List Nat), nodes[i]? = some (t, above) →
      let around := {j | j < i ∧ ∃ c ∈ cs[j]?, c.span.Contains t.capture.span}
      (∀ j, j ∈ above ↔ j ∈ around) ∧ (∀ j, above.head? = some j ↔ IsGreatest around j) ∧
        (above = [] ↔ around = ∅) ∧ CaptureTree.SideBySide t.children) ∧
    CaptureTree.SideBySide (Forest.ofCaptures cs) := by
  intro nodes
  refine ⟨?_, fun i t above hi => ?_, Forest.sideBySide_ofCaptures arranged⟩
  · rw [CaptureTree.map_capture_lineages, Forest.preorder_ofCaptures]
  · have placed := Forest.lineages_ofCaptures arranged 0 i hi
    simp only [Nat.zero_add, List.map_id'] at placed
    intro around
    have members : ∀ j, j ∈ above ↔ j ∈ around := by
      intro j
      simp [placed, around]
    have listed := List.mem_of_getElem? hi
    refine ⟨members, fun j => ?_, ?_, Forest.sideBySide_children arranged 0 _ listed⟩
    · rw [placed, head?_filter_reverse_range]
      simp only [decide_eq_true_eq, around]
    · rw [List.eq_nil_iff_forall_not_mem, Set.eq_empty_iff_forall_notMem]
      exact forall_congr' fun j => not_congr (members j)

/-- Two captures with one span that starts a class, and a method that touches them. The second is
beneath the first, the method beneath the class alone. -/
theorem forest_is_nesting_touching :
    let capture (label : String) (start stop : Nat) : Capture :=
      ⟨label, ⟨⟨0, start⟩, ⟨0, stop⟩⟩, ""⟩
    let cs := [capture "definition.class" 0 10, capture "definition.field" 0 3,
      capture "definition.field.name" 0 3, capture "definition.method" 3 10,
      capture "definition.class" 10 12]
    let nodes := CaptureTree.lineages [] 0 (Forest.ofCaptures cs)
    Arranged cs ∧ nodes.map (·.2) = [[], [0], [1, 0], [0], []] ∧
      ∃ n ∈ nodes[3]?,
        IsGreatest {j | j < 3 ∧ ∃ c ∈ cs[j]?, c.span.Contains n.1.capture.span} 0 := by
  intro capture cs nodes
  have arranged : Arranged cs := ⟨by decide +kernel, by decide +kernel, by decide +kernel⟩
  refine ⟨arranged, by decide +kernel, ⟨(nodes[3]?.get rfl).1, [0]⟩, rfl, ?_⟩
  exact (((forest_is_nesting arranged).2.1 3 _ [0] rfl).2.1 0).1 rfl

end CodeIndex
