import CodeIndex.Proofs.Symbol.Forest
import CodeIndex.Proofs.Symbol.Walk
import Mathlib.Data.List.Chain
import Mathlib.Data.List.TakeWhile

/-!
# What an outline keeps

Captures need not be nested well: they come in any order, and their spans may overlap, be inverted
or occur twice. The forest of the captures and its outline are laid down all the same.

**Theorem (`Forest.ofCaptures_eq_iff`).** A forest nests well if each capture contains those below
it but not the neighbour after it. For each list of captures there is one such forest that lists
them in order.

**Theorem (`outline_accounts`).** A walk through the outline meets the captures in order, but for
those that are names of definitions and what lies beneath them. Each symbol is named by the first
capture right below it that is labelled as its name, or by its own. Its range contains its selection
and the ranges of all symbols below it.

Which captures are left out depends on where they are in the forest, as a name may occur twice below
a definition. So the nodes of the forest are listed with a mark, which is passed down from parent to
child (`nodes`).
-/

namespace CodeIndex

open Syntax (Capture)

/-! ## Well nested forests -/

namespace CaptureTree

/-- No capture contains the neighbour after it. -/
def Apart (f : List CaptureTree) : Prop :=
  f.IsChain fun t u => ¬ t.capture.span.Contains u.capture.span

/-- In the tree, each capture contains those below it but not the neighbour after it. -/
inductive Nested : CaptureTree → Prop
  | mk {c : Capture} {ts : List CaptureTree} (inside : ∀ t ∈ ts, c.span.Contains t.capture.span)
      (apart : Apart ts) (below : ∀ t ∈ ts, t.Nested) : Nested (.mk c ts)

end CaptureTree

namespace Forest

open CaptureTree (preorder preorderAll Apart Nested)

variable {c : Capture} {cs : List Capture} {f g : Forest}

/-- Each capture contains those below it but not the neighbour after it. -/
structure WellNested (f : Forest) : Prop where
  apart : Apart f
  nested : ∀ t ∈ f, t.Nested

theorem WellNested.cons (c : Capture) (h : f.WellNested) : (cons c f).WellNested := by
  have first : (CaptureTree.mk c (f.takeWhile fun t => c.span.Contains t.capture.span)).Nested := by
    refine .mk (fun t below => ?_) ?_ fun t below =>
      h.nested t ((List.takeWhile_sublist _).subset below)
    · simpa using List.mem_takeWhile_imp below
    · exact List.IsChain.prefix h.apart (List.takeWhile_prefix _)
  refine ⟨List.isChain_cons.2 ⟨fun t next => ?_, h.apart.suffix (List.dropWhile_suffix _)⟩,
    List.forall_mem_cons.2
      ⟨first, fun t after => h.nested t ((List.dropWhile_sublist _).subset after)⟩⟩
  have outside := List.head?_dropWhile_not (fun t => c.span.Contains t.capture.span) f
  rw [Option.mem_def.1 next] at outside
  exact of_decide_eq_false outside

theorem wellNested_ofCaptures (cs : List Capture) : (ofCaptures cs).WellNested := by
  induction cs with
  | nil => exact ⟨.nil, List.forall_mem_nil _⟩
  | cons c cs ih => exact ofCaptures_cons c cs ▸ ih.cons c

theorem cons_append (inside : ∀ t ∈ f, c.span.Contains t.capture.span)
    (outside : ∀ t ∈ g.head?, ¬ c.span.Contains t.capture.span) :
    cons c (f ++ g) = .mk c f :: g := by
  have inside : ∀ t ∈ f, decide (c.span.Contains t.capture.span) = true :=
    fun t below => decide_eq_true (inside t below)
  rw [cons, List.takeWhile_append_of_pos inside, List.dropWhile_append_of_pos inside]
  cases g with
  | nil => simp
  | cons t g => simp [outside t rfl]

/-- A well nested forest is laid down from its captures. -/
theorem ofCaptures_preorderAll : ∀ f : Forest, f.WellNested → ofCaptures (preorderAll f) = f
  | [], _ => rfl
  | .mk c ts :: f, ⟨apart, nested⟩ => by
    obtain ⟨⟨inside, apart', below⟩, nested⟩ := List.forall_mem_cons.1 nested
    obtain ⟨outside, apart⟩ := List.isChain_cons.1 apart
    -- what comes after the parent does not lie in its last child either
    have rest : WellNested (ts ++ f) :=
      ⟨List.isChain_append.2 ⟨apart', apart, fun t last u next within =>
          outside u next ((inside t (List.mem_of_getLast? last)).trans within)⟩,
        List.forall_mem_append.2 ⟨below, nested⟩⟩
    rw [preorderAll, preorder, List.cons_append, ← preorderAll_append, ofCaptures_cons,
      ofCaptures_preorderAll (ts ++ f) rest, cons_append inside outside]
termination_by f => (preorderAll f).length
decreasing_by simp [preorderAll, preorder, preorderAll_append]

/-- **The forest of captures is the only well nested one that lists them in their order.** -/
theorem ofCaptures_eq_iff : ofCaptures cs = f ↔ f.WellNested ∧ preorderAll f = cs := by
  constructor
  · rintro rfl
    exact ⟨wellNested_ofCaptures cs, preorder_ofCaptures cs⟩
  · rintro ⟨nested, rfl⟩
    exact ofCaptures_preorderAll f nested

end Forest

/-! ## Names of definitions -/

namespace CaptureTree

/-- The position of the first child that is labelled as the name of the tree. -/
def nameAt (t : CaptureTree) : Nat :=
  t.children.findIdx fun u => u.capture.label = t.capture.label ++ ".name"

/-- The capture that the tree takes its name from: that child, or its own when there is none. -/
def named (t : CaptureTree) : Capture := (t.children[t.nameAt]?.getD t).capture

theorem Nested.contains_named {t : CaptureTree} (h : t.Nested) :
    t.capture.span.Contains t.named.span := by
  cases h with
  | @mk c ts inside =>
    rw [named]
    cases child : (CaptureTree.mk c ts).children[(CaptureTree.mk c ts).nameAt]? with
    | none => exact Span.contains_refl _
    | some u => exact inside u (List.mem_of_getElem? child)

mutual

/-- The nodes of a tree, parents before children, each with whether it is left out. The first child
that is labelled as its parent's name is left out, and so is everything beneath. -/
def nodes (out : Bool) : CaptureTree → List (CaptureTree × Bool)
  | mk c ts => (mk c ts, out) :: nodesAll (fun i => out || i == (mk c ts).nameAt) ts

/-- The nodes of trees side by side, where `out` tells which of the trees are left out. -/
def nodesAll (out : Nat → Bool) : List CaptureTree → List (CaptureTree × Bool)
  | [] => []
  | t :: ts => nodes (out 0) t ++ nodesAll (fun i => out (i + 1)) ts

end

mutual

theorem map_capture_nodes (out : Bool) (t : CaptureTree) :
    (nodes out t).map (·.1.capture) = preorder t := by
  cases t with
  | mk c ts => rw [nodes, List.map_cons, map_capture_nodesAll, preorder, capture]

theorem map_capture_nodesAll (out : Nat → Bool) (ts : List CaptureTree) :
    (nodesAll out ts).map (·.1.capture) = preorderAll ts := by
  cases ts with
  | nil => rfl
  | cons t ts =>
    rw [nodesAll, List.map_append, map_capture_nodes, map_capture_nodesAll, preorderAll]

end

mutual

theorem filter_nodes_true (t : CaptureTree) : (nodes true t).filter (!·.2) = [] := by
  cases t with
  | mk c ts => simpa [nodes] using filter_nodesAll_true ts

/-- Nothing is kept beneath what is left out. -/
theorem filter_nodesAll_true (ts : List CaptureTree) :
    (nodesAll (fun _ => true) ts).filter (!·.2) = [] := by
  cases ts with
  | nil => rfl
  | cons t ts =>
    rw [nodesAll, List.filter_append, filter_nodes_true, filter_nodesAll_true, List.nil_append]

end

end CaptureTree

/-! ## The walk through an outline -/

namespace Symbol

open CaptureTree (nodes nodesAll)

mutual

theorem walk_ofTree (t : CaptureTree) :
    walk (ofTree t) = ((nodes false t).filter (!·.2)).map (ofTree ·.1) := by
  cases t with
  | mk c ts =>
    have below := walkAll_ofChildren c.label ts
    simp only [nodes, Bool.false_or, List.filter_cons, Bool.not_false, if_true, List.map_cons]
    rw [ofTree, walk_mk, below]
    rfl

theorem walkAll_ofTrees (ts : List CaptureTree) :
    walkAll (ofTrees ts) = ((nodesAll (fun _ => false) ts).filter (!·.2)).map (ofTree ·.1) := by
  cases ts with
  | nil => rfl
  | cons t ts =>
    rw [ofTrees, walkAll_cons, walk_ofTree, walkAll_ofTrees, nodesAll, List.filter_append,
      List.map_append]

theorem walkAll_ofChildren (label : String) (ts : List CaptureTree) :
    walkAll (ofChildren label ts) =
      ((nodesAll (· == ts.findIdx (isNameOf label)) ts).filter (!·.2)).map (ofTree ·.1) := by
  cases ts with
  | nil => rfl
  | cons t ts =>
    rw [ofChildren, nodesAll, List.filter_append, List.map_append, List.findIdx_cons]
    cases isNameOf label t with
    | true => simpa [CaptureTree.filter_nodes_true] using walkAll_ofTrees ts
    | false => simp [walkAll_cons, walk_ofTree t, walkAll_ofChildren label ts]

end

theorem mem_walkAll {s : Symbol} {ss : List Symbol} : s ∈ walkAll ss ↔ ∃ s' ∈ ss, s ∈ s'.walk :=
  List.mem_flatMap

theorem ofTrees_eq_map (ts : List CaptureTree) : ofTrees ts = ts.map ofTree := by
  induction ts with
  | nil => rfl
  | cons t ts ih => rw [ofTrees, ih, List.map_cons]

theorem ofChildren_eq_map (label : String) (ts : List CaptureTree) :
    ofChildren label ts = (ts.eraseIdx (ts.findIdx (isNameOf label))).map ofTree := by
  induction ts with
  | nil => rfl
  | cons t ts ih =>
    rw [ofChildren, List.findIdx_cons]
    cases isNameOf label t with
    | true => exact ofTrees_eq_map ts
    | false => exact congrArg (ofTree t :: ·) ih

/-! ## Ranges -/

/-- The range of each symbol contains its selection and the ranges of its children. -/
inductive Nested : Symbol → Prop
  | mk {name : String} {kind : SymbolKind} {range selection : Span} {ss : List Symbol}
      (selected : range.Contains selection) (inside : ∀ s ∈ ss, range.Contains s.range)
      (below : ∀ s ∈ ss, s.Nested) : Nested (.mk name kind range selection ss)

/-- A tree's symbol is called by the capture that names the tree, and the other children come
below. -/
theorem ofTree_eq (t : CaptureTree) :
    ofTree t = mk t.named.text (Label.kind t.capture.label.toList) t.capture.span t.named.span
      ((t.children.eraseIdx t.nameAt).map ofTree) := by
  obtain ⟨c, ts⟩ := t
  have found : ts.find? (isNameOf c.label) = ts[(CaptureTree.mk c ts).nameAt]? :=
    List.find?_eq_getElem?_findIdx
  rw [ofTree, found, ofChildren_eq_map, CaptureTree.named, CaptureTree.children]
  cases ts[(CaptureTree.mk c ts).nameAt]? <;> rfl

theorem range_ofTree (t : CaptureTree) : (ofTree t).range = t.capture.span := by
  rw [ofTree_eq, range]

theorem nested_ofTree {t : CaptureTree} (h : t.Nested) : (ofTree t).Nested := by
  induction h with
  | @mk c ts inside apart below ih =>
    rw [ofTree_eq]
    have named := (CaptureTree.Nested.mk inside apart below).contains_named
    refine .mk named (fun s child => ?_) fun s child => ?_
    · obtain ⟨t, other, rfl⟩ := List.mem_map.1 child
      exact range_ofTree t ▸ inside t (List.mem_of_mem_eraseIdx other)
    · obtain ⟨t, other, rfl⟩ := List.mem_map.1 child
      exact ih t (List.mem_of_mem_eraseIdx other)

theorem Nested.of_mem_walk {s d : Symbol} (h : s.Nested) (below : d ∈ s.walk) : d.Nested := by
  induction h with
  | mk selected inside nested ih =>
    rw [walk_mk, List.mem_cons, mem_walkAll] at below
    rcases below with rfl | ⟨s, child, below⟩
    · exact .mk selected inside nested
    · exact ih s child below

theorem Nested.contains {s d : Symbol} (h : s.Nested) (below : d ∈ s.walk) :
    s.range.Contains d.range := by
  induction h with
  | mk selected inside nested ih =>
    rw [walk_mk, List.mem_cons, mem_walkAll] at below
    rcases below with rfl | ⟨s, child, below⟩
    · exact Span.contains_refl _
    · exact (inside s child).trans (ih s child below)

theorem Nested.selected {s : Symbol} (h : s.Nested) : s.range.Contains s.selection := by
  cases h with
  | mk selected => exact selected

end Symbol

/-- The symbols of an outline have their selections and all that is below them in their ranges. -/
theorem nested_of_mem_outline {cs : List Capture} {s : Symbol}
    (h : s ∈ Symbol.walkAll (outline cs)) : s.Nested := by
  obtain ⟨r, root, below⟩ := Symbol.mem_walkAll.1 h
  rw [outline, Symbol.ofTrees_eq_map] at root
  obtain ⟨t, tree, rfl⟩ := List.mem_map.1 root
  exact (Symbol.nested_ofTree ((Forest.wellNested_ofCaptures cs).nested t tree)).of_mem_walk below

/-- **Outlines account for all captures.** The forest is the well nested one that lists the captures
in their order, and its nodes bear just these captures. A walk through the outline meets the nodes
of the forest, in order, that are not left out (`CaptureTree.nodes`). Each symbol has its name and
its selection from the first child that is labelled as its name, or from its own capture, and its
children from the others. Its range is that of its capture, and contains the selection and the
ranges of all symbols below. -/
theorem outline_accounts (cs : List Capture) :
    let nodes := CaptureTree.nodesAll (fun _ => false) (Forest.ofCaptures cs)
    (∀ f, Forest.ofCaptures cs = f ↔ f.WellNested ∧ CaptureTree.preorderAll f = cs) ∧
    nodes.map (·.1.capture) = cs ∧
    (Symbol.walkAll (outline cs)).map
        (fun s => (s.name, s.kind, s.range, s.selection, s.children.map (·.range))) =
      (nodes.filter (!·.2)).map (fun (t, _) =>
        (t.named.text, Label.kind t.capture.label.toList, t.capture.span, t.named.span,
          (t.children.eraseIdx t.nameAt).map (·.capture.span))) ∧
    ∀ s ∈ Symbol.walkAll (outline cs),
      s.range.Contains s.selection ∧ ∀ d ∈ s.walk, s.range.Contains d.range := by
  intro nodes
  refine ⟨fun f => Forest.ofCaptures_eq_iff, ?_, ?_, fun s met => ?_⟩
  · rw [CaptureTree.map_capture_nodesAll, Forest.preorder_ofCaptures]
  · rw [outline, Symbol.walkAll_ofTrees, List.map_map]
    refine List.map_congr_left fun n _ => ?_
    have ranges : Symbol.range ∘ Symbol.ofTree = (·.capture.span) := funext Symbol.range_ofTree
    rw [Function.comp_apply, Symbol.ofTree_eq, Symbol.children, List.map_map, ranges]
    rfl
  · have nested := nested_of_mem_outline met
    exact ⟨nested.selected, fun d below => nested.contains below⟩

/-- Of two names the first is taken, with what lies in it. The second is a symbol by itself. -/
example :
    let capture (label : String) (start stop : Nat) (text : String) : Capture :=
      ⟨label, ⟨⟨0, start⟩, ⟨0, stop⟩⟩, text⟩
    let cs := [capture "definition.class" 0 40 "class foo ...",
      capture "definition.class.name" 6 12 "foo", capture "definition.field" 8 9 "o",
      capture "definition.class.name" 14 17 "bar"]
    (Symbol.walkAll (outline cs)).map (fun s => (s.name, s.range, s.selection)) =
      [("foo", ⟨⟨0, 0⟩, ⟨0, 40⟩⟩, ⟨⟨0, 6⟩, ⟨0, 12⟩⟩),
        ("bar", ⟨⟨0, 14⟩, ⟨0, 17⟩⟩, ⟨⟨0, 14⟩, ⟨0, 17⟩⟩)] := by decide +kernel

end CodeIndex
