import CodeIndex.Symbol.Outline
import Mathlib.Data.List.Nodup

/-!
# The walk from a symbol down

A walk keeps the symbols that it has yet to meet on a stack. From the top down these are the
children of the symbol met last, the siblings after it, the siblings after its parent, and so on.

**The invariant** (`Walk.listed_step`). No turn changes what the walk lists in all: the symbols that
it has met, and then those on the stack from the top down, each followed by those below it. One turn
takes one symbol off this rest (`Walk.left_step`), so the walk ends.

**Theorem (`walk_is_preorder`).** The walk ends after as many turns as there are symbols. It lists
the symbol itself and then, child by child, the walks of the children. It comes to each place in the
tree once, and to parents before their children.

Symbols at different places may be equal, so the places are told apart by the paths that lead to
them (`paths`).
-/

namespace CodeIndex

namespace Symbol

mutual

/-- The symbol and those below it, parents first. -/
def preorder : Symbol → List Symbol
  | mk n k r s cs => mk n k r s cs :: preorderAll cs

def preorderAll : List Symbol → List Symbol
  | [] => []
  | s :: ss => preorder s ++ preorderAll ss

end

theorem preorder_eq (s : Symbol) : s.preorder = s :: preorderAll s.children := by
  cases s with
  | mk => rfl

theorem preorderAll_append (ss ss' : List Symbol) :
    preorderAll (ss ++ ss') = preorderAll ss ++ preorderAll ss' := by
  induction ss with
  | nil => rfl
  | cons s ss ih => rw [List.cons_append, preorderAll, preorderAll, ih, List.append_assoc]

/-! ## The stack -/

namespace Walk

variable {w w' : Walk}

/-- All that the walk lists: what it has met, and what is on the stack and beneath. -/
def listed (w : Walk) : List Symbol := w.met.toList ++ preorderAll w.stack.toList.reverse

theorem listed_step (h : w.step = some w') : w'.listed = w.listed := by
  obtain ⟨below, s, stack, rfl⟩ := exists_of_step h
  have top : w.stack.toList.reverse = s :: below.toList.reverse := by simp [stack]
  have children : (below ++ s.children.reverse).toList.reverse =
      s.children ++ below.toList.reverse := by simp
  rw [listed, listed, top, children, preorderAll, preorder_eq, preorderAll_append,
    Array.toList_push, List.append_assoc, List.singleton_append, List.cons_append]

theorem stack_of_step_eq_none (h : w.step = none) : w.stack = #[] := by
  simpa [step] using h

theorem toList_run (w : Walk) : w.run.toList = w.listed := by
  fun_induction run w with
  | case1 w ended => simp [listed, stack_of_step_eq_none ended, preorderAll]
  | case2 w w' turn ih => rw [ih, listed_step turn]

/-- The walk after a number of turns, if there are that many. -/
def after? : Nat → Walk → Option Walk
  | 0, w => some w
  | n + 1, w => w.step.bind (after? n)

/-- The walk takes one turn for each symbol that is left, and then the stack is empty. -/
theorem after?_left (w : Walk) : after? w.left w = some ⟨w.run, #[]⟩ := by
  fun_induction run w with
  | case1 w ended =>
    obtain ⟨met, stack⟩ := w
    obtain rfl : stack = #[] := stack_of_step_eq_none ended
    rfl
  | case2 w w' turn ih => rw [left_step turn, after?, turn, Option.bind_some, ih]

end Walk

theorem walk_eq_preorder (s : Symbol) : s.walk = s.preorder := by
  rw [walk, Walk.toList_run]
  simp [Walk.listed, Walk.start, preorderAll]

theorem walkAll_eq_preorderAll (ss : List Symbol) : walkAll ss = preorderAll ss := by
  induction ss with
  | nil => rfl
  | cons s ss ih => rw [walkAll, List.flatMap_cons, ← walkAll, ih, walk_eq_preorder, preorderAll]

theorem walkAll_cons (s : Symbol) (ss : List Symbol) : walkAll (s :: ss) = walk s ++ walkAll ss :=
  List.flatMap_cons

theorem walk_mk (n : String) (k : SymbolKind) (r s : Span) (cs : List Symbol) :
    walk (mk n k r s cs) = mk n k r s cs :: walkAll cs := by
  rw [walk_eq_preorder, preorder, walkAll_eq_preorderAll]

/-! ## Paths -/

/-- The symbol at the end of a path, which tells at each symbol the child to go on to. -/
def at? : Symbol → List Nat → Option Symbol
  | s, [] => some s
  | s, i :: p => s.children[i]?.bind (at? · p)

mutual

/-- The paths from a symbol to itself and to those below it, parents first. -/
def paths : Symbol → List (List Nat)
  | mk _ _ _ _ cs => [] :: pathsAll 0 cs

/-- The paths through children of a symbol, the first of which is the `i`th. -/
def pathsAll (i : Nat) : List Symbol → List (List Nat)
  | [] => []
  | s :: ss => (paths s).map (i :: ·) ++ pathsAll (i + 1) ss

end

mutual

theorem map_at?_paths (s : Symbol) : s.paths.map s.at? = s.preorder.map some := by
  cases s with
  | mk n k r s cs =>
    rw [paths, preorder, List.map_cons, map_at?_pathsAll _ 0 cs rfl, List.map_cons, at?]

theorem map_at?_pathsAll (parent : Symbol) (i : Nat) (ss : List Symbol)
    (children : parent.children.drop i = ss) :
    (pathsAll i ss).map parent.at? = (preorderAll ss).map some := by
  cases ss with
  | nil => rfl
  | cons s ss =>
    have child : parent.children[i]? = some s := by
      rw [← List.head?_drop, children, List.head?_cons]
    have rest : parent.children.drop (i + 1) = ss := by
      rw [← List.tail_drop, children, List.tail_cons]
    have through : parent.at? ∘ (i :: ·) = s.at? := by
      funext p
      rw [Function.comp_apply, at?, child, Option.bind_some]
    rw [pathsAll, preorderAll, List.map_append, List.map_append, List.map_map, through,
      map_at?_paths s, map_at?_pathsAll parent (i + 1) ss rest]

end

theorem mem_pathsAll {ss : List Symbol} {s : Symbol} {p : List Nat} {j : Nat} (i : Nat)
    (child : ss[j]? = some s) (below : p ∈ s.paths) : (i + j) :: p ∈ pathsAll i ss := by
  induction ss generalizing i j with
  | nil => simp at child
  | cons s' ss ih =>
    rw [pathsAll, List.mem_append]
    cases j with
    | zero =>
      obtain rfl : s' = s := by simpa using child
      exact .inl (List.mem_map_of_mem below)
    | succ j =>
      rw [Nat.add_comm j, ← Nat.add_assoc]
      exact .inr (ih (i + 1) child)

/-- There is a path to each place in the tree, and to no other. -/
theorem mem_paths {s : Symbol} {p : List Nat} : p ∈ s.paths ↔ (s.at? p).isSome := by
  constructor
  · intro listed
    have found : s.at? p ∈ s.preorder.map some := map_at?_paths s ▸ List.mem_map_of_mem listed
    obtain ⟨t, -, same⟩ := List.mem_map.1 found
    exact same ▸ rfl
  · intro found
    induction p generalizing s with
    | nil =>
      cases s with
      | mk => exact List.mem_cons_self
    | cons i p ih =>
      obtain ⟨t, found⟩ := Option.isSome_iff_exists.1 found
      obtain ⟨child, below, found⟩ := Option.bind_eq_some_iff.1 found
      have listed := mem_pathsAll 0 below (ih (Option.isSome_iff_exists.2 ⟨t, found⟩))
      cases s with
      | mk n k r s cs => exact List.mem_cons_of_mem _ (Nat.zero_add i ▸ listed)

theorem exists_cons_of_mem_pathsAll {i : Nat} {ss : List Symbol} {p : List Nat}
    (h : p ∈ pathsAll i ss) : ∃ j q, p = j :: q ∧ i ≤ j := by
  induction ss generalizing i with
  | nil => simp [pathsAll] at h
  | cons s ss ih =>
    rw [pathsAll, List.mem_append, List.mem_map] at h
    rcases h with ⟨q, -, rfl⟩ | later
    · exact ⟨i, q, rfl, Nat.le_refl i⟩
    · obtain ⟨j, q, rfl, after⟩ := ih later
      exact ⟨j, q, rfl, Nat.le_of_succ_le after⟩

mutual

/-- No path goes on from one that comes later. -/
theorem pairwise_paths (s : Symbol) : s.paths.Pairwise fun p q => ¬ q <+: p := by
  cases s with
  | mk n k r s cs =>
    rw [paths, List.pairwise_cons]
    refine ⟨fun q below leads => ?_, pairwise_pathsAll 0 cs⟩
    obtain ⟨j, q, rfl, -⟩ := exists_cons_of_mem_pathsAll below
    exact List.cons_ne_nil j q (List.prefix_nil.1 leads)

theorem pairwise_pathsAll (i : Nat) (ss : List Symbol) :
    (pathsAll i ss).Pairwise fun p q => ¬ q <+: p := by
  cases ss with
  | nil => exact .nil
  | cons s ss =>
    rw [pathsAll, List.pairwise_append, List.pairwise_map]
    refine ⟨?_, pairwise_pathsAll (i + 1) ss, fun p hp q hq leads => ?_⟩
    · exact (pairwise_paths s).imp fun apart leads => apart (List.cons_prefix_cons.1 leads).2
    · obtain ⟨p, -, rfl⟩ := List.mem_map.1 hp
      obtain ⟨j, q, rfl, later⟩ := exists_cons_of_mem_pathsAll hq
      exact Nat.ne_of_gt later (List.cons_prefix_cons.1 leads).1

end

theorem nodup_paths (s : Symbol) : s.paths.Nodup := by
  refine (pairwise_paths s).imp ?_
  rintro p _ apart rfl
  exact apart (List.prefix_refl p)

/-- **A walk lists every place once, parents before children.** From any symbol down, the walk ends
after as many turns as there are symbols, and its stack is empty then. It lists the symbol itself
and then the walks of its children, one after the other. It lists the symbols at the ends of the
paths, one for each path in the tree, and no path goes on from one that comes later. -/
theorem walk_is_preorder (s : Symbol) :
    Walk.after? s.size (.start s) = some ⟨s.walk.toArray, #[]⟩ ∧
    s.walk = s :: s.children.flatMap walk ∧
    s.walk.map some = s.paths.map s.at? ∧
    (∀ p, p ∈ s.paths ↔ (s.at? p).isSome) ∧ s.paths.Nodup ∧
    s.paths.Pairwise fun p q => ¬ q <+: p := by
  refine ⟨?_, ?_, ?_, fun p => mem_paths, nodup_paths s, pairwise_paths s⟩
  · have turns : (Walk.start s).left = s.size := by simp [Walk.left, Walk.start, sizeAll]
    rw [← turns, Walk.after?_left, walk, Array.toArray_toList]
  · cases s with
    | mk n k r s cs => exact walk_mk n k r s cs
  · rw [walk_eq_preorder, map_at?_paths]

/-- The third child is like the first, and is met again with what is below it. -/
example :
    let symbol (name : String) (children : List Symbol) : Symbol :=
      mk name .class ⟨⟨0, 0⟩, ⟨0, 1⟩⟩ ⟨⟨0, 0⟩, ⟨0, 1⟩⟩ children
    let s := symbol "a" [symbol "b" [symbol "c" []], symbol "d" [], symbol "b" [symbol "c" []]]
    s.walk.map (·.name) = ["a", "b", "c", "d", "b", "c"] ∧
      s.paths = [[], [0], [0, 0], [1], [2], [2, 0]] := by decide +kernel

end Symbol

end CodeIndex
