import CodeIndex.Symbol.Outline

/-!
# Nesting captures from the back

A pass with a stack nests captures from the first to the last. The same forest comes about from the
last to the first, when each capture takes the trees behind it that it contains (`Forest.cons`).

**The invariant** (`Nesting.absorb`). Put a forest behind the captures that are open: each takes the
trees at the front that it contains, the innermost first, and leaves the others to those beneath it
on the stack. It makes no difference whether the pass takes a capture before, or the forest begins
with it (`absorb_take`).

Main results: `Forest.ofCaptures_eq_foldr`, `Forest.preorder_ofCaptures`.
-/

namespace CodeIndex

open Syntax (Capture)

namespace CaptureTree

mutual

/-- The captures of a tree, parents before children. -/
def preorder : CaptureTree → List Capture
  | mk c cs => c :: preorderAll cs

def preorderAll : List CaptureTree → List Capture
  | [] => []
  | t :: ts => preorder t ++ preorderAll ts

end

end CaptureTree

/-- Put a capture before a forest: the trees at its front that the capture contains come under
it. -/
def Forest.cons (c : Capture) (f : Forest) : Forest :=
  let inside (t : CaptureTree) : Bool := c.span.Contains t.capture.span
  .mk c (f.takeWhile inside) :: f.dropWhile inside

/-! ## The pass with a stack -/

namespace Nesting

/-- The forest when trees are put behind the captures that are open. -/
def absorb (closed : Array CaptureTree) : List OpenCapture → Forest → Forest
  | [], f => closed.toList ++ f
  | o :: rest, f =>
    let inside (t : CaptureTree) : Bool := o.capture.span.Contains t.capture.span
    absorb (o.before.push (.mk o.capture (closed.toList ++ f.takeWhile inside))) rest
      (f.dropWhile inside)

theorem absorb_nil (closed : Array CaptureTree) (stack : List OpenCapture) :
    absorb closed stack [] = forest ⟨closed, stack⟩ := by
  rw [forest]
  induction stack generalizing closed with
  | nil => rw [absorb, closeWhile, List.append_nil]
  | cons o rest ih =>
    rw [absorb, closeWhile, if_pos rfl, ← ih, List.takeWhile_nil, List.append_nil,
      List.dropWhile_nil]

/-- A tree comes under the innermost capture that contains it, and the captures that do not are
closed. -/
theorem absorb_cons (closed : Array CaptureTree) (stack : List OpenCapture) (t : CaptureTree)
    (f : Forest) :
    absorb closed stack (t :: f) =
      let n := closeWhile (fun o => !decide (o.span.Contains t.capture.span)) closed stack
      absorb (n.closed.push t) n.stack f := by
  induction stack generalizing closed with
  | nil => simp [closeWhile, absorb]
  | cons o rest ih =>
    by_cases inside : o.capture.span.Contains t.capture.span
    · simp [closeWhile, absorb, inside]
    · simp [closeWhile, absorb, inside, ih]

/-- To take a capture and then the trees behind it is to take it with those that it contains. -/
theorem absorb_take (n : Nesting) (c : Capture) (f : Forest) :
    absorb (n.take c).closed (n.take c).stack f = absorb n.closed n.stack (Forest.cons c f) := by
  rw [Forest.cons, absorb_cons]
  rfl

theorem forest_foldl_take (n : Nesting) (cs : List Capture) :
    (cs.foldl take n).forest = absorb n.closed n.stack (cs.foldr Forest.cons []) := by
  induction cs generalizing n with
  | nil => exact (absorb_nil n.closed n.stack).symm
  | cons c cs ih => rw [List.foldl_cons, ih, List.foldr_cons, absorb_take]

end Nesting

/-! ## The forest of captures -/

namespace Forest

/-- **Nesting from the first capture on gives the same forest as nesting from the last.** -/
theorem ofCaptures_eq_foldr (cs : List Capture) : ofCaptures cs = cs.foldr cons [] :=
  Nesting.forest_foldl_take {} cs

theorem ofCaptures_nil : ofCaptures [] = [] := rfl

theorem ofCaptures_cons (c : Capture) (cs : List Capture) :
    ofCaptures (c :: cs) = cons c (ofCaptures cs) := by
  simp only [ofCaptures_eq_foldr, List.foldr_cons]

theorem preorderAll_append (f g : Forest) :
    CaptureTree.preorderAll (f ++ g) = CaptureTree.preorderAll f ++ CaptureTree.preorderAll g := by
  induction f with
  | nil => simp [CaptureTree.preorderAll]
  | cons t f ih => simp [CaptureTree.preorderAll, ih]

theorem preorder_cons (c : Capture) (f : Forest) :
    CaptureTree.preorderAll (cons c f) = c :: CaptureTree.preorderAll f := by
  simp [cons, CaptureTree.preorderAll, CaptureTree.preorder, ← preorderAll_append,
    List.takeWhile_append_dropWhile]

/-- **The forest lists exactly the captures, in their order.** -/
theorem preorder_ofCaptures (cs : List Capture) :
    CaptureTree.preorderAll (ofCaptures cs) = cs := by
  induction cs with
  | nil => rfl
  | cons c cs ih => rw [ofCaptures_cons, preorder_cons, ih]

end Forest

end CodeIndex
