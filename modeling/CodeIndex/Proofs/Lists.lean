import Mathlib.Data.List.Induction
import Mathlib.Data.List.Nodup

/-!
# Lists without repetitions, and lists that are sorted

What is left of a list without its repetitions stands in the order of first appearance. A stable
sort leaves those that it need not part in their old order.
-/

namespace CodeIndex

variable {α : Type}

/-! ## First appearances -/

theorem nodup_eraseDups [BEq α] [LawfulBEq α] : ∀ l : List α, l.eraseDups.Nodup
  | [] => by simp
  | a :: l => by
    rw [List.eraseDups_cons, List.nodup_cons]
    exact ⟨by simp, nodup_eraseDups _⟩
termination_by l => l.length
decreasing_by exact Nat.lt_succ_of_le (List.length_filter_le _ _)

theorem eraseDups_concat [BEq α] [LawfulBEq α] (l : List α) (a : α) :
    (l ++ [a]).eraseDups = if a ∈ l then l.eraseDups else l.eraseDups ++ [a] := by
  rw [List.eraseDups_append]
  by_cases h : a ∈ l <;> simp [h, List.removeAll, List.eraseDups_cons]

theorem pairwise_idxOf_eraseDups [BEq α] [LawfulBEq α] (l : List α) :
    l.eraseDups.Pairwise fun a b => l.idxOf a < l.idxOf b := by
  induction l using List.reverseRecOn with
  | nil => simp
  | append_singleton l a ih =>
    have kept : l.eraseDups.Pairwise fun x y => (l ++ [a]).idxOf x < (l ++ [a]).idxOf y :=
      ih.imp_of_mem fun {x y} hx hy before => by
        rwa [List.idxOf_append_of_mem (List.mem_eraseDups.1 hx),
          List.idxOf_append_of_mem (List.mem_eraseDups.1 hy)]
    rw [eraseDups_concat]
    split
    · exact kept
    · rename_i fresh
      refine List.pairwise_append.2 ⟨kept, List.pairwise_singleton _ _, fun x hx y hy => ?_⟩
      obtain rfl := List.mem_singleton.1 hy
      have met := List.mem_eraseDups.1 hx
      rw [List.idxOf_append_of_mem met, List.idxOf_append_of_notMem fresh]
      exact Nat.lt_of_lt_of_le (List.idxOf_lt_length_of_mem met) (Nat.le_add_right _ _)

/-! ## Sorting -/

/-- What the order does not part keeps its place when a list is sorted. -/
theorem filter_mergeSort {le : α → α → Bool} (trans : ∀ a b c, le a b → le b c → le a c)
    (total : ∀ a b, le a b || le b a) {p : α → Bool} (ties : ∀ a b, p a → p b → le a b)
    (l : List α) : (l.mergeSort le).filter p = l.filter p := by
  have tied : (l.filter p).Pairwise fun a b => le a b :=
    List.pairwise_filter.2 (List.pairwise_iff_forall_sublist.2 fun _ => ties _ _)
  have kept := (List.sublist_mergeSort trans total tied List.filter_sublist).filter p
  rw [List.filter_filter, funext fun a => Bool.and_self (p a)] at kept
  exact (kept.eq_of_length ((List.mergeSort_perm l le).filter p).length_eq.symm).symm

/-- What holds within each group of a list holds of any two that share a group. -/
theorem pairwise_of_groups {β : Type} [DecidableEq β] {f : α → β} {R : α → α → Prop} {l : List α}
    (groups : ∀ b, (l.filter (f · = b)).Pairwise R) : l.Pairwise fun x y => f x = f y → R x y := by
  refine List.pairwise_iff_forall_sublist.2 fun {x y} inside same => ?_
  have both := List.pairwise_iff_forall_sublist.1 (List.pairwise_filter.1 (groups (f y))) inside
  exact both (by simp [same]) (by simp)

end CodeIndex
