/-!
# Sets of code points as lists of intervals

A Unicode property is kept as the list of the closed intervals that have it.
-/

namespace CodeIndex.Unicode

/-- `c` lies in one of the closed intervals. -/
def inRanges (table : List (Nat × Nat)) (c : Char) : Bool :=
  table.any fun r => r.1 ≤ c.toNat && c.toNat ≤ r.2

theorem inRanges_iff {table : List (Nat × Nat)} {c : Char} :
    inRanges table c = true ↔ ∃ r ∈ table, r.1 ≤ c.toNat ∧ c.toNat ≤ r.2 := by
  simp [inRanges, List.any_eq_true]

end CodeIndex.Unicode
