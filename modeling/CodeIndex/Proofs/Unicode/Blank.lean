import CodeIndex.Proofs.Unicode.Case
import CodeIndex.Unicode.Blank
import CodeIndex.Unicode.Letter

/-!
# White space

White space stands between words. It is no letter and no number, and it has no case, so a blank is
never taken for a character of a name.

Properties of characters are lists of intervals. That two of them have no character in common is a
test of these lists (`apart`), which compares the ends of the intervals and looks at no character.
-/

namespace CodeIndex.Unicode

variable {c : Char} {s t : List (Nat × Nat)}

theorem forall_blank {P : Char → Prop}
    (table : ∀ r ∈ blanks, ∀ k < r.2 + 1 - r.1, P (Char.ofNat (r.1 + k))) (h : isBlank c = true) :
    P c := by
  obtain ⟨r, hr, low, high⟩ := inRanges_iff.1 h
  have here := table r hr (c.toNat - r.1) (by omega)
  rwa [Nat.add_sub_cancel' low, Char.ofNat_toNat] at here

/-- No interval of one list meets one of the other. -/
def apart (s t : List (Nat × Nat)) : Bool :=
  s.all fun a => t.all fun b => a.2.blt b.1 || b.2.blt a.1

theorem not_inRanges_of_apart (h : apart s t = true) (inside : inRanges s c = true) :
    inRanges t c = false := by
  rw [Bool.eq_false_iff]
  intro both
  obtain ⟨a, ha, low, high⟩ := inRanges_iff.1 inside
  obtain ⟨b, hb, low', high'⟩ := inRanges_iff.1 both
  have beside := List.all_eq_true.1 (List.all_eq_true.1 h a ha) b hb
  simp only [Bool.or_eq_true, Nat.blt_eq] at beside
  omega

/-- What is apart from all rows of a table stays. -/
theorem shifted_of_apart {rows : List Row} (h : apart s (rows.map fun r => (r.1, r.2.1)) = true)
    (inside : inRanges s c = true) : shifted rows c = c := by
  rcases shifted_eq_or rows c with same | ⟨r, mem, taken, -⟩
  · exact same
  · simp only [inSteps, Bool.and_eq_true, decide_eq_true_eq] at taken
    have both : inRanges (rows.map fun r => (r.1, r.2.1)) c = true :=
      inRanges_iff.2 ⟨_, List.mem_map_of_mem mem, taken.1⟩
    rw [not_inRanges_of_apart h inside] at both
    cases both

/-- White space has nothing in common with letters and numbers, nor with what has another lower-case
form. -/
theorem apart_blanks : apart blanks letters = true ∧ apart blanks numbers = true ∧
    apart blanks (lowerForms.map fun r => (r.1, r.2.1)) = true := by
  decide +kernel

theorem isAlphanumeric_of_isBlank (h : isBlank c = true) : isAlphanumeric c = false := by
  obtain ⟨noLetter, noNumber, -⟩ := apart_blanks
  unfold isAlphanumeric
  split
  · exact @forall_blank c (·.isAlphanum = false) (by decide) h
  · rw [not_inRanges_of_apart noLetter h, not_inRanges_of_apart noNumber h, Bool.or_false]

theorem toLower_of_isBlank (h : isBlank c = true) : toLower c = [c] := by
  obtain ⟨-, -, settled⟩ := apart_blanks
  unfold toLower
  split
  · rw [@forall_blank c (fun c => c.toLower = c) (by decide) h]
  · have other : c ≠ 'İ' := fun dotted => absurd (dotted ▸ h) (by decide)
    rw [if_neg other, shifted_of_apart settled h]

end CodeIndex.Unicode
