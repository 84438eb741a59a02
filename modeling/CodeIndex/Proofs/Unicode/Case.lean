import CodeIndex.Unicode.Case
import Mathlib.Tactic.Common

/-!
# Lower case and folding

Names are compared with queries by lower case, and texts are tested by folding. Where two characters
have the same lower-case form, they are folded to the same character.

**Tables.** Both mappings are tables of rows, each a range of code points with the distance that
they are moved by. A row of lower-case forms is a row of the folding too, and what it moves to is
not folded any further; or it is a row of capitals that are folded to, and the folding moves back to
them.

**Sets as numbers.** To see which rows have a code point in common, a set of code points is written
as the number that has these bits (`mask`); for two sets this is one operation on two numbers.

Main result: `fold_toLower`.
-/

namespace CodeIndex.Unicode

/-- A row of a table: the first and the last code point, the step, and the distance. -/
abbrev Row := Nat × Nat × Nat × Int

/-- The code points of a row. -/
def points (r : Row) : List Nat :=
  (List.range ((r.2.1 - r.1) / r.2.2.1 + 1)).map fun k => r.1 + r.2.2.1 * k

/-- The code points that a row moves to. -/
def images (r : Row) : List Nat := (points r).map fun n : Nat => (n + r.2.2.2).toNat

/-- The row that leads back. -/
def back (r : Row) : Row :=
  ((r.1 + r.2.2.2).toNat, (r.2.1 + r.2.2.2).toNat, r.2.2.1, -r.2.2.2)

variable {c : Char} {r : Row} {t : List Row} {n : Nat}

theorem mem_points (h : inSteps r.1 r.2.1 r.2.2.1 c = true) : c.toNat ∈ points r := by
  simp only [inSteps, Bool.and_eq_true, decide_eq_true_eq, beq_iff_eq] at h
  obtain ⟨⟨low, high⟩, step⟩ := h
  refine List.mem_map.2 ⟨(c.toNat - r.1) / r.2.2.1, ?_, ?_⟩
  · have : (c.toNat - r.1) / r.2.2.1 ≤ (r.2.1 - r.1) / r.2.2.1 :=
      Nat.div_le_div_right (by omega)
    exact List.mem_range.2 (by omega)
  · have := Nat.mul_div_cancel' (Nat.dvd_of_mod_eq_zero step)
    omega

/-! ## Sets of code points as numbers -/

/-- The number with these bits. -/
def mask (ns : List Nat) : Nat := ns.foldr (fun n m => m ||| 1 <<< n) 0

/-- The number with the bits of all rows. -/
def maskAll (t : List Row) : Nat := t.foldr (fun r m => m ||| mask (points r)) 0

theorem testBit_mask (ns : List Nat) : (mask ns).testBit n = true ↔ n ∈ ns := by
  induction ns with
  | nil => simp [mask]
  | cons m ns ih =>
    have step : mask (m :: ns) = mask ns ||| 1 <<< m := rfl
    rw [step, Nat.testBit_or, Bool.or_eq_true, ih, Nat.one_shiftLeft, Nat.testBit_two_pow,
      decide_eq_true_eq, List.mem_cons, eq_comm (a := m), or_comm]

theorem testBit_maskAll : (maskAll t).testBit n = true ↔ ∃ r ∈ t, n ∈ points r := by
  induction t with
  | nil => simp [maskAll]
  | cons r t ih =>
    have step : maskAll (r :: t) = maskAll t ||| mask (points r) := rfl
    rw [step, Nat.testBit_or, Bool.or_eq_true, ih, testBit_mask]
    simp only [List.mem_cons, exists_eq_or_imp, or_comm]

theorem not_testBit_of_and {a b : Nat} (h : a &&& b = 0) (ha : a.testBit n = true) :
    ¬ b.testBit n = true := by
  intro hb
  have both : (a &&& b).testBit n = true := by rw [Nat.testBit_and, ha, hb]; rfl
  rw [h, Nat.zero_testBit] at both
  cases both

/-! ## Tables -/

/-- No two rows have a code point in common. -/
def Tidy : List Row → Prop
  | [] => True
  | r :: t => mask (points r) &&& maskAll t = 0 ∧ Tidy t

instance decidableTidy : (t : List Row) → Decidable (Tidy t)
  | [] => isTrue trivial
  | _ :: t =>
    let _ := decidableTidy t
    inferInstanceAs (Decidable (_ ∧ _))

theorem shifted_of_mem (tidy : Tidy t) (mem : r ∈ t)
    (h : inSteps r.1 r.2.1 r.2.2.1 c = true) :
    shifted t c = Char.ofNat (c.toNat + r.2.2.2).toNat := by
  suffices found : (t.find? fun (lo, hi, step, _) => inSteps lo hi step c) = some r by
    simp only [shifted, found]
  induction t with
  | nil => cases mem
  | cons s t ih =>
    rcases List.mem_cons.1 mem with rfl | mem
    · exact List.find?_cons_of_pos h
    · rw [List.find?_cons_of_neg, ih tidy.2 mem]
      intro first
      exact not_testBit_of_and tidy.1 ((testBit_mask _).2 (mem_points first))
        (testBit_maskAll.2 ⟨r, mem, mem_points h⟩)

theorem shifted_of_not_mem (h : ∀ r ∈ t, c.toNat ∉ points r) : shifted t c = c := by
  have none : (t.find? fun (lo, hi, step, _) => inSteps lo hi step c) = none :=
    List.find?_eq_none.2 fun r mem inside => h r mem (mem_points inside)
  simp only [shifted, none]

theorem shifted_of_and {ns : List Nat} (apart : mask ns &&& maskAll t = 0) (mem : c.toNat ∈ ns) :
    shifted t c = c :=
  shifted_of_not_mem fun r hr inside =>
    not_testBit_of_and apart ((testBit_mask _).2 mem) (testBit_maskAll.2 ⟨r, hr, inside⟩)

theorem shifted_eq_or (t : List Row) (c : Char) :
    shifted t c = c ∨ ∃ r ∈ t, inSteps r.1 r.2.1 r.2.2.1 c = true ∧
      shifted t c = Char.ofNat (c.toNat + r.2.2.2).toNat := by
  unfold shifted
  split
  · rename_i found
    exact Or.inr ⟨_, List.mem_of_find?_eq_some found, by simpa using List.find?_some found, rfl⟩
  · exact Or.inl rfl

/-! ## The tables of case -/

theorem tidy_foldedForms : Tidy foldedForms := by decide +kernel

/-- A row of lower-case forms is a row of the folding, and what it moves to is not folded; or what
it moves to is folded back. All that it moves to are characters after the capitals of ASCII. -/
theorem row_of_lowerForms : ∀ r ∈ lowerForms,
    (∀ n ∈ images r, 91 ≤ n ∧ n.isValidChar) ∧
      (mask (images r) &&& maskAll foldedForms = 0 ∧ r ∈ foldedForms ∨
        128 ≤ (back r).1 ∧ mask (points r) &&& maskAll foldedForms = 0 ∧ back r ∈ foldedForms) := by
  decide +kernel

theorem toNat_ofNat (valid : n.isValidChar) : (Char.ofNat n).toNat = n := by
  rw [Char.ofNat, dif_pos valid]
  rfl

/-! ## Characters of ASCII -/

theorem toLower_of_high (high : 91 ≤ c.toNat) : c.toLower = c := by
  refine dif_neg ?_
  rintro ⟨-, small⟩
  have : c.toNat ≤ 90 := UInt32.le_iff_toNat_le.1 small
  omega

theorem toNat_toLower (capital : c.val ≥ 'A'.val ∧ c.val ≤ 'Z'.val) :
    c.toLower.toNat = c.toNat + 32 := by
  have lowered : c.toLower = ⟨c.val + ('a'.val - 'A'.val), _⟩ := dif_pos capital
  rw [lowered]
  show (c.val + ('a'.val - 'A'.val)).toNat = c.val.toNat + 32
  have high : c.val.toNat ≤ 90 := UInt32.le_iff_toNat_le.1 capital.2
  have distance : ('a'.val - 'A'.val).toNat = 32 := by decide
  rw [UInt32.toNat_add, distance]
  omega

theorem toLower_of_ascii (ascii : c.toNat < 128) :
    c.toLower.toNat < 128 ∧ c.toLower.toLower = c.toLower := by
  by_cases capital : c.val ≥ 'A'.val ∧ c.val ≤ 'Z'.val
  · have code := toNat_toLower capital
    have low : 65 ≤ c.toNat := UInt32.le_iff_toNat_le.1 capital.1
    have high : c.toNat ≤ 90 := UInt32.le_iff_toNat_le.1 capital.2
    exact ⟨by omega, toLower_of_high (by omega)⟩
  · have same : c.toLower = c := dif_neg capital
    rw [same, same]
    exact ⟨ascii, rfl⟩

/-! ## Folding -/

theorem fold_of_wide (wide : ¬ c.toNat < 128) : fold c = shifted foldedForms c := if_neg wide

theorem fold_of_and {ns : List Nat} (apart : mask ns &&& maskAll foldedForms = 0)
    (mem : c.toNat ∈ ns) (high : 91 ≤ c.toNat) : fold c = c := by
  unfold fold
  split
  · exact toLower_of_high high
  · exact shifted_of_and apart mem

/-- What a row of lower-case forms moves to is folded like what it moves. -/
theorem fold_of_row (mem : r ∈ lowerForms) (inside : inSteps r.1 r.2.1 r.2.2.1 c = true)
    (wide : ¬ c.toNat < 128) :
    fold (Char.ofNat (c.toNat + r.2.2.2).toNat) = fold c := by
  obtain ⟨valid, rows⟩ := row_of_lowerForms r mem
  have image : (c.toNat + r.2.2.2).toNat ∈ images r :=
    List.mem_map.2 ⟨c.toNat, mem_points inside, rfl⟩
  obtain ⟨high, ok⟩ := valid _ image
  have code := toNat_ofNat ok
  rcases rows with ⟨apart, folded⟩ | ⟨far, apart, folded⟩
  · rw [fold_of_wide wide, shifted_of_mem tidy_foldedForms folded inside]
    rw [← code] at image high
    exact fold_of_and apart image high
  · have inside' : inSteps (back r).1 (back r).2.1 (back r).2.2.1
        (Char.ofNat (c.toNat + r.2.2.2).toNat) = true := by
      simp only [inSteps, Bool.and_eq_true, decide_eq_true_eq, beq_iff_eq, code, back]
        at inside far ⊢
      obtain ⟨⟨low, last⟩, step⟩ := inside
      have same : (c.toNat + r.2.2.2).toNat - (r.1 + r.2.2.2).toNat = c.toNat - r.1 := by omega
      exact ⟨⟨by omega, by omega⟩, same ▸ step⟩
    have wide' : ¬ (Char.ofNat (c.toNat + r.2.2.2).toNat).toNat < 128 := by
      simp only [inSteps, Bool.and_eq_true, decide_eq_true_eq] at inside'
      omega
    have home : ((c.toNat + r.2.2.2).toNat + -r.2.2.2).toNat = c.toNat := by omega
    rw [fold_of_wide wide, shifted_of_and apart (mem_points inside), fold_of_wide wide',
      shifted_of_mem tidy_foldedForms folded inside', code]
    exact (congrArg Char.ofNat home).trans (Char.ofNat_toNat c)

/-- All characters but one have a lower-case form of one character. -/
theorem exists_toLower_eq (h : c ≠ 'İ') : ∃ l, toLower c = [l] := by
  unfold toLower
  rw [if_neg h]
  split <;> exact ⟨_, rfl⟩

/-- **A character is folded like its lower-case form.** -/
theorem fold_toLower {l : Char} (h : toLower c = [l]) : fold l = fold c := by
  unfold toLower at h
  split at h
  · rename_i ascii
    obtain rfl : c.toLower = l := by simpa using h
    obtain ⟨ascii', settled⟩ := toLower_of_ascii ascii
    rw [fold, if_pos ascii', settled, fold, if_pos ascii]
  · rename_i wide
    split at h
    · simp at h
    · obtain rfl : shifted lowerForms c = l := by simpa using h
      rcases shifted_eq_or lowerForms c with same | ⟨r, mem, inside, moved⟩
      · rw [same]
      · rw [moved]
        exact fold_of_row mem inside wide

/-! ## Characters without case -/

/-- The folding moves to characters, in ASCII to small letters alone. -/
theorem images_of_foldedForms :
    ∀ r ∈ foldedForms, ∀ n ∈ images r, n.isValidChar ∧ (n < 128 → 97 ≤ n ∧ n ≤ 122) := by
  decide +kernel

/-- An ASCII character that is no letter. -/
def IsMark (d : Char) : Prop :=
  d.toNat < 65 ∨ 90 < d.toNat ∧ d.toNat < 97 ∨ 122 < d.toNat ∧ d.toNat < 128

instance (d : Char) : Decidable (IsMark d) := inferInstanceAs (Decidable (_ ∨ _))

/-- What is folded to a mark is the mark itself. -/
theorem eq_of_fold_eq {d : Char} (mark : IsMark d) (h : fold c = d) : c = d := by
  unfold IsMark at mark
  unfold fold at h
  split at h
  · by_cases capital : c.val ≥ 'A'.val ∧ c.val ≤ 'Z'.val
    · have low : 65 ≤ c.toNat := UInt32.le_iff_toNat_le.1 capital.1
      have high : c.toNat ≤ 90 := UInt32.le_iff_toNat_le.1 capital.2
      have lower := toNat_toLower capital
      rw [h] at lower
      omega
    · exact (dif_neg capital).symm.trans h
  · rename_i wide
    rcases shifted_eq_or foldedForms c with same | ⟨r, mem, inside, moved⟩
    · exact same.symm.trans h
    · have image : (c.toNat + r.2.2.2).toNat ∈ images r :=
        List.mem_map.2 ⟨c.toNat, mem_points inside, rfl⟩
      obtain ⟨valid, letter⟩ := images_of_foldedForms r mem _ image
      rw [← h, moved, toNat_ofNat valid] at mark
      omega

/-- **A mark is equal but for case to no other character.** -/
theorem fold_eq_fold_iff {d : Char} (mark : IsMark d) : fold c = fold d ↔ c = d := by
  have settled : fold d = d := by
    have ascii : d.toNat < 128 := by unfold IsMark at mark; omega
    have small : ¬ (d.val ≥ 'A'.val ∧ d.val ≤ 'Z'.val) := by
      rintro ⟨low, high⟩
      have low' : 65 ≤ d.toNat := UInt32.le_iff_toNat_le.1 low
      have high' : d.toNat ≤ 90 := UInt32.le_iff_toNat_le.1 high
      unfold IsMark at mark
      omega
    rw [fold, if_pos ascii]
    exact dif_neg small
  constructor
  · intro same
    exact eq_of_fold_eq mark (same.trans settled)
  · rintro rfl
    rfl

end CodeIndex.Unicode
