import CodeIndex.Proofs.Search.Fuzzy
import Mathlib.Data.List.NodupEquivFin
import Mathlib.Order.Fin.Tuple

/-!
# A match as a choice of places

A query matches a name if its characters can be found in the name at growing places, the first of
them where a word begins. Nothing is said there of how the places are looked for.

**Greed does no harm.** `isSubsequence` takes each character where it first can. A character of the
name has one lower-case form, so if the first character wanted is there, any other way of reading
can begin with it as well: what follows later follows here (`isSubsequence_iff`).

**Theorem (`fuzzyMatch_iff_places`).** A query matches a name just when it asks for nothing or there
are places `i₀ < i₁ < …` of the name, one for each character that the query asks for, which show
these characters in lower case, and a word begins at `i₀`.
-/

namespace CodeIndex.Fuzzy

open Unicode

variable {l c : Char} {ls cs before rest : List Char}

/-! ## Subsequences -/

/-- **The characters appear in order just when some of the text is, in lower case, just these.** -/
theorem isSubsequence_iff :
    isSubsequence ls cs = true ↔ ∃ taken, taken.Sublist cs ∧ List.Forall₂ Lowers taken ls := by
  induction cs generalizing ls with
  | nil =>
    cases ls with
    | nil => simp [isSubsequence]
    | cons l ls => simp [isSubsequence]
  | cons c cs ih =>
    cases ls with
    | nil => exact iff_of_true rfl ⟨[], List.nil_sublist _, .nil⟩
    | cons l ls =>
      rw [isSubsequence]
      by_cases here : Lowers c l
      · rw [if_pos here, ih]
        constructor
        · rintro ⟨taken, sub, lower⟩
          exact ⟨c :: taken, sub.cons_cons c, .cons here lower⟩
        · rintro ⟨taken, sub, lower⟩
          -- what is taken first may come later, but then the rest comes later still
          cases lower with
          | cons _ lower => exact ⟨_, sub.tail, lower⟩
      · rw [if_neg here, ih]
        constructor
        · rintro ⟨taken, sub, lower⟩
          exact ⟨taken, sub.cons c, lower⟩
        · rintro ⟨taken, sub, lower⟩
          cases sub with
          | cons _ sub => exact ⟨taken, sub, lower⟩
          | cons_cons _ sub =>
            cases lower with
            | cons first _ => exact absurd first here

theorem exists_taken {query name : String} (matched : fuzzyMatch query name = true) :
    ∃ taken, taken.Sublist name.toList ∧ List.Forall₂ Lowers taken (wanted query.toList) := by
  rcases fuzzyMatch_iff.1 matched with nothing |
    ⟨before, c, rest, split, l, ls, asked, -, first, follow⟩
  · rw [nothing]
    exact ⟨[], List.nil_sublist _, .nil⟩
  · obtain ⟨taken, sub, lower⟩ := isSubsequence_iff.1 follow
    rw [split, asked]
    exact ⟨c :: taken, (sub.cons_cons c).trans (List.sublist_append_right _ _), .cons first lower⟩

/-! ## Places -/

/-- Growing places of a text that show the characters `ls`, one place for each. -/
structure Places (ls cs : List Char) (i : Fin ls.length → Fin cs.length) : Prop where
  mono : StrictMono i
  lowers : ∀ j, Lowers cs[i j] ls[j]

theorem isSubsequence_iff_places : isSubsequence ls cs = true ↔ ∃ i, Places ls cs i := by
  rw [isSubsequence_iff]
  constructor
  · rintro ⟨taken, sub, lower⟩
    obtain ⟨length, lower⟩ := List.forall₂_iff_get.1 lower
    obtain ⟨f, hf⟩ := List.sublist_iff_exists_fin_orderEmbedding_get_eq.1 sub
    refine ⟨fun j => f (j.cast length.symm), ?_, ?_⟩
    · intro j k h
      exact f.strictMono h
    · intro j
      have shown := lower j (by omega) j.isLt
      rw [hf] at shown
      exact shown
  · rintro ⟨i, mono, lowers⟩
    refine ⟨List.ofFn fun j => cs[i j], ?_, ?_⟩
    · have length := List.length_ofFn (f := fun j => cs[i j])
      let f := OrderEmbedding.ofStrictMono (fun k => i (Fin.cast length k)) fun j k h => mono h
      refine List.sublist_iff_exists_fin_orderEmbedding_get_eq.2 ⟨f, fun k => ?_⟩
      rw [List.get_ofFn]
      rfl
    · refine List.forall₂_iff_get.2 ⟨List.length_ofFn, fun j hj hj' => ?_⟩
      simpa using lowers ⟨j, hj'⟩

/-- A word begins at a place of the text. -/
def BeginsAt (cs : List Char) (k : Fin cs.length) : Prop :=
  k.val = 0 ∨ isAlphanumeric cs[k.val - 1] = false ∨
    (isLower cs[k.val - 1] = true ∧ isUpper cs[k] = true)

/-- The place right after `before`. -/
def placeAfter (before : List Char) (c : Char) (rest : List Char) :
    Fin (before ++ c :: rest).length :=
  ⟨before.length, by simp⟩

theorem beginsAt_placeAfter :
    BeginsAt (before ++ c :: rest) (placeAfter before c rest) ↔ BeginsWord before.getLast? c := by
  unfold BeginsAt placeAfter
  cases before using List.reverseRecOn with
  | nil => simp [BeginsWord]
  | append_singleton before p => simp [BeginsWord]

theorem Places.tail {i : Fin (l :: ls).length → Fin (before ++ c :: rest).length}
    (places : Places (l :: ls) (before ++ c :: rest) i) (first : i 0 = placeAfter before c rest) :
    Lowers c l ∧ ∃ i, Places ls rest i := by
  have later (j : Fin ls.length) : before.length < (i j.succ).val := by
    have grows : i 0 < i j.succ := places.mono (Fin.succ_pos j)
    rwa [first] at grows
  have inside (j : Fin ls.length) : (i j.succ).val - (before.length + 1) < rest.length := by
    have bound := (i j.succ).isLt
    have behind := later j
    simp only [List.length_append, List.length_cons] at bound
    omega
  constructor
  · simpa [first, placeAfter] using places.lowers 0
  · refine ⟨fun j => ⟨(i j.succ).val - (before.length + 1), inside j⟩, fun j k h => ?_, fun j => ?_⟩
    · have grows : (i j.succ).val < (i k.succ).val := places.mono (Fin.succ_lt_succ_iff.2 h)
      have behind := later j
      show (i j.succ).val - (before.length + 1) < (i k.succ).val - (before.length + 1)
      omega
    · have behind := later j
      have shown := places.lowers j.succ
      rw [Fin.getElem_fin, List.getElem_append_right (by omega), List.getElem_cons] at shown
      simpa [Nat.sub_sub, show (i j.succ).val - before.length ≠ 0 by omega] using shown

theorem Places.cons {i : Fin ls.length → Fin rest.length} (places : Places ls rest i)
    (first : Lowers c l) (before : List Char) :
    ∃ i, Places (l :: ls) (before ++ c :: rest) i ∧ i 0 = placeAfter before c rest := by
  refine ⟨Fin.cons (placeAfter before c rest) fun j => ⟨before.length + 1 + (i j).val, ?_⟩,
    ⟨?_, ?_⟩, rfl⟩
  · have bound := (i j).isLt
    simp only [List.length_append, List.length_cons]
    omega
  · refine Fin.strictMono_cons.2 ⟨fun j => ?_, fun j k h => ?_⟩
    · show before.length < before.length + 1 + (i j).val
      omega
    · show before.length + 1 + (i j).val < before.length + 1 + (i k).val
      exact Nat.add_lt_add_left (places.mono h) _
  · refine Fin.cases ?_ fun j => ?_
    · simpa [placeAfter] using first
    · simpa [Nat.add_assoc, Nat.add_comm 1] using places.lowers j

theorem matchFrom_iff_places :
    matchFrom l ls none cs = true ↔ ∃ i, Places (l :: ls) cs i ∧ BeginsAt cs (i 0) := by
  simp only [matchFrom_iff, Somewhere, Option.or_none, isSubsequence_iff_places]
  constructor
  · rintro ⟨before, c, rest, rfl, begins, first, i, follow⟩
    obtain ⟨i, places, start⟩ := follow.cons first before
    exact ⟨i, places, start ▸ beginsAt_placeAfter.2 begins⟩
  · rintro ⟨i, places, begins⟩
    obtain ⟨before, c, rest, rfl, length⟩ :
        ∃ before c rest, cs = before ++ c :: rest ∧ (i 0).val = before.length :=
      ⟨cs.take (i 0), cs[i 0], cs.drop (i 0 + 1), by simp, by simp⟩
    have start : i 0 = placeAfter before c rest := Fin.ext length
    rw [start] at begins
    obtain ⟨first, follow⟩ := places.tail start
    exact ⟨before, c, rest, rfl, beginsAt_placeAfter.1 begins, first, follow⟩

theorem fuzzyMatch_iff_exists {query name : String} :
    fuzzyMatch query name = true ↔ wanted query.toList = [] ∨
      ∃ i, Places (wanted query.toList) name.toList i ∧
        ∀ j : Fin (wanted query.toList).length, j.val = 0 → BeginsAt name.toList (i j) := by
  unfold fuzzyMatch
  cases wanted query.toList with
  | nil => simp
  | cons l ls =>
    rw [matchFrom_iff_places, or_iff_right (List.cons_ne_nil l ls)]
    refine exists_congr fun i => and_congr_right fun _ =>
      ⟨fun begins j zero => ?_, fun begins => ?_⟩
    · obtain rfl : j = 0 := Fin.ext zero
      exact begins
    · exact begins 0 rfl

/-- **A query matches a name just when it asks for nothing or its characters are found at growing
places of the name, in lower case, and a word begins at the first of them.** -/
theorem fuzzyMatch_iff_places {query name : String} :
    let ls := (query.toList.filter (!isBlank ·)).flatMap toLower
    let cs := name.toList
    fuzzyMatch query name = true ↔ ls = [] ∨
      ∃ i : Fin ls.length → Fin cs.length, StrictMono i ∧ (∀ j, toLower cs[i j] = [ls[j]]) ∧
        ∀ j : Fin ls.length, j.val = 0 →
          (i j).val = 0 ∨ isAlphanumeric cs[(i j).val - 1] = false ∨
            (isLower cs[(i j).val - 1] = true ∧ isUpper cs[i j] = true) := by
  intro ls cs
  rw [fuzzyMatch_iff_exists]
  refine or_congr_right (exists_congr fun i => ?_)
  constructor
  · rintro ⟨⟨mono, lowers⟩, begins⟩
    exact ⟨mono, lowers, begins⟩
  · rintro ⟨mono, lowers, begins⟩
    exact ⟨⟨mono, lowers⟩, begins⟩

end CodeIndex.Fuzzy
