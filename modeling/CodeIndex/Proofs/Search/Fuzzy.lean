import CodeIndex.Search.Fuzzy
import Mathlib.Data.List.Infix

/-!
# Where a query matches a name

A query matches a name at a place where a word begins: the first character that it asks for is
there, and the others follow in order (`Fuzzy.MatchesAt`).

**Theorem (`fuzzyMatch_of_prefix`).** A name that a query matches is matched by every beginning of
the query too. What the beginning asks for is the beginning of what the query asks for.
-/

namespace CodeIndex

/-! ## Places in a text -/

/-- At some place of a text that follows `prev`, `P` holds of the character before the place, of the
one there, and of the rest. -/
def Somewhere (P : Option Char → Char → List Char → Prop) (prev : Option Char) (cs : List Char) :
    Prop :=
  ∃ before c rest, cs = before ++ c :: rest ∧ P (before.getLast?.or prev) c rest

section

variable {P Q : Option Char → Char → List Char → Prop} {prev : Option Char} {c : Char}
  {cs before : List Char}

theorem getLast?_cons_or (c : Char) (before : List Char) (prev : Option Char) :
    (c :: before).getLast?.or prev = before.getLast?.or (some c) := by
  rw [List.getLast?_cons]
  cases before.getLast? <;> rfl

theorem not_somewhere_nil : ¬ Somewhere P prev [] := by
  rintro ⟨before, c, rest, split, -⟩
  simp at split

theorem somewhere_cons : Somewhere P prev (c :: cs) ↔ P prev c cs ∨ Somewhere P (some c) cs := by
  constructor
  · rintro ⟨before, d, rest, split, here⟩
    cases before with
    | nil =>
      obtain ⟨rfl, rfl⟩ := List.cons.inj split
      exact Or.inl here
    | cons b before =>
      obtain ⟨rfl, rfl⟩ := List.cons.inj split
      rw [getLast?_cons_or] at here
      exact Or.inr ⟨before, d, rest, rfl, here⟩
  · rintro (here | ⟨before, d, rest, rfl, there⟩)
    · exact ⟨[], c, cs, rfl, here⟩
    · refine ⟨c :: before, d, rest, rfl, ?_⟩
      rwa [getLast?_cons_or]

theorem Somewhere.mono (h : Somewhere P prev cs)
    (imp : ∀ prev c rest, P prev c rest → Q prev c rest) :
    Somewhere Q prev cs := by
  obtain ⟨before, c, rest, split, here⟩ := h
  exact ⟨before, c, rest, split, imp _ _ _ here⟩

theorem Somewhere.append_left (h : Somewhere P (before.getLast?.or prev) cs) :
    Somewhere P prev (before ++ cs) := by
  induction before generalizing prev with
  | nil => exact h
  | cons b before ih =>
    rw [getLast?_cons_or] at h
    exact somewhere_cons.2 (Or.inr (ih h))

end

namespace Fuzzy

open Unicode

/-! ## Matches -/

/-- The query matches at a place: a word begins there with the first of the characters that it asks
for, and the others follow. -/
def MatchesAt (query : String) (prev : Option Char) (c : Char) (rest : List Char) : Prop :=
  ∃ l ls, wanted query.toList = l :: ls ∧ BeginsWord prev c ∧ Lowers c l ∧
    isSubsequence ls rest = true

theorem matchFrom_iff {l : Char} {ls : List Char} {prev : Option Char} {cs : List Char} :
    matchFrom l ls prev cs = true ↔
      Somewhere (fun prev c rest => BeginsWord prev c ∧ Lowers c l ∧ isSubsequence ls rest = true)
        prev cs := by
  induction cs generalizing prev with
  | nil => exact iff_of_false (by simp [matchFrom]) not_somewhere_nil
  | cons c cs ih =>
    rw [matchFrom, somewhere_cons, Bool.or_eq_true, ih, Bool.and_eq_true, Bool.and_eq_true,
      decide_eq_true_eq, decide_eq_true_eq, and_assoc]

/-- A query matches a name if it asks for nothing or matches at some place. -/
theorem fuzzyMatch_iff {query name : String} :
    fuzzyMatch query name = true ↔
      wanted query.toList = [] ∨ Somewhere (MatchesAt query) none name.toList := by
  unfold fuzzyMatch MatchesAt
  cases wanted query.toList with
  | nil => simp
  | cons l ls =>
    rw [matchFrom_iff]
    constructor
    · intro found
      exact Or.inr (found.mono fun prev c rest here => ⟨l, ls, rfl, here⟩)
    · rintro (nothing | found)
      · cases nothing
      · refine found.mono fun prev c rest ⟨l', ls', same, here⟩ => ?_
        cases same
        exact here

/-! ## Beginnings of a query -/

theorem wanted_append (q r : List Char) : wanted (q ++ r) = wanted q ++ wanted r := by
  rw [wanted, List.filter_append, List.flatMap_append, wanted, wanted]

theorem wanted_prefix {q r : List Char} (h : q <+: r) : wanted q <+: wanted r := by
  obtain ⟨more, rfl⟩ := h
  rw [wanted_append]
  exact List.prefix_append _ _

theorem isSubsequence_of_append {ls more cs : List Char}
    (h : isSubsequence (ls ++ more) cs = true) : isSubsequence ls cs = true := by
  induction cs generalizing ls with
  | nil =>
    cases ls with
    | nil => rfl
    | cons l ls => simp [isSubsequence] at h
  | cons c cs ih =>
    cases ls with
    | nil => rfl
    | cons l ls =>
      rw [List.cons_append, isSubsequence] at h
      rw [isSubsequence]
      split at h
      · rename_i taken
        rw [if_pos taken]
        exact ih h
      · rename_i passed
        rw [if_neg passed]
        exact @ih (l :: ls) h

theorem MatchesAt.of_prefix {q r : String} (h : q.toList <+: r.toList) {prev : Option Char}
    {c : Char} {rest : List Char} (here : MatchesAt r prev c rest)
    (asks : wanted q.toList ≠ []) : MatchesAt q prev c rest := by
  obtain ⟨l, ls, asked, begins, lowers, follow⟩ := here
  obtain ⟨more, split⟩ := wanted_prefix h
  cases fewer : wanted q.toList with
  | nil => exact absurd fewer asks
  | cons l' ls' =>
    rw [fewer, asked, List.cons_append] at split
    obtain ⟨rfl, rfl⟩ := List.cons.inj split
    exact ⟨l', ls', fewer, begins, lowers, isSubsequence_of_append follow⟩

/-- **A name that a query matches is matched by each beginning of the query.** -/
theorem fuzzyMatch_of_prefix {q r name : String} (h : q.toList <+: r.toList)
    (matched : fuzzyMatch r name = true) : fuzzyMatch q name = true := by
  rw [fuzzyMatch_iff] at matched ⊢
  by_cases nothing : wanted q.toList = []
  · exact Or.inl nothing
  · rcases matched with empty | found
    · exact absurd (List.prefix_nil.1 (empty ▸ wanted_prefix h)) nothing
    · exact Or.inr (found.mono fun _ _ _ here => here.of_prefix h nothing)

end Fuzzy

end CodeIndex
