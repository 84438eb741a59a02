import CodeIndex.Proofs.Search.Batches
import CodeIndex.Proofs.Search.Subsequence
import CodeIndex.Proofs.Unicode.Blank

/-!
# Names that find themselves

Who searches for a symbol by its exact name asks for the lower-case forms of all characters of the
name but the blanks, and the name shows each of these in its own place. A word begins at the first
of them: before it there is nothing, or a blank, which is no letter and no number.

**The exception** is the one character whose lower-case form has two characters, the capital I with
a dot. The query asks for both, but no character of a name counts for two. The dot alone tells: a
name asks for it as often as it has it, and once more for each such capital.

**Theorem (`run_finds_name_iff`).** A name matches itself just when this capital is not in it. So
these are the symbols of an open document that a search for their names finds.
-/

namespace CodeIndex

namespace Fuzzy

open Unicode

variable {c : Char} {cs : List Char} {prev : Option Char}

/-! ## Names that match themselves -/

/-- The dot that the capital I leaves behind in lower case. -/
def dotAbove : Char := '\u0307'

theorem not_lowers_dotAbove_of_isBlank (h : isBlank c = true) : ¬ Lowers c dotAbove := by
  intro lower
  obtain rfl : c = dotAbove := List.singleton_inj.1 ((toLower_of_isBlank h).symm.trans lower)
  exact absurd h (by decide)

theorem wanted_cons_of_isBlank (blank : isBlank c = true) (cs : List Char) :
    wanted (c :: cs) = wanted cs := by
  rw [wanted, List.filter_cons_of_neg (by simp [blank]), wanted]

theorem wanted_cons (plain : isBlank c = false) (cs : List Char) :
    wanted (c :: cs) = toLower c ++ wanted cs := by
  rw [wanted, List.filter_cons_of_pos (by simp [plain]), List.flatMap_cons, wanted]

theorem isSubsequence_wanted_self (plain : 'İ' ∉ cs) : isSubsequence (wanted cs) cs = true := by
  refine isSubsequence_iff.2 ⟨cs.filter (!isBlank ·), List.filter_sublist, ?_⟩
  have kept : 'İ' ∉ cs.filter (!isBlank ·) := fun h => plain (List.mem_filter.1 h).1
  rw [wanted]
  generalize cs.filter (!isBlank ·) = cs at kept
  induction cs with
  | nil => exact .nil
  | cons c cs ih =>
    obtain ⟨l, hl⟩ := exists_toLower_eq fun h => kept (h ▸ List.mem_cons_self)
    rw [List.flatMap_cons, hl]
    exact .cons hl (ih fun h => kept (List.mem_cons_of_mem _ h))

theorem somewhere_self (plain : 'İ' ∉ cs) (before : ∀ p ∈ prev, isBlank p = true) :
    wanted cs = [] ∨ Somewhere (fun prev c rest => ∃ l ls, wanted cs = l :: ls ∧ BeginsWord prev c ∧
      Lowers c l ∧ isSubsequence ls rest = true) prev cs := by
  induction cs generalizing prev with
  | nil => exact Or.inl rfl
  | cons c cs ih =>
    have rest : 'İ' ∉ cs := fun h => plain (List.mem_cons_of_mem _ h)
    cases blank : isBlank c with
    | true =>
      simp only [wanted_cons_of_isBlank blank, somewhere_cons]
      exact (ih rest fun p hp => Option.mem_some.1 hp ▸ blank).imp_right Or.inr
    | false =>
      obtain ⟨l, hl⟩ := exists_toLower_eq fun h => plain (h ▸ List.mem_cons_self)
      refine Or.inr (somewhere_cons.2 (Or.inl ⟨l, wanted cs, ?_, ?_, hl, ?_⟩))
      · rw [wanted_cons blank, hl, List.singleton_append]
      · cases prev with
        | none => trivial
        | some p => exact Or.inl (isAlphanumeric_of_isBlank (before p rfl))
      · exact isSubsequence_wanted_self rest

/-- The dot is asked for as often as the name has it, and once more for each capital I that has
it. -/
theorem count_wanted_dotAbove (cs : List Char) :
    (wanted cs).count dotAbove = cs.countP (Lowers · dotAbove) + cs.count 'İ' := by
  induction cs with
  | nil => rfl
  | cons c cs ih =>
    rw [List.countP_cons, List.count_cons]
    cases blank : isBlank c with
    | true =>
      have other : c ≠ 'İ' := fun h => absurd (h ▸ blank) (by decide)
      simp [wanted_cons_of_isBlank blank, ih, not_lowers_dotAbove_of_isBlank blank, other]
    | false =>
      rw [wanted_cons blank, List.count_append, ih]
      by_cases dotted : c = 'İ'
      · subst dotted
        have form : (toLower 'İ').count dotAbove = 1 := by decide
        have no : ¬ Lowers 'İ' dotAbove := by decide
        simp [form, no]
        omega
      · obtain ⟨l, hl⟩ := exists_toLower_eq dotted
        simp [Lowers, hl, dotted, List.count_singleton]
        omega

/-- What is taken of a name shows the dot as often as it is asked for. -/
theorem countP_of_forall₂ {taken ls : List Char} (lower : List.Forall₂ Lowers taken ls) (l : Char) :
    taken.countP (Lowers · l) = ls.count l := by
  induction lower with
  | nil => rfl
  | @cons c k taken ls here _ ih =>
    have same : Lowers c l ↔ k = l := by
      rw [Lowers, show toLower c = [k] from here]
      simp
    rw [List.countP_cons, List.count_cons, ih]
    simp [same]

/-- **A name matches itself just when the capital I with a dot is not in it.** -/
theorem fuzzyMatch_self_iff (name : String) : fuzzyMatch name name = true ↔ 'İ' ∉ name.toList := by
  constructor
  · intro matched dotted
    obtain ⟨taken, sub, lower⟩ := exists_taken matched
    have asked : taken.countP (Lowers · dotAbove) =
        name.toList.countP (Lowers · dotAbove) + name.toList.count 'İ' := by
      rw [countP_of_forall₂ lower, count_wanted_dotAbove]
    have shown : taken.countP (Lowers · dotAbove) ≤ name.toList.countP (Lowers · dotAbove) :=
      sub.countP_le
    have present : 0 < name.toList.count 'İ' := List.count_pos_iff.2 dotted
    omega
  · intro plain
    exact fuzzyMatch_iff.2 (somewhere_self plain nofun)

end Fuzzy

/-! ## Searches for a name -/

theorem matches_of_mem_symbolsOf [Trees] {uri languageId text query : String} {found : NamedSymbol}
    (h : found ∈ symbolsOf uri languageId text query) :
    Fuzzy.fuzzyMatch query found.name = true := by
  unfold symbolsOf at h
  split at h
  · exact (List.mem_filter.1 h).2
  · cases h

namespace SearchSpace

section

variable [Trees] {s : SearchSpace} {read : Reader} {c : FileCache} {query : String}
  {found : NamedSymbol}

theorem matches_of_mem_openSymbols (h : found ∈ s.openSymbols query) :
    Fuzzy.fuzzyMatch query found.name = true := by
  obtain ⟨t, -, inText⟩ := List.mem_flatMap.1 h
  exact matches_of_mem_symbolsOf inText

theorem matches_of_mem_inText {test : String → Bool} {t : OpenText}
    (h : found ∈ inText test query t) : Fuzzy.fuzzyMatch query found.name = true := by
  unfold inText at h
  split at h
  · exact matches_of_mem_symbolsOf h
  · cases h

theorem exists_sweep_eq (test : String → Bool) (total done : Nat) (st : SearchState)
    (batches : List (List String)) :
    ∃ more, (sweep read (inText test query) (fun _ => false) total done st batches).symbols =
        st.symbols ++ more ∧
      ∀ found ∈ more, Fuzzy.fuzzyMatch query found.name = true := by
  induction batches generalizing done st with
  | nil => exact ⟨[], (List.append_nil _).symm, List.forall_mem_nil _⟩
  | cons batch batches ih =>
    simp only [sweep_cons, collect_never, if_neg Bool.false_ne_true]
    obtain ⟨more, added, matching⟩ := ih (done + 1)
      ⟨st.symbols ++ (loadAll read st.cache batch).1.flatMap (inText test query),
        st.progress ++ [(done + 1, total)], (loadAll read st.cache batch).2⟩
    refine ⟨(loadAll read st.cache batch).1.flatMap (inText test query) ++ more, ?_, ?_⟩
    · rw [added, List.append_assoc]
    · intro found h
      rcases List.mem_append.1 h with loaded | later
      · obtain ⟨t, -, inside⟩ := List.mem_flatMap.1 loaded
        exact matches_of_mem_inText inside
      · exact matching found later

variable [Prefilter.Builder]

/-- What is found in the open documents comes first, and all that is found matches. -/
theorem exists_run_eq {mode : SearchMode} (on : mode ≠ .off) :
    ∃ more, (s.run read c query mode none).symbols = s.openSymbols query ++ more ∧
      ∀ found ∈ more, Fuzzy.fuzzyMatch query found.name = true := by
  cases mode with
  | off => exact absurd rfl on
  | documents =>
    exact ⟨[], (s.symbols_run_documents c query).trans (List.append_nil _).symm, by simp⟩
  | workspace =>
    rw [run_none, search_never]
    exact exists_sweep_eq _ s.batches.length 0 ⟨s.openSymbols query, [], c⟩ s.batches

theorem mem_run_iff_of_open {mode : SearchMode} (on : mode ≠ .off) {t : OpenText}
    (opened : t ∈ s.openTexts) {d : Document}
    (parsed : Document.parse? t.languageId t.text = some d)
    (named : found ∈ namedSymbols t.uri (d.captures .outline)) :
    found ∈ (s.run read c query mode none).symbols ↔ Fuzzy.fuzzyMatch query found.name = true := by
  obtain ⟨more, all, matching⟩ := exists_run_eq on
  rw [all, List.mem_append]
  constructor
  · rintro (first | later)
    · exact matches_of_mem_openSymbols first
    · exact matching found later
  · intro matched
    refine Or.inl (List.mem_flatMap.2 ⟨t, opened, ?_⟩)
    rw [symbolsOf, parsed]
    exact List.mem_filter.2 ⟨named, matched⟩

end

/-- **A name matches itself just when the capital I with a dot is not in it,** and so a search for
the exact name of a symbol in an open document finds the symbol just when this capital is not in the
name. -/
theorem run_finds_name_iff [Trees] [Prefilter.Builder] (s : SearchSpace) (read : Reader)
    (c : FileCache) {mode : SearchMode} (on : mode ≠ .off) :
    (∀ name : String, Fuzzy.fuzzyMatch name name = true ↔ 'İ' ∉ name.toList) ∧
      ∀ t ∈ s.openTexts, ∀ d, Document.parse? t.languageId t.text = some d →
        ∀ found ∈ namedSymbols t.uri (d.captures .outline),
          (found ∈ (s.run read c found.name mode none).symbols ↔ 'İ' ∉ found.name.toList) := by
  refine ⟨Fuzzy.fuzzyMatch_self_iff, fun t opened d parsed found named => ?_⟩
  rw [mem_run_iff_of_open on opened parsed named, Fuzzy.fuzzyMatch_self_iff]

/-- A name with a capital letter inside, and the document with this class. -/
theorem run_finds_name_iff_fooBar :
    let _ := Example.classes
    let s : SearchSpace := ⟨[⟨"file:///o.py", "python", Example.fooBar⟩], [], 1⟩
    SearchMode.documents ≠ .off ∧ Fuzzy.fuzzyMatch "fooBar" "fooBar" = true ∧
      Example.fooBarIn "file:///o.py" ∈
        (s.run Example.everywhere {} "fooBar" .documents none).symbols := by
  intro _ s
  have known := @run_finds_name_iff Example.classes .own s Example.everywhere {} .documents
    (by decide)
  have named : Example.fooBarIn "file:///o.py" ∈ namedSymbols "file:///o.py"
      ((@Document.parse Example.classes .python Example.fooBar).captures .outline) := by
    rw [Example.captures_fooBar]
    exact List.mem_singleton.2 rfl
  refine ⟨by decide, (known.1 "fooBar").2 (by decide), ?_⟩
  exact (known.2 _ (List.mem_singleton.2 rfl) _ rfl _ named).2 (by decide)

end SearchSpace

/-! ## A class that is not found by its name -/

namespace Example

/-- A parser that takes each text for the text of the class, with another name of as many bytes. -/
@[reducible]
def renamed : Trees := ⟨fun language _ => classes.parse language fooBar⟩

/-- The class with a name that has this capital. -/
def izmir : String := "class İzmir:0"

theorem captures_izmir : (@Document.parse renamed .python izmir).captures .outline =
    [⟨"definition.class", ⟨⟨0, 0⟩, ⟨0, 14⟩⟩, izmir⟩,
      ⟨"definition.class.name", ⟨⟨0, 6⟩, ⟨0, 12⟩⟩, "İzmir"⟩] :=
  captures_of_ordered (by decide +kernel) (by decide)

end Example

/-- **A name with this capital does not match itself,** and the class that bears it is not found. -/
theorem dotted_name_missed :
    let _ := Example.renamed
    let s : SearchSpace := ⟨[⟨"file:///o.py", "python", Example.izmir⟩], [], 1⟩
    Fuzzy.fuzzyMatch "İzmir" "İzmir" = false ∧
      (∃ d, Document.parse? "python" Example.izmir = some d ∧
        namedSymbols "file:///o.py" (d.captures .outline) =
          [⟨"İzmir", .class, none, ⟨"file:///o.py", ⟨⟨0, 0⟩, ⟨0, 14⟩⟩⟩⟩]) ∧
      (s.run Example.everywhere {} "İzmir" .documents none).symbols = [] := by
  intro _ s
  have unmatched : Fuzzy.fuzzyMatch "İzmir" "İzmir" = false :=
    Bool.eq_false_iff.2 fun found => (Fuzzy.fuzzyMatch_self_iff "İzmir").1 found (by decide)
  have named : namedSymbols "file:///o.py"
      ((@Document.parse Example.renamed .python Example.izmir).captures .outline) =
        [⟨"İzmir", .class, none, ⟨"file:///o.py", ⟨⟨0, 0⟩, ⟨0, 14⟩⟩⟩⟩] := by
    rw [Example.captures_izmir]
    rfl
  refine ⟨unmatched, ⟨_, rfl, named⟩, ?_⟩
  show matchingSymbols "file:///o.py" "İzmir"
    ((@Document.parse Example.renamed .python Example.izmir).captures .outline) ++ [] = []
  rw [List.append_nil, matchingSymbols, named, List.filter_singleton, unmatched]
  rfl

end CodeIndex
