import CodeIndex.Proofs.Search.Fuzzy
import CodeIndex.Proofs.Unicode.Case
import CodeIndex.Search.Prefilter

/-!
# What the prefilter sees

The prefilter reads a text once and keeps the letters that each reading under way still awaits. It
passes a text just when the letters of the query are in it somewhere (`Shown`): the first where the
text begins or after white space, `_` or `-`, and the others after it with word characters alone
between them.

**Names in texts (`forall_passes_iff`).** Whether all texts pass in which a name stands after a
certain character can be read off the name: it must show the query itself, as it stands after this
character.

**Matches (`Shown.of_matchesAt`).** Where a query matches a name, the name shows the query, if the
match begins where the prefilter looks for it, the rest of the name is word characters alone, and
the query is without the one capital that has two characters for its lower-case form. So these are
the only reasons for which a match can be missed; upper and lower case is none.
-/

namespace CodeIndex.Prefilter

open Unicode

variable {c q : Char} {qs s t cs : List Char} {ways : List Pending} {prev : Option Char}

/-- The letters follow in the text, each after word characters alone. -/
def Follows : List Char → List Char → Prop
  | [], _ => True
  | q :: qs, cs => ∃ gap c rest, cs = gap ++ c :: rest ∧ (∀ d ∈ gap, isWord d = true) ∧
      SameLetter c q ∧ Follows qs rest

theorem not_follows_nil : ¬ Follows (q :: qs) [] := by
  rintro ⟨gap, c, rest, split, -⟩
  simp at split

theorem follows_cons :
    Follows (q :: qs) (c :: cs) ↔
      SameLetter c q ∧ Follows qs cs ∨ isWord c = true ∧ Follows (q :: qs) cs := by
  constructor
  · rintro ⟨gap, d, rest, split, words, same, follow⟩
    cases gap with
    | nil =>
      obtain ⟨rfl, rfl⟩ := List.cons.inj split
      exact Or.inl ⟨same, follow⟩
    | cons g gap =>
      obtain ⟨rfl, rfl⟩ := List.cons.inj split
      have inner : ∀ d ∈ gap, isWord d = true := fun d hd => words d (List.mem_cons_of_mem _ hd)
      exact Or.inr ⟨words c List.mem_cons_self, gap, d, rest, rfl, inner, same, follow⟩
  · rintro (⟨same, follow⟩ | ⟨word, gap, d, rest, rfl, words, same, follow⟩)
    · exact ⟨[], c, cs, rfl, by simp, same, follow⟩
    · refine ⟨c :: gap, d, rest, rfl, ?_, same, follow⟩
      rintro x hx
      rcases List.mem_cons.1 hx with rfl | hx
      · exact word
      · exact words x hx

theorem Follows.append_right (follow : Follows qs cs) (more : List Char) :
    Follows qs (cs ++ more) := by
  induction qs generalizing cs with
  | nil => trivial
  | cons q qs ih =>
    obtain ⟨gap, c, rest, rfl, words, same, follow⟩ := follow
    exact ⟨gap, c, rest ++ more, by simp, words, same, ih follow⟩

theorem Follows.of_append {more : List Char} (follow : Follows (qs ++ more) cs) :
    Follows qs cs := by
  induction qs generalizing cs with
  | nil => trivial
  | cons q qs ih =>
    obtain ⟨gap, c, rest, rfl, words, same, follow⟩ := follow
    exact ⟨gap, c, rest, rfl, words, same, ih follow⟩

theorem exists_other_letter (q : Char) : ∃ w, ¬ SameLetter w q ∧ ¬ BeginsAfter (some w) := by
  by_cases first : SameLetter 'a' q
  · refine ⟨'b', fun second => ?_, by decide⟩
    have : fold 'a' = fold 'b' := first.trans second.symm
    revert this
    decide
  · exact ⟨'a', first, by decide⟩

theorem sameLetter_of_lowers {l : Char} (hc : Fuzzy.Lowers c l) (hq : toLower q = [l]) :
    SameLetter c q :=
  (fold_toLower hc).symm.trans (fold_toLower hq)

/-- In word characters alone, what follows in order follows for the prefilter too. -/
theorem follows_of_isSubsequence (plain : 'İ' ∉ qs) (words : ∀ d ∈ cs, isWord d = true)
    (follow : Fuzzy.isSubsequence (qs.flatMap toLower) cs = true) : Follows qs cs := by
  induction cs generalizing qs with
  | nil =>
    cases qs with
    | nil => trivial
    | cons q qs =>
      obtain ⟨l, hl⟩ := exists_toLower_eq (fun h => plain (h ▸ List.mem_cons_self))
      simp [hl, Fuzzy.isSubsequence] at follow
  | cons c cs ih =>
    have inner : ∀ d ∈ cs, isWord d = true := fun d hd => words d (List.mem_cons_of_mem _ hd)
    cases qs with
    | nil => trivial
    | cons q qs =>
      obtain ⟨l, hl⟩ := exists_toLower_eq (fun h => plain (h ▸ List.mem_cons_self))
      have split : (q :: qs).flatMap toLower = l :: qs.flatMap toLower := by
        rw [List.flatMap_cons, hl]
        rfl
      rw [split, Fuzzy.isSubsequence] at follow
      refine follows_cons.2 ?_
      by_cases taken : Fuzzy.Lowers c l
      · rw [if_pos taken] at follow
        exact Or.inl ⟨sameLetter_of_lowers taken hl,
          ih (fun h => plain (List.mem_cons_of_mem _ h)) inner follow⟩
      · rw [if_neg taken, ← split] at follow
        exact Or.inr ⟨words c List.mem_cons_self, ih plain inner follow⟩

/-! ## Readings under way -/

/-- What a reading awaits after one more character. -/
def Advances (c : Char) (t s : Pending) : Prop :=
  (∃ q, t = q :: s ∧ SameLetter c q) ∨ (t = s ∧ isWord c = true)

theorem Advances.suffix (h : Advances c t s) : s <:+ t := by
  rcases h with ⟨q, rfl, -⟩ | ⟨rfl, -⟩
  · exact List.suffix_cons q s
  · exact List.suffix_refl t

/-- A reading comes to its end in the rest of the text, if it has not come there yet and after one
more character it still can. -/
theorem follows_cons_iff_advances :
    Follows t (c :: cs) ↔ t = [] ∨ ∃ s, Advances c t s ∧ Follows s cs := by
  cases t with
  | nil => exact iff_of_true trivial (Or.inl rfl)
  | cons q qs =>
    rw [follows_cons]
    constructor
    · rintro (⟨same, follow⟩ | ⟨word, follow⟩)
      · exact Or.inr ⟨qs, Or.inl ⟨q, rfl, same⟩, follow⟩
      · exact Or.inr ⟨q :: qs, Or.inr ⟨rfl, word⟩, follow⟩
    · rintro (nothing | ⟨s, ⟨q', split, same⟩ | ⟨rfl, word⟩, follow⟩)
      · cases nothing
      · obtain ⟨rfl, rfl⟩ := List.cons.inj split
        exact Or.inl ⟨same, follow⟩
      · exact Or.inr ⟨word, follow⟩

/-- The ends of one query differ in length, so no reading is lost. -/
theorem mem_addPending (hs : s <:+ qs) (hways : ∀ t ∈ ways, t <:+ qs) :
    t ∈ addPending s ways ↔ t = s ∨ t ∈ ways := by
  cases ways with
  | nil => simp [addPending]
  | cons w ways =>
    rw [addPending]
    split
    · rename_i length
      have hw : w <:+ qs := hways w List.mem_cons_self
      have same : w = s :=
        (List.suffix_of_suffix_length_le hw hs (Nat.le_of_eq length)).eq_of_length length
      simp [same]
    · exact List.mem_cons

/-- Add what a reading awaits if the character is its next letter. -/
def take (c : Char) (w : Pending) (out : List Pending) : List Pending :=
  match w with
  | q :: rest => if SameLetter c q then addPending rest out else out
  | [] => out

theorem advance_cons (c : Char) (w : Pending) (ways : List Pending) :
    advance c (w :: ways) =
      if isWord c then addPending w (take c w (advance c ways)) else take c w (advance c ways) := by
  cases w <;> rfl

theorem mem_take {w : Pending} {out : List Pending} (hw : w <:+ qs) (hout : ∀ t ∈ out, t <:+ qs) :
    s ∈ take c w out ↔ (∃ q, w = q :: s ∧ SameLetter c q) ∨ s ∈ out := by
  cases w with
  | nil => simp [take]
  | cons q rest =>
    have hrest : rest <:+ qs := (List.suffix_cons q rest).trans hw
    rw [take]
    by_cases same : SameLetter c q
    · rw [if_pos same, mem_addPending hrest hout]
      refine or_congr_left ⟨?_, ?_⟩
      · rintro rfl
        exact ⟨q, rfl, same⟩
      · rintro ⟨q', split, -⟩
        exact (List.cons.inj split).2.symm
    · rw [if_neg same]
      refine (or_iff_right ?_).symm
      rintro ⟨q', split, same'⟩
      exact same ((List.cons.inj split).1 ▸ same')

theorem mem_advance (hways : ∀ t ∈ ways, t <:+ qs) :
    s ∈ advance c ways ↔ ∃ t ∈ ways, Advances c t s := by
  induction ways generalizing s with
  | nil => simp [advance]
  | cons w ways ih =>
    have hw : w <:+ qs := hways w List.mem_cons_self
    have inner : ∀ t ∈ ways, t <:+ qs := fun t ht => hways t (List.mem_cons_of_mem _ ht)
    have older : ∀ t ∈ advance c ways, t <:+ qs := fun t ht => by
      obtain ⟨u, hu, advances⟩ := (ih inner).1 ht
      exact advances.suffix.trans (inner u hu)
    have newer : ∀ t ∈ take c w (advance c ways), t <:+ qs := fun t ht => by
      rcases (mem_take hw older).1 ht with ⟨q, rfl, -⟩ | old
      · exact (List.suffix_cons q t).trans hw
      · exact older t old
    have split : (∃ t ∈ w :: ways, Advances c t s) ↔
        Advances c w s ∨ s ∈ advance c ways := by
      rw [ih inner]
      simp only [List.mem_cons, exists_eq_or_imp]
    rw [advance_cons, split, Advances]
    by_cases word : isWord c = true
    · rw [if_pos word, mem_addPending hw newer, mem_take hw older]
      simp only [word, and_true, eq_comm (a := s)]
      rw [or_left_comm, or_assoc]
    · rw [if_neg word, mem_take hw older]
      simp [word]

/-! ## Places that the prefilter sees -/

/-- The ways after one more character, with the one that may begin there. -/
theorem occursFrom_cons (q : Char) (qs : List Char) (prev : Option Char) (ways : List Pending)
    (c : Char) (cs : List Char) :
    occursFrom q qs prev ways (c :: cs) = (ways.any (·.isEmpty) || occursFrom q qs (some c)
      (if BeginsAfter prev ∧ SameLetter c q then addPending qs (advance c ways)
        else advance c ways) cs) := rfl

theorem any_isEmpty : ways.any (·.isEmpty) = true ↔ [] ∈ ways := by
  simp [List.any_eq_true, List.isEmpty_iff]

/-- Of the readings under way, one has come to its end or one can still come there. -/
theorem exists_follows_cons :
    (∃ t ∈ ways, Follows t (c :: cs)) ↔
      [] ∈ ways ∨ ∃ s, (∃ t ∈ ways, Advances c t s) ∧ Follows s cs := by
  constructor
  · rintro ⟨t, ht, follow⟩
    rcases follows_cons_iff_advances.1 follow with rfl | ⟨s, advances, follow⟩
    · exact Or.inl ht
    · exact Or.inr ⟨s, ⟨t, ht, advances⟩, follow⟩
  · rintro (ended | ⟨s, ⟨t, ht, advances⟩, follow⟩)
    · exact ⟨[], ended, trivial⟩
    · exact ⟨t, ht, follows_cons_iff_advances.2 (Or.inr ⟨s, advances, follow⟩)⟩

/-- A text has the letters in it if one of the readings under way comes to its end or one that
begins later. -/
theorem occursFrom_iff (hways : ∀ t ∈ ways, t <:+ qs) :
    occursFrom q qs prev ways cs = true ↔
      (∃ t ∈ ways, Follows t cs) ∨
        Somewhere (fun prev c rest => BeginsAfter prev ∧ SameLetter c q ∧ Follows qs rest)
          prev cs := by
  induction cs generalizing prev ways with
  | nil =>
    rw [occursFrom, any_isEmpty, or_iff_left not_somewhere_nil]
    constructor
    · exact fun ended => ⟨[], ended, trivial⟩
    · rintro ⟨t, ht, follow⟩
      cases t with
      | nil => exact ht
      | cons q qs => exact absurd follow not_follows_nil
  | cons c cs ih =>
    have older : ∀ t ∈ advance c ways, t <:+ qs := fun t ht => by
      obtain ⟨u, hu, advances⟩ := (mem_advance hways).1 ht
      exact advances.suffix.trans (hways u hu)
    rw [occursFrom_cons, Bool.or_eq_true, any_isEmpty, somewhere_cons, exists_follows_cons]
    by_cases begins : BeginsAfter prev ∧ SameLetter c q
    · have newer : ∀ t ∈ addPending qs (advance c ways), t <:+ qs := fun t ht => by
        rcases (mem_addPending (List.suffix_refl qs) older).1 ht with rfl | old
        · exact List.suffix_refl t
        · exact older t old
      rw [if_pos begins, ih newer]
      simp only [mem_addPending (List.suffix_refl qs) older, mem_advance hways, begins, true_and,
        or_and_right, exists_or, exists_eq_left, or_assoc]
      rw [or_left_comm (a := Follows qs cs)]
    · have absent : ¬ (BeginsAfter prev ∧ SameLetter c q ∧ Follows qs cs) :=
        fun here => begins ⟨here.1, here.2.1⟩
      rw [if_neg begins, ih older, or_iff_right absent]
      simp only [mem_advance hways, or_assoc]

/-! ## Texts that show a query -/

variable [Builder]

/-- The query is seen at a place: its first letter is there, where the prefilter looks for it, and
the others follow. -/
def SeenAt (query : String) (prev : Option Char) (c : Char) (rest : List Char) : Prop :=
  ∃ q qs, ofQuery? query = some (q :: qs) ∧ BeginsAfter prev ∧ SameLetter c q ∧ Follows qs rest

/-- A text that follows `prev` shows the query, or there is no test for it. -/
def Shown (query : String) (prev : Option Char) (text : List Char) : Prop :=
  ofQuery? query = none ∨ Somewhere (SeenAt query) prev text

variable {query text : String}

theorem ofQuery?_ne_nil : ofQuery? query ≠ some [] := by
  unfold ofQuery?
  cases letters query.toList with
  | nil => simp
  | cons q qs => simp

/-- **A text passes just when it shows the query.** -/
theorem passes_iff : passes query text = true ↔ Shown query none text.toList := by
  unfold passes Shown SeenAt
  cases tested : ofQuery? query with
  | none => simp
  | some letters =>
    cases letters with
    | nil => exact absurd tested ofQuery?_ne_nil
    | cons q qs =>
      simp only [occursFrom_iff (fun t ht => absurd ht List.not_mem_nil)]
      constructor
      · rintro (⟨t, ht, -⟩ | found)
        · cases ht
        · exact Or.inr (found.mono fun prev c rest here => ⟨q, qs, rfl, here⟩)
      · rintro (nothing | found)
        · cases nothing
        · refine Or.inr (found.mono fun prev c rest ⟨q', qs', same, here⟩ => ?_)
          cases same
          exact here

/-! ## Beginnings of a query -/

theorem ofQuery?_eq_some {ls : List Char} :
    ofQuery? query = some ls ↔
      letters query.toList = ls ∧ ls ≠ [] ∧ Builder.builds (expressionOf ls) = true := by
  simp only [ofQuery?]
  split
  · rename_i none
    refine iff_of_false nofun ?_
    rintro ⟨rfl, some, built⟩
    simp only [Bool.or_eq_true, List.isEmpty_iff, Bool.not_eq_true', built,
      Bool.true_eq_false, or_false] at none
    exact some none
  · rename_i tested
    simp only [Bool.or_eq_true, List.isEmpty_iff, Bool.not_eq_true', not_or,
      Bool.not_eq_false] at tested
    simp only [Option.some.injEq]
    constructor
    · rintro rfl
      exact ⟨rfl, tested⟩
    · exact fun same => same.1

theorem ofQuery?_of_short (some_letter : letters query.toList ≠ [])
    (short : (letters query.toList).length ≤ 200) :
    ofQuery? query = some (letters query.toList) :=
  ofQuery?_eq_some.2 ⟨rfl, some_letter, Builder.builds_of_short _ short⟩

theorem Shown.of_prefix {r : String} (h : query.toList <+: r.toList)
    (short : (letters r.toList).length ≤ 200) (shown : Shown r prev cs) :
    Shown query prev cs := by
  cases tested : ofQuery? query with
  | none => exact Or.inl tested
  | some ls =>
    obtain ⟨rfl, some, -⟩ := ofQuery?_eq_some.1 tested
    obtain ⟨more, split⟩ : letters query.toList <+: letters r.toList := h.filter _
    have tested' : ofQuery? r = Option.some (letters r.toList) :=
      ofQuery?_of_short (fun none => some (by simp_all)) short
    rcases shown with untested | found
    · rw [tested'] at untested
      cases untested
    · refine Or.inr (found.mono fun prev c rest ⟨q, qs, asked, begins, same, follow⟩ => ?_)
      rw [tested', ← split] at asked
      cases fewer : letters query.toList with
      | nil => exact absurd fewer some
      | cons q' qs' =>
        rw [fewer] at asked tested
        obtain ⟨rfl, rfl⟩ := List.cons.inj (Option.some.inj asked)
        exact ⟨q', qs', tested, begins, same, follow.of_append⟩

/-- **A text that passes for a query passes for each beginning of it,** if the query is short enough
to be tested for. -/
theorem passes_of_prefix {r : String} (h : query.toList <+: r.toList) (short : r.length ≤ 200)
    (passed : passes r text = true) : passes query text = true := by
  have letters : (letters r.toList).length ≤ 200 := (List.length_filter_le _ _).trans short
  have shown := Shown.of_prefix h letters (passes_iff.1 passed)
  exact passes_iff.2 shown

/-! ## Names in texts -/

/-- The name is in the text right after `prev`, and no word character follows it. -/
def StandsIn (name : String) (prev : Option Char) (text : String) : Prop :=
  ∃ before after, text.toList = before ++ name.toList ++ after ∧ before.getLast? = prev ∧
    ∀ c ∈ after.head?, isWord c = false

theorem Shown.append_right (shown : Shown query prev cs) (more : List Char) :
    Shown query prev (cs ++ more) := by
  refine shown.imp_right ?_
  rintro ⟨before, c, rest, rfl, q, qs, tested, begins, same, follow⟩
  exact ⟨before, c, rest ++ more, by simp, q, qs, tested, begins, same, follow.append_right more⟩

theorem Shown.append_left {before : List Char} (shown : Shown query (before.getLast?.or prev) cs) :
    Shown query prev (before ++ cs) :=
  shown.imp_right Somewhere.append_left

/-- **All texts pass in which a name stands after a certain character just when the name, as it
stands there, shows the query.** -/
theorem forall_passes_iff {name : String} :
    (∀ text, StandsIn name prev text → passes query text = true) ↔
      Shown query prev name.toList := by
  constructor
  · intro all
    cases prev with
    | none => exact passes_iff.1 (all name ⟨[], [], by simp, rfl, nofun⟩)
    | some p =>
      cases tested : ofQuery? query with
      | none => exact Or.inl tested
      | some ls =>
        cases ls with
        | nil => exact absurd tested ofQuery?_ne_nil
        | cons q qs =>
          -- a text in which the query cannot begin before the name
          obtain ⟨w, other, inside⟩ := exists_other_letter q
          have stands : StandsIn name (some p) (String.ofList (w :: p :: name.toList)) :=
            ⟨[w, p], [], by simp, rfl, nofun⟩
          have shown := passes_iff.1 (all _ stands)
          rw [String.toList_ofList] at shown
          rcases shown with untested | found
          · exact Or.inl untested
          · refine Or.inr ?_
            rcases somewhere_cons.1 found with ⟨q', qs', tested', -, same, -⟩ | found
            · rw [tested] at tested'
              cases tested'
              exact absurd same other
            · rcases somewhere_cons.1 found with ⟨-, -, -, begins, -⟩ | found
              · exact absurd begins inside
              · exact found
  · rintro shown text ⟨before, after, split, rfl, -⟩
    refine passes_iff.2 ?_
    rw [split]
    refine Shown.append_right (Shown.append_left ?_) after
    rwa [Option.or_none]

/-! ## Matches that are seen -/

/-- **A name shows the query if a match begins where the prefilter looks for it, with word
characters alone after it.** The query must be without the one capital whose lower-case form has two
characters. -/
theorem Shown.of_matchesAt {before rest : List Char}
    (here : Fuzzy.MatchesAt query before.getLast? c rest) (plain : 'İ' ∉ query.toList)
    (begins : BeginsAfter (before.getLast?.or prev)) (words : ∀ d ∈ rest, isWord d = true) :
    Shown query prev (before ++ c :: rest) := by
  cases tested : ofQuery? query with
  | none => exact Or.inl tested
  | some ls =>
    obtain ⟨rfl, some, -⟩ := ofQuery?_eq_some.1 tested
    have plain' : 'İ' ∉ letters query.toList := fun h => plain (List.mem_filter.1 h).1
    obtain ⟨l, ls, asked, -, lowers, follow⟩ := here
    have asked' : (letters query.toList).flatMap toLower = l :: ls := asked
    cases split : letters query.toList with
    | nil => exact absurd split some
    | cons q qs =>
      rw [split] at tested plain' asked'
      obtain ⟨l', hl⟩ := exists_toLower_eq (fun h => plain' (h ▸ List.mem_cons_self))
      rw [List.flatMap_cons, hl] at asked'
      obtain ⟨rfl, rfl⟩ := List.cons.inj asked'
      have same := sameLetter_of_lowers lowers hl
      refine Or.inr ⟨before, c, rest, rfl, q, qs, tested, begins, same, ?_⟩
      exact follows_of_isSubsequence (fun h => plain' (List.mem_cons_of_mem _ h)) words follow

end CodeIndex.Prefilter
