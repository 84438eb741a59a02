import CodeIndex.Proofs.Search.Prefilter

/-!
# The prefilter's expression

The prefilter reads texts by itself. Its test is also written as a regular expression, and here this
expression is read and matched as such, so that both can be compared with what they are to find.

**Reading** (`Expression.read?`). An expression is taken apart into signs, and then put together
from these, with the groups that are still open on a stack. A character with a meaning of its own
stands for itself only after a backslash, which the expression puts before each (`signs?_escape`).
What the prefilter never writes is not read.

**Matching** (`Expression.Matches`) is the usual relation between an expression and the pieces of a
text, here with what lies before the piece, where the text may begin. A letter matches without
regard to case.

**Theorem (`passes_iff_pieces`).** For every query that is not blank and not too long, the
expression can be read, and a text passes just when the expression is found in it. It is found
just where the text has the letters of the query one after the other, with word characters alone
between them, at its start or after white space, `_` or `-`.
-/

namespace CodeIndex.Prefilter

open Unicode

/-! ## Regular expressions -/

/-- A set of characters: a letter in all its cases, the characters of words, or white space. -/
inductive CharClass where
  | letter (c : Char)
  | word
  | blank
  deriving DecidableEq

/-- A character is in the set. -/
def CharClass.Holds : CharClass → Char → Prop
  | letter l, c => SameLetter c l
  | word, c => isWord c = true
  | blank, c => isBlank c = true

/-- A regular expression. -/
inductive Expression where
  | empty
  /-- The beginning of the text. -/
  | start
  /-- A character in one of the sets. -/
  | one (sets : List CharClass)
  | seq (a b : Expression)
  | alt (a b : Expression)
  | star (a : Expression)
  deriving DecidableEq

namespace Expression

/-- The pieces of a text, behind `before`, that an expression matches. -/
inductive Matches : Expression → (before : List Char) → List Char → Prop
  | empty {before : List Char} : Matches empty before []
  | start : Matches start [] []
  | one {sets : List CharClass} {before : List Char} {c : Char} {k : CharClass} (listed : k ∈ sets)
      (holds : k.Holds c) : Matches (one sets) before [c]
  | seq {a b : Expression} {before x y : List Char} (left : Matches a before x)
      (right : Matches b (before ++ x) y) : Matches (seq a b) before (x ++ y)
  | altLeft {a b : Expression} {before x : List Char} (left : Matches a before x) :
      Matches (alt a b) before x
  | altRight {a b : Expression} {before x : List Char} (right : Matches b before x) :
      Matches (alt a b) before x
  | starNil {a : Expression} {before : List Char} : Matches (star a) before []
  | starCons {a : Expression} {before x y : List Char} (first : Matches a before x)
      (more : Matches (star a) (before ++ x) y) : Matches (star a) before (x ++ y)

/-- The expression matches somewhere in the text. -/
def FoundIn (e : Expression) (text : List Char) : Prop :=
  ∃ before x after, text = before ++ x ++ after ∧ e.Matches before x

/-- One expression after the other. -/
def sequence (es : List Expression) : Expression := es.foldr seq empty

end Expression

/-! ## Signs -/

/-- What an expression is written with. -/
inductive Sign where
  | chars (k : CharClass)
  | start
  | star
  | bar
  | openGroup
  | closeGroup
  | openSet
  | closeSet

/-- A character after a backslash. -/
def escaped? (c : Char) : Option Sign :=
  if c = 'w' then some (.chars .word)
  else if c = 's' then some (.chars .blank)
  else if special.contains c then some (.chars (.letter c))
  else none

/-- A character by itself. -/
def plain? : Char → Option Sign
  | '^' => some .start
  | '*' => some .star
  | '|' => some .bar
  | ')' => some .closeGroup
  | '[' => some .openSet
  | ']' => some .closeSet
  | c => if special.contains c then none else some (.chars (.letter c))

/-- The signs of an expression. -/
def signs? : List Char → Option (List Sign)
  | [] => some []
  | '\\' :: c :: cs => (escaped? c).bind fun s => (signs? cs).map (s :: ·)
  | '(' :: '?' :: ':' :: cs => (signs? cs).map (.openGroup :: ·)
  | c :: cs => (plain? c).bind fun s => (signs? cs).map (s :: ·)

/-! ## Reading -/

/-- A group that is open: its finished branches, and the factors of the branch at hand, the last
ones in front. -/
structure Group where
  branches : List Expression := []
  factors : List Expression := []

namespace Group

def add (g : Group) (e : Expression) : Group := { g with factors := e :: g.factors }

/-- The branch at hand. -/
def branch (g : Group) : Expression := Expression.sequence g.factors.reverse

/-- All branches together. -/
def close (g : Group) : Expression := g.branches.foldl (fun rest b => .alt b rest) g.branch

end Group

/-- How far an expression has been read: the groups around, the one at hand, and the set in which we
are. -/
structure Reading where
  outer : List Group := []
  group : Group := {}
  set : Option (List CharClass) := none

/-- Read one more sign. -/
def Reading.step (r : Reading) (s : Sign) : Option Reading :=
  match r.set, s with
  | some ks, .chars k => some { r with set := some (ks ++ [k]) }
  | some (k :: ks), .closeSet => some { r with set := none, group := r.group.add (.one (k :: ks)) }
  | some _, _ => none
  | none, .chars k => some { r with group := r.group.add (.one [k]) }
  | none, .start => some { r with group := r.group.add .start }
  | none, .star =>
    match r.group.factors with
    | e :: es => some { r with group := { r.group with factors := .star e :: es } }
    | [] => none
  | none, .bar => some { r with group := ⟨r.group.branch :: r.group.branches, []⟩ }
  | none, .openGroup => some { r with outer := r.group :: r.outer, group := {} }
  | none, .closeGroup =>
    match r.outer with
    | g :: gs => some { r with outer := gs, group := g.add r.group.close }
    | [] => none
  | none, .openSet => some { r with set := some [] }
  | none, .closeSet => none

/-- The expression that has been read, if nothing is left open. -/
def Reading.finish? (r : Reading) : Option Expression :=
  match r.outer, r.set with
  | [], none => some r.group.close
  | _, _ => none

/-- Read an expression. -/
def Expression.read? (cs : List Char) : Option Expression :=
  (signs? cs).bind fun ss => (ss.foldlM Reading.step {}).bind Reading.finish?

/-- A group of two branches, a set, and a star. -/
example : Expression.read? "(?:^|[\\s_])a\\w*".toList =
    some (.seq (.alt (.seq .start .empty) (.seq (.one [.blank, .letter '_']) .empty))
      (.seq (.one [.letter 'a']) (.seq (.star (.one [.word])) .empty))) := by decide +kernel

/-! ## The prefilter's expression, read -/

variable {c q : Char} {qs cs x before : List Char}

/-- **An escaped character stands for itself,** also one with a meaning of its own. -/
theorem signs?_escape (c : Char) (cs : List Char) :
    signs? (escape c ++ cs) = (signs? cs).map (.chars (.letter c) :: ·) := by
  unfold escape
  split
  · rename_i listed
    have word : c ≠ 'w' := by rintro rfl; exact absurd listed (by decide)
    have blank : c ≠ 's' := by rintro rfl; exact absurd listed (by decide)
    rw [List.cons_append, List.singleton_append, signs?, escaped?, if_neg word, if_neg blank,
      if_pos listed, Option.bind_some]
  · rename_i plain
    have itself : plain? c = some (.chars (.letter c)) := by
      unfold plain?
      split <;> first | exact absurd (by decide) plain | exact if_neg plain
    rw [List.singleton_append, signs?.eq_4, itself, Option.bind_some]
    · rintro d ds rfl
      exact absurd (by decide) plain
    · rintro ds rfl
      exact absurd (by decide) plain

/-- The signs of the letters from the second on, each after word characters. -/
def restSigns (qs : List Char) : List Sign :=
  qs.flatMap fun q => [.chars .word, .star, .chars (.letter q)]

theorem signs?_letters (q : Char) (qs : List Char) :
    signs? ("\\w*".toList.intercalate ((q :: qs).map escape)) =
      some (.chars (.letter q) :: restSigns qs) := by
  induction qs generalizing q with
  | nil =>
    show signs? (escape q ++ []) = _
    rw [signs?_escape]
    rfl
  | cons r qs ih =>
    have gap (cs : List Char) : signs? ("\\w*".toList ++ cs) =
        (signs? cs).map fun ss => .chars .word :: .star :: ss := by
      show ((signs? cs).map (.star :: ·)).map (.chars .word :: ·) = _
      rw [Option.map_map]
      rfl
    rw [List.map_cons, List.map_cons, List.intercalate_cons_cons, List.append_assoc,
      signs?_escape, gap,
      ← List.map_cons, ih r]
    rfl

/-- Where the first letter may stand: at the start of the text or after one of these characters. -/
def Expression.beginning : Expression :=
  .alt (.seq .start .empty) (.seq (.one [.blank, .letter '_', .letter '-']) .empty)

/-- The letters from the second on, each after word characters. -/
def Expression.rest (qs : List Char) : List Expression :=
  qs.flatMap fun q => [.star (.one [.word]), .one [.letter q]]

/-- What the prefilter's expression says. -/
def Expression.ofLetters (q : Char) (qs : List Char) : Expression :=
  .sequence (.beginning :: .one [.letter q] :: rest qs)

theorem foldlM_restSigns (qs : List Char) (es : List Expression) :
    (restSigns qs).foldlM Reading.step ⟨[], ⟨[], es⟩, none⟩ =
      some ⟨[], ⟨[], (Expression.rest qs).reverse ++ es⟩, none⟩ := by
  induction qs generalizing es with
  | nil => rfl
  | cons q qs ih =>
    have split : (Expression.rest (q :: qs)).reverse ++ es =
        (Expression.rest qs).reverse ++ .one [.letter q] :: .star (.one [.word]) :: es := by
      simp [Expression.rest]
    rw [split, ← ih]
    rfl

/-- The signs in front of the letters. -/
def beginningSigns : List Sign :=
  [.openGroup, .start, .bar, .openSet, .chars .blank, .chars (.letter '_'), .chars (.letter '-'),
    .closeSet, .closeGroup]

theorem signs?_beginning (cs : List Char) :
    signs? ("(?:^|[\\s_\\-])".toList ++ cs) =
      beginningSigns.foldr (fun s signs => signs.map (s :: ·)) (signs? cs) := rfl

/-- **The prefilter's expression is read as what it says.** -/
theorem read?_expression (q : Char) (qs : List Char) :
    Expression.read?
        ("(?:^|[\\s_\\-])".toList ++ "\\w*".toList.intercalate ((q :: qs).map escape)) =
      some (Expression.ofLetters q qs) := by
  rw [Expression.read?, signs?_beginning, signs?_letters]
  show ((restSigns qs).foldlM Reading.step
    ⟨[], ⟨[], [.one [.letter q], .beginning]⟩, none⟩).bind Reading.finish? = _
  rw [foldlM_restSigns, Option.bind_some]
  show some (Expression.sequence _) = _
  simp [Expression.ofLetters]

/-! ## What the expression matches -/

namespace Expression

variable {e a b : Expression} {es : List Expression} {k : CharClass} {sets : List CharClass}

theorem matches_empty : empty.Matches before x ↔ x = [] := by
  constructor
  · intro h
    cases h
    rfl
  · rintro rfl
    exact .empty

theorem matches_start : start.Matches before x ↔ before = [] ∧ x = [] := by
  constructor
  · intro h
    cases h
    exact ⟨rfl, rfl⟩
  · rintro ⟨rfl, rfl⟩
    exact .start

theorem matches_one : (one sets).Matches before x ↔ ∃ c, x = [c] ∧ ∃ k ∈ sets, k.Holds c := by
  constructor
  · intro h
    cases h with
    | one listed holds => exact ⟨_, rfl, _, listed, holds⟩
  · rintro ⟨c, rfl, k, listed, holds⟩
    exact .one listed holds

theorem matches_alt : (alt a b).Matches before x ↔ a.Matches before x ∨ b.Matches before x := by
  constructor
  · intro h
    cases h with
    | altLeft left => exact Or.inl left
    | altRight right => exact Or.inr right
  · rintro (left | right)
    · exact .altLeft left
    · exact .altRight right

theorem matches_seq :
    (seq a b).Matches before x ↔
      ∃ y z, x = y ++ z ∧ a.Matches before y ∧ b.Matches (before ++ y) z := by
  constructor
  · intro h
    cases h with
    | seq left right => exact ⟨_, _, rfl, left, right⟩
  · rintro ⟨y, z, rfl, left, right⟩
    exact .seq left right

theorem matches_star_one : (star (one [k])).Matches before x ↔ ∀ c ∈ x, k.Holds c := by
  constructor
  · intro h
    generalize run : star (one [k]) = e at h
    induction h with
    | empty | start | one | seq | altLeft | altRight => cases run
    | starNil => simp
    | starCons first more _ ih =>
      cases run
      obtain ⟨c, rfl, k', listed, holds⟩ := matches_one.1 first
      obtain rfl := List.mem_singleton.1 listed
      intro d hd
      rcases List.mem_cons.1 hd with rfl | later
      · exact holds
      · exact ih rfl d later
  · intro h
    induction x generalizing before with
    | nil => exact .starNil
    | cons c x ih =>
      have first : (one [k]).Matches before [c] :=
        .one List.mem_cons_self (h c List.mem_cons_self)
      exact .starCons first (ih fun d hd => h d (List.mem_cons_of_mem _ hd))

end Expression

/-! ## Letters strung together -/

/-- The piece is the letters one after the other, each behind word characters. -/
def Spells (qs x : List Char) : Prop :=
  ∃ later : List (List Char × Char), x = later.flatMap (fun p => p.1 ++ [p.2]) ∧
    List.Forall₂ SameLetter (later.map (·.2)) qs ∧ ∀ p ∈ later, ∀ d ∈ p.1, isWord d = true

theorem spells_nil : Spells [] x ↔ x = [] := by
  constructor
  · rintro ⟨later, rfl, same, -⟩
    cases later with
    | nil => rfl
    | cons p later => cases same
  · rintro rfl
    exact ⟨[], rfl, .nil, nofun⟩

theorem spells_cons :
    Spells (q :: qs) x ↔ ∃ gap c y, x = gap ++ c :: y ∧ (∀ d ∈ gap, isWord d = true) ∧
      SameLetter c q ∧ Spells qs y := by
  constructor
  · rintro ⟨later, rfl, same, words⟩
    cases later with
    | nil => cases same
    | cons p later =>
      cases same with
      | cons first same =>
        refine ⟨p.1, p.2, _, ?_, words p List.mem_cons_self, first, later, rfl, same, ?_⟩
        · simp
        · exact fun r hr => words r (List.mem_cons_of_mem _ hr)
  · rintro ⟨gap, c, y, rfl, word, first, later, rfl, same, words⟩
    refine ⟨(gap, c) :: later, by simp, .cons first same, ?_⟩
    intro r hr
    rcases List.mem_cons.1 hr with rfl | hr
    · exact word
    · exact words r hr

theorem follows_iff : Follows qs cs ↔ ∃ x after, cs = x ++ after ∧ Spells qs x := by
  induction qs generalizing cs with
  | nil => exact iff_of_true trivial ⟨[], cs, rfl, spells_nil.2 rfl⟩
  | cons q qs ih =>
    constructor
    · rintro ⟨gap, c, rest, rfl, words, same, follow⟩
      obtain ⟨x, after, rfl, spells⟩ := ih.1 follow
      exact ⟨gap ++ c :: x, after, by simp, spells_cons.2 ⟨gap, c, x, rfl, words, same, spells⟩⟩
    · rintro ⟨x, after, rfl, spells⟩
      obtain ⟨gap, c, y, rfl, words, same, spells⟩ := spells_cons.1 spells
      exact ⟨gap, c, y ++ after, by simp, words, same, ih.2 ⟨y, after, rfl, spells⟩⟩

theorem matches_rest :
    (Expression.sequence (Expression.rest qs)).Matches before x ↔ Spells qs x := by
  induction qs generalizing before x with
  | nil => exact Expression.matches_empty.trans spells_nil.symm
  | cons q qs ih =>
    show (Expression.seq _ (.seq _ (Expression.sequence (Expression.rest qs)))).Matches before x ↔ _
    rw [spells_cons, Expression.matches_seq]
    constructor
    · rintro ⟨gap, z, rfl, words, letter⟩
      obtain ⟨w, y, rfl, one, spells⟩ := Expression.matches_seq.1 letter
      obtain ⟨c, rfl, k, listed, same⟩ := Expression.matches_one.1 one
      obtain rfl := List.mem_singleton.1 listed
      exact ⟨gap, c, y, rfl, Expression.matches_star_one.1 words, same, ih.1 spells⟩
    · rintro ⟨gap, c, y, rfl, words, same, spells⟩
      have one : (Expression.one [.letter q]).Matches (before ++ gap) [c] :=
        .one List.mem_cons_self same
      exact ⟨gap, c :: y, rfl, Expression.matches_star_one.2 words, .seq one (ih.2 spells)⟩

theorem sameLetter_special (listed : q ∈ special) : SameLetter c q ↔ c = q := by
  have marks : special.all (fun d => IsMark d) = true := by decide
  exact fold_eq_fold_iff (of_decide_eq_true (List.all_eq_true.1 marks q listed))

theorem holds_beginning :
    (∃ k ∈ [CharClass.blank, .letter '_', .letter '-'], k.Holds c) ↔ Separates c := by
  have underscore : SameLetter c '_' ↔ c = '_' := fold_eq_fold_iff (by decide)
  have hyphen : SameLetter c '-' ↔ c = '-' := fold_eq_fold_iff (by decide)
  simp [CharClass.Holds, Separates, underscore, hyphen]

/-- Before the first letter the text begins, or there is a character that separates. -/
theorem matches_beginning :
    Expression.beginning.Matches before x ↔
      before = [] ∧ x = [] ∨ ∃ c, x = [c] ∧ Separates c := by
  have alone {e : Expression} :
      (Expression.seq e .empty).Matches before x ↔ e.Matches before x := by
    simp [Expression.matches_seq, Expression.matches_empty]
  rw [Expression.beginning, Expression.matches_alt, alone, alone, Expression.matches_start,
    Expression.matches_one]
  simp only [holds_beginning]

theorem matches_ofLetters :
    (Expression.ofLetters q qs).Matches before x ↔ ∃ y c z, x = y ++ c :: z ∧
      Expression.beginning.Matches before y ∧ SameLetter c q ∧ Spells qs z := by
  show (Expression.seq _ (.seq _ (Expression.sequence (Expression.rest qs)))).Matches before x ↔ _
  rw [Expression.matches_seq]
  constructor
  · rintro ⟨y, w, rfl, beginning, letters⟩
    obtain ⟨v, z, rfl, first, rest⟩ := Expression.matches_seq.1 letters
    obtain ⟨c, rfl, k, listed, same⟩ := Expression.matches_one.1 first
    obtain rfl := List.mem_singleton.1 listed
    exact ⟨y, c, z, rfl, beginning, same, matches_rest.1 rest⟩
  · rintro ⟨y, c, z, rfl, beginning, same, spells⟩
    have first : (Expression.one [.letter q]).Matches (before ++ y) [c] :=
      .one List.mem_cons_self same
    exact ⟨y, c :: z, rfl, beginning, .seq first (matches_rest.2 spells)⟩

/-- The letters `q :: qs` are in a text: the first of them where a word may begin, and then the
others. -/
def Holds (q : Char) (qs text : List Char) : Prop :=
  ∃ before c x after, text = before ++ c :: x ++ after ∧ BeginsAfter before.getLast? ∧
    SameLetter c q ∧ Spells qs x

/-- **The expression is found where the letters are.** -/
theorem foundIn_ofLetters : (Expression.ofLetters q qs).FoundIn cs ↔ Holds q qs cs := by
  constructor
  · rintro ⟨before, x, after, rfl, found⟩
    obtain ⟨y, c, z, rfl, beginning, same, spells⟩ := matches_ofLetters.1 found
    rcases matches_beginning.1 beginning with ⟨rfl, rfl⟩ | ⟨p, rfl, separates⟩
    · exact ⟨[], c, z, after, rfl, trivial, same, spells⟩
    · refine ⟨before ++ [p], c, z, after, by simp, ?_, same, spells⟩
      rwa [List.getLast?_append_cons, List.getLast?_singleton]
  · rintro ⟨before, c, x, after, rfl, begins, same, spells⟩
    cases before using List.reverseRecOn with
    | nil =>
      refine ⟨[], c :: x, after, rfl, matches_ofLetters.2 ⟨[], c, x, rfl, ?_, same, spells⟩⟩
      exact matches_beginning.2 (Or.inl ⟨rfl, rfl⟩)
    | append_singleton before p =>
      rw [List.getLast?_concat] at begins
      refine ⟨before, p :: c :: x, after, by simp,
        matches_ofLetters.2 ⟨[p], c, x, rfl, ?_, same, spells⟩⟩
      exact matches_beginning.2 (Or.inr ⟨p, rfl, begins⟩)

section

variable [Builder]

/-- **A text passes where the letters are.** -/
theorem passes_iff_holds {query text : String} (tested : ofQuery? query = some (q :: qs)) :
    passes query text = true ↔ Holds q qs text.toList := by
  rw [passes_iff, Shown, tested, or_iff_right (Option.some_ne_none _)]
  constructor
  · rintro ⟨before, c, rest, split, q', qs', same, begins, first, follow⟩
    rw [tested] at same
    cases same
    rw [Option.or_none] at begins
    obtain ⟨x, after, rfl, spells⟩ := follows_iff.1 follow
    exact ⟨before, c, x, after, by simp [split], begins, first, spells⟩
  · rintro ⟨before, c, x, after, split, begins, first, spells⟩
    refine ⟨before, c, x ++ after, by simp [split], q, qs, tested, ?_, first, ?_⟩
    · rwa [Option.or_none]
    · exact follows_iff.2 ⟨x, after, rfl, spells⟩

/-- The expression of a query that is tested for says what the letters of the query ask for. -/
theorem exists_expression {query : String} (tested : ofQuery? query = some (q :: qs)) :
    ∃ expression, expression? query = some expression ∧
      Expression.read? expression.toList = some (Expression.ofLetters q qs) := by
  refine ⟨_, by rw [expression?, tested, Option.map_some], ?_⟩
  rw [toList_expressionOf, read?_expression]

theorem exists_letters {query : String} (short : query.length ≤ 200)
    (asks : ∃ c ∈ query.toList, isBlank c = false) :
    ∃ q qs, letters query.toList = q :: qs ∧ ofQuery? query = some (q :: qs) := by
  obtain ⟨c, hc, plain⟩ := asks
  have counts : c ∈ letters query.toList := List.mem_filter.2 ⟨hc, by simp [plain]⟩
  have tested := ofQuery?_of_short (List.ne_nil_of_mem counts)
    ((List.length_filter_le _ _).trans short)
  cases split : letters query.toList with
  | nil => exact absurd (split ▸ counts) List.not_mem_nil
  | cons q qs => exact ⟨q, qs, rfl, split ▸ tested⟩

end

theorem beginsAfter_iff {prev : Option Char} : BeginsAfter prev ↔ ∀ p ∈ prev, Separates p := by
  cases prev with
  | none => exact iff_of_true trivial nofun
  | some p => simp [BeginsAfter]

/-- **The prefilter, its expression and the letters of the query agree.** For a query that is not
blank and has at most 200 characters there is an expression, which can be read. A text passes just
when the expression is found in it, and just when the letters of the query are in it: `first` at the
start of the text or after white space, `_` or `-`, and `later` each of the others behind a run of
word characters. What has a meaning of its own in an expression is such a letter too, the same as
itself alone. -/
theorem passes_iff_pieces [Builder] {query : String} (short : query.length ≤ 200)
    (asks : ∃ c ∈ query.toList, isBlank c = false) :
    (∀ q ∈ special, ∀ c, SameLetter c q ↔ c = q) ∧
    ∃ expression e, expression? query = some expression ∧
      Expression.read? expression.toList = some e ∧
      ∀ text : String,
        (passes query text = true ↔ e.FoundIn text.toList) ∧
        (passes query text = true ↔
          ∃ (before : List Char) (first : Char) (later : List (List Char × Char))
              (after : List Char),
            text.toList = before ++ first :: later.flatMap (fun p => p.1 ++ [p.2]) ++ after ∧
            List.Forall₂ SameLetter (first :: later.map (·.2))
              (query.toList.filter (!isBlank ·)) ∧
            (∀ p ∈ later, ∀ d ∈ p.1, isWord d = true) ∧
            ∀ p ∈ before.getLast?, isBlank p = true ∨ p = '_' ∨ p = '-') := by
  obtain ⟨q, qs, split, tested⟩ := exists_letters short asks
  obtain ⟨expression, written, read⟩ := exists_expression tested
  refine ⟨fun q listed c => sameLetter_special listed, expression, _, written, read,
    fun text => ⟨?_, ?_⟩⟩
  · rw [passes_iff_holds tested, foundIn_ofLetters]
  · have split' : query.toList.filter (!isBlank ·) = q :: qs := split
    rw [passes_iff_holds tested, split']
    constructor
    · rintro ⟨before, first, x, after, shape, begins, same, later, rfl, others, words⟩
      exact ⟨before, first, later, after, shape, .cons same others, words, beginsAfter_iff.1 begins⟩
    · rintro ⟨before, first, later, after, shape, letters, words, begins⟩
      obtain ⟨same, others⟩ := List.forall₂_cons.1 letters
      have begins := beginsAfter_iff.2 begins
      exact ⟨before, first, _, after, shape, begins, same, later, rfl, others, words⟩

/-- A dot in a query stands for itself: it is found where it stands, and no other character is taken
for it. -/
theorem passes_iff_pieces_dot :
    "a.b".length ≤ 200 ∧ (∃ c ∈ "a.b".toList, isBlank c = false) ∧
      passes "a.b" "x_Az.b" = true ∧ passes "a.b" "x_Azb" = false := by
  have short : "a.b".length ≤ 200 := by decide
  have asks : ∃ c ∈ "a.b".toList, isBlank c = false := ⟨'a', by decide, by decide⟩
  obtain ⟨themselves, _, _, _, _, agree⟩ := passes_iff_pieces short asks
  refine ⟨short, asks, ?_, ?_⟩
  · refine (agree "x_Az.b").2.2
      ⟨['x', '_'], 'A', [(['z'], '.'), ([], 'b')], [], by decide, ?_, ?_, ?_⟩
    · exact .cons (by decide) (.cons (by decide) (.cons (by decide) .nil))
    · simpa using (by decide : isWord 'z' = true)
    · simp
  · refine Bool.eq_false_iff.2 fun passed => ?_
    obtain ⟨before, first, later, after, text, letters, -⟩ := (agree "x_Azb").2.1 passed
    have letters' : List.Forall₂ SameLetter (first :: later.map (·.2)) ['a', '.', 'b'] := letters
    cases later with
    | nil => cases letters' with | cons _ none => cases none
    | cons p later =>
      have same : SameLetter p.2 '.' := (List.forall₂_cons.1 (List.forall₂_cons.1 letters').2).1
      have dot : p.2 = '.' := (themselves '.' (by decide) p.2).1 same
      have there : '.' ∈ "x_Azb".toList := by rw [text, ← dot]; simp
      exact absurd there (by decide)

end CodeIndex.Prefilter
