import CodeIndex.Unicode.Identifier

/-!
# Patterns of tokens

A pattern is a regular expression over characters. It is matched by derivatives: `p.deriv c` matches
what may follow `c` in a match of `p`. Main statement: `matches_iff`, which ties the derivatives to
the inductive relation `Pattern.Matches`.
-/

namespace CodeIndex.Grammar

/-- A set of characters. -/
inductive CharSet where
  | range (lo hi : Char)
  | identifierStart
  | identifierContinue
  | union (a b : CharSet)
  | compl (a : CharSet)
  deriving DecidableEq, Hashable, Repr

namespace CharSet

def contains : CharSet → Char → Bool
  | range lo hi, c => lo ≤ c && c ≤ hi
  | identifierStart, c => Unicode.startsIdentifier c
  | identifierContinue, c => Unicode.continuesIdentifier c
  | union a b, c => a.contains c || b.contains c
  | compl a, c => !a.contains c

def single (c : Char) : CharSet := range c c

/-- No character: the complement of everything. -/
def none : CharSet := compl (range '\x00' (Char.ofNat 0x10ffff))

def ofList : List Char → CharSet
  | [] => none
  | [c] => single c
  | c :: cs => union (single c) (ofList cs)

end CharSet

/-- A regular expression over characters. -/
inductive Pattern where
  | never
  | empty
  | one (s : CharSet)
  | seq (a b : Pattern)
  | alt (a b : Pattern)
  | star (a : Pattern)
  deriving DecidableEq, Hashable, Repr, Inhabited

namespace Pattern

/-- The empty text matches. -/
def nullable : Pattern → Bool
  | never | one _ => false
  | empty | star _ => true
  | seq a b => a.nullable && b.nullable
  | alt a b => a.nullable || b.nullable

/-- Sequence that absorbs `never` and `empty`. -/
def seqOf : Pattern → Pattern → Pattern
  | never, _ => never
  | empty, b => b
  | a, b => if b = never then never else seq a b

/-- Alternative that absorbs `never` and a repeated branch. -/
def altOf : Pattern → Pattern → Pattern
  | never, b => b
  | a, b => if b = never ∨ a = b then a else alt a b

/-- What may follow `c` in a match. -/
def deriv : Pattern → Char → Pattern
  | never, _ | empty, _ => never
  | one s, c => if s.contains c then empty else never
  | seq a b, c =>
    if a.nullable then altOf (seqOf (a.deriv c) b) (b.deriv c) else seqOf (a.deriv c) b
  | alt a b, c => altOf (a.deriv c) (b.deriv c)
  | star a, c => seqOf (a.deriv c) (star a)

/-- The whole text matches. -/
def accepts (p : Pattern) (cs : List Char) : Bool := (cs.foldl deriv p).nullable

/-! ## Building patterns -/

def char (c : Char) : Pattern := one (.single c)

def word (s : String) : Pattern := s.toList.foldr (fun c p => seqOf (char c) p) empty

def ofSeq (ps : List Pattern) : Pattern := ps.foldr seqOf empty

def ofAlt (ps : List Pattern) : Pattern := ps.foldr altOf never

def opt (p : Pattern) : Pattern := altOf p empty

def plus (p : Pattern) : Pattern := seqOf p (star p)

/-- Exactly `n` times. -/
def times (p : Pattern) : Nat → Pattern
  | 0 => empty
  | n + 1 => seqOf p (p.times n)

/-- Between `n` and `n + k` times. -/
def upTo (p : Pattern) (n : Nat) : Nat → Pattern
  | 0 => p.times n
  | k + 1 => altOf (p.times (n + k + 1)) (p.upTo n k)

def oneOf (s : String) : Pattern := one (.ofList s.toList)

def noneOf (s : String) : Pattern := one (.compl (.ofList s.toList))

def range (lo hi : Char) : Pattern := one (.range lo hi)

def digit : Pattern := range '0' '9'

def letter : Pattern := one (.union (.range 'a' 'z') (.range 'A' 'Z'))

def hexDigit : Pattern := one (.union (.range '0' '9') (.union (.range 'a' 'f') (.range 'A' 'F')))

/-! ## What a pattern matches -/

/-- The texts of a pattern. -/
inductive Matches : Pattern → List Char → Prop where
  | empty : Matches empty []
  | one {s c} : s.contains c = true → Matches (one s) [c]
  | seq {a b x y} : Matches a x → Matches b y → Matches (seq a b) (x ++ y)
  | altLeft {a b x} : Matches a x → Matches (alt a b) x
  | altRight {a b x} : Matches b x → Matches (alt a b) x
  | starNil {a} : Matches (star a) []
  | starCons {a x y} : Matches a x → Matches (star a) y → Matches (star a) (x ++ y)

theorem matches_seq {a b : Pattern} {z : List Char} :
    Matches (seq a b) z ↔ ∃ x y, z = x ++ y ∧ Matches a x ∧ Matches b y := by
  constructor
  · intro h; cases h with | seq ha hb => exact ⟨_, _, rfl, ha, hb⟩
  · rintro ⟨x, y, rfl, ha, hb⟩; exact .seq ha hb

theorem matches_alt {a b : Pattern} {z : List Char} :
    Matches (alt a b) z ↔ Matches a z ∨ Matches b z := by
  constructor
  · intro h
    cases h with
    | altLeft h => exact .inl h
    | altRight h => exact .inr h
  · rintro (h | h)
    · exact .altLeft h
    · exact .altRight h

theorem not_matches_never {z : List Char} : ¬ Matches never z := by
  intro h; cases h

theorem matches_empty {z : List Char} : Matches empty z ↔ z = [] := by
  constructor
  · intro h; cases h; rfl
  · rintro rfl; exact .empty

theorem matches_seqOf {a b : Pattern} {z : List Char} :
    Matches (seqOf a b) z ↔ Matches (seq a b) z := by
  rw [matches_seq]
  cases a with
  | never => simp [seqOf, not_matches_never]
  | empty =>
    simp only [seqOf, matches_empty]
    constructor
    · intro h; exact ⟨[], z, rfl, rfl, h⟩
    · rintro ⟨x, y, rfl, rfl, h⟩; exact h
  | one s => by_cases h : b = never <;> simp [seqOf, h, not_matches_never, matches_seq]
  | seq c d => by_cases h : b = never <;> simp [seqOf, h, not_matches_never, matches_seq]
  | alt c d => by_cases h : b = never <;> simp [seqOf, h, not_matches_never, matches_seq]
  | star c => by_cases h : b = never <;> simp [seqOf, h, not_matches_never, matches_seq]

theorem matches_altOf {a b : Pattern} {z : List Char} :
    Matches (altOf a b) z ↔ Matches a z ∨ Matches b z := by
  have key : Matches (if b = never ∨ a = b then a else alt a b) z ↔ Matches a z ∨ Matches b z := by
    split
    · next h =>
      rcases h with h | h
      · simp [h, not_matches_never]
      · simp [h]
    · exact matches_alt
  cases a with
  | never => simp [altOf, not_matches_never]
  | empty => exact key
  | one s => exact key
  | seq c d => exact key
  | alt c d => exact key
  | star c => exact key

theorem nullable_iff {p : Pattern} : p.nullable = true ↔ Matches p [] := by
  induction p with
  | never => simp [nullable, not_matches_never]
  | empty => simp [nullable, matches_empty]
  | one s => simp only [nullable, Bool.false_eq_true, false_iff]; intro h; cases h
  | seq a b iha ihb =>
    simp only [nullable, Bool.and_eq_true, iha, ihb, matches_seq]
    constructor
    · rintro ⟨ha, hb⟩; exact ⟨[], [], rfl, ha, hb⟩
    · rintro ⟨x, y, h, ha, hb⟩
      obtain ⟨rfl, rfl⟩ := List.append_eq_nil_iff.1 h.symm
      exact ⟨ha, hb⟩
  | alt a b iha ihb => simp [nullable, matches_alt, iha, ihb]
  | star a _ => simp [nullable, Matches.starNil]

theorem matches_star_cons {a : Pattern} {c : Char} {z : List Char} (h : Matches (star a) (c :: z)) :
    ∃ x y, z = x ++ y ∧ Matches a (c :: x) ∧ Matches (star a) y := by
  generalize hp : star a = p at h
  generalize hw : c :: z = w at h
  induction h with
  | empty | one _ | seq _ _ | altLeft _ | altRight _ => cases hp
  | starNil => cases hw
  | @starCons a' x y hx hy _ ih =>
    cases hp
    cases x with
    | nil => exact ih rfl (by simpa using hw)
    | cons d x =>
      simp only [List.cons_append, List.cons.injEq] at hw
      obtain ⟨rfl, rfl⟩ := hw
      exact ⟨x, y, rfl, hx, hy⟩

theorem deriv_iff {p : Pattern} {c : Char} {z : List Char} :
    Matches (p.deriv c) z ↔ Matches p (c :: z) := by
  induction p generalizing z with
  | never => simp [deriv, not_matches_never]
  | empty => simp [deriv, not_matches_never, matches_empty]
  | one s =>
    by_cases h : s.contains c = true
    · simp only [deriv, h, if_true, matches_empty]
      constructor
      · rintro rfl; exact .one h
      · intro hm; cases hm; rfl
    · simp only [deriv, h, if_false, Bool.false_eq_true]
      constructor
      · intro hm; exact absurd hm not_matches_never
      · intro hm; cases hm; contradiction
  | seq a b iha ihb =>
    have key : Matches (seqOf (a.deriv c) b) z ↔
        ∃ x y, z = x ++ y ∧ Matches a (c :: x) ∧ Matches b y := by
      rw [matches_seqOf, matches_seq]; simp [iha]
    rw [matches_seq]
    by_cases hn : a.nullable = true
    · simp only [deriv, hn, if_true, matches_altOf, key, ihb]
      constructor
      · rintro (⟨x, y, rfl, hx, hy⟩ | h)
        · exact ⟨c :: x, y, rfl, hx, hy⟩
        · exact ⟨[], c :: z, rfl, nullable_iff.1 hn, h⟩
      · rintro ⟨x, y, hxy, hx, hy⟩
        cases x with
        | nil => simp only [List.nil_append] at hxy; subst hxy; exact .inr hy
        | cons d x =>
          simp only [List.cons_append, List.cons.injEq] at hxy
          obtain ⟨rfl, rfl⟩ := hxy
          exact .inl ⟨x, y, rfl, hx, hy⟩
    · simp only [deriv, hn, Bool.false_eq_true, if_false, key]
      constructor
      · rintro ⟨x, y, rfl, hx, hy⟩; exact ⟨c :: x, y, rfl, hx, hy⟩
      · rintro ⟨x, y, hxy, hx, hy⟩
        cases x with
        | nil => exact absurd (nullable_iff.2 hx) hn
        | cons d x =>
          simp only [List.cons_append, List.cons.injEq] at hxy
          obtain ⟨rfl, rfl⟩ := hxy
          exact ⟨x, y, rfl, hx, hy⟩
  | alt a b iha ihb => simp [deriv, matches_altOf, matches_alt, iha, ihb]
  | star a iha =>
    rw [deriv, matches_seqOf, matches_seq]
    constructor
    · rintro ⟨x, y, rfl, hx, hy⟩
      exact .starCons (iha.1 hx) hy
    · intro h
      obtain ⟨x, y, hz, hx, hy⟩ := matches_star_cons h
      exact ⟨x, y, hz, iha.2 hx, hy⟩

/-- **Matching by derivatives decides the relation.** -/
theorem matches_iff {p : Pattern} {cs : List Char} : p.accepts cs = true ↔ Matches p cs := by
  unfold accepts
  induction cs generalizing p with
  | nil => simp [nullable_iff]
  | cons c cs ih => rw [List.foldl_cons, ih, deriv_iff]

end Pattern

end CodeIndex.Grammar
