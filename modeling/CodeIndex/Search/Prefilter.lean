import CodeIndex.Search.Fuzzy

/-!
# Files that cannot hold a match

Before a file is parsed for a search, its text is tested: the characters of the query must occur in
one word, in order and without regard to case, where the text begins or after white space, `_`
or `-`. The test is written as a regular expression, and there is no test if the expression cannot
be built.
-/

namespace CodeIndex.Prefilter

open Unicode

/-- The characters of a query that count. -/
def letters (query : List Char) : List Char := query.filter (!isBlank ·)

/-- A word may begin after this character. -/
def Separates (c : Char) : Prop := isBlank c = true ∨ c = '_' ∨ c = '-'

instance (c : Char) : Decidable (Separates c) := inferInstanceAs (Decidable (_ ∨ _))

/-- Equal but for case. -/
def SameLetter (a b : Char) : Prop := fold a = fold b

instance (a b : Char) : Decidable (SameLetter a b) := inferInstanceAs (Decidable (_ = _))

/-- The letters still to come, for one way of reading the text so far. -/
abbrev Pending := List Char

/-- Add a way of reading unless the one in front awaits the same letters. All ways await the ends of
one query, the longer ones in front. -/
def addPending (s : Pending) (ways : List Pending) : List Pending :=
  match ways with
  | t :: _ => if t.length = s.length then ways else s :: ways
  | [] => [s]

/-- Read one more character: it is the next letter, or a word character between two letters. -/
def advance (c : Char) (ways : List Pending) : List Pending :=
  ways.foldr (fun s out =>
    let out := match s with
      | q :: rest => if SameLetter c q then addPending rest out else out
      | [] => out
    if isWord c then addPending s out else out) []

/-- A word may begin after the character `prev`, or where there is none. -/
def BeginsAfter (prev : Option Char) : Prop :=
  match prev with
  | none => True
  | some p => Separates p

instance : (prev : Option Char) → Decidable (BeginsAfter prev)
  | none => isTrue trivial
  | some p => inferInstanceAs (Decidable (Separates p))

/-- The letters `q :: qs` occur in the rest of a text, where `prev` is the character before it and
`ways` are the readings under way. -/
def occursFrom (q : Char) (qs : List Char) : Option Char → List Pending → List Char → Bool
  | _, ways, [] => ways.any (·.isEmpty)
  | prev, ways, c :: cs =>
    ways.any (·.isEmpty) ||
      let ways := advance c ways
      let ways := if BeginsAfter prev ∧ SameLetter c q then addPending qs ways else ways
      occursFrom q qs (some c) ways cs

/-! ## The expression -/

/-- The characters with a meaning of their own in a regular expression. -/
def special : List Char := "\\.+*?()|[]\x7b\x7d^$#&-~".toList

/-- A character as it is written in an expression. -/
def escape (c : Char) : List Char := if special.contains c then ['\\', c] else [c]

/-- The expression of the test for some letters. -/
def expressionOf (qs : List Char) : String :=
  "(?:^|[\\s_\\-])" ++ "\\w*".intercalate (qs.map fun c => String.ofList (escape c))

/-- The library that builds expressions. It turns down one that would be too large, but no test for
so few letters is. -/
class Builder where
  builds : String → Bool
  builds_of_short : ∀ qs : List Char, qs.length ≤ 200 → builds (expressionOf qs) = true

/-! ## The test -/

section

variable [Builder]

/-- The letters that the text is tested for, if it is tested at all. -/
def ofQuery? (query : String) : Option (List Char) :=
  let qs := letters query.toList
  if qs.isEmpty || !Builder.builds (expressionOf qs) then none else some qs

/-- The text may hold a match of the query. -/
def passes (query text : String) : Bool :=
  match ofQuery? query with
  | some (q :: qs) => occursFrom q qs none [] text.toList
  | _ => true

/-- The expression of a query that is tested for. -/
def expression? (query : String) : Option String := (ofQuery? query).map expressionOf

end

/-! ## The program's own builder -/

theorem toList_expressionOf (qs : List Char) :
    (expressionOf qs).toList =
      "(?:^|[\\s_\\-])".toList ++ "\\w*".toList.intercalate (qs.map escape) := by
  have written : (qs.map fun c => String.ofList (escape c)).map String.toList = qs.map escape := by
    rw [List.map_map]
    exact List.map_congr_left fun c _ => String.toList_ofList
  rw [expressionOf, String.toList_append, String.toList_intercalate, written]

theorem length_escape_le (c : Char) : (escape c).length ≤ 2 := by
  unfold escape
  split <;> simp

theorem length_intercalate_escape_le (qs : List Char) :
    ("\\w*".toList.intercalate (qs.map escape)).length ≤ 5 * qs.length := by
  induction qs with
  | nil => exact Nat.le_refl 0
  | cons q qs ih =>
    have first := length_escape_le q
    cases qs with
    | nil =>
      rw [List.map_singleton, List.intercalate_singleton, List.length_singleton]
      omega
    | cons q' qs =>
      have gap : "\\w*".toList.length = 3 := by decide
      simp only [List.map_cons, List.length_cons] at ih ⊢
      rw [List.intercalate_cons_cons, List.length_append, List.length_append, gap]
      omega

/-- The program itself builds whatever is no longer than the test for 200 letters can be. -/
instance (priority := low) Builder.own : Builder where
  builds e := e.length ≤ 13 + 5 * 200
  builds_of_short qs few := by
    have beginning : "(?:^|[\\s_\\-])".toList.length = 13 := by decide
    have letters := length_intercalate_escape_le qs
    rw [decide_eq_true_eq, ← String.length_toList, toList_expressionOf, List.length_append,
      beginning]
    omega

end CodeIndex.Prefilter
