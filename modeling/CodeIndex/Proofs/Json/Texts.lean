import CodeIndex.Json.Reader
import Mathlib.Data.List.TakeWhile

/-!
# The texts of a JSON value

A value has many texts: there may be white space around each part of it, and the characters of a
string and the digits of a number can be written in several ways.

**Texts** (`Json.SpelledAs`). The grammar says which texts a value has. It follows the value; a text
of a part is always set between white space (`Json.Spaced`).

**Theorem (`read?_of_spelled`).** Each text of a value is read as this value.

A reader of numbers takes all that belongs to a number, so what follows a value must not go on with
one (`Json.Stops`). What follows a value in a text is white space, a comma or the end of an array or
an object.
-/

namespace CodeIndex.Json

variable {c : Char} {cs ds rest before after : List Char} {n : Nat}

/-! ## White space -/

def Blank (cs : List Char) : Prop := ∀ c ∈ cs, isSpace c = true

theorem blank_nil : Blank [] := by simp [Blank]

/-- A text of something, between white space. -/
def Spaced (P : List Char → Prop) (cs : List Char) : Prop :=
  ∃ before text after, Blank before ∧ Blank after ∧ cs = before ++ (text ++ after) ∧ P text

theorem Spaced.of {P : List Char → Prop} (h : P cs) : Spaced P cs :=
  ⟨[], cs, [], blank_nil, blank_nil, by simp, h⟩

theorem Spaced.blank_append {P : List Char → Prop} (spaced : Spaced P cs) (blank : Blank before) :
    Spaced P (before ++ cs) := by
  obtain ⟨front, text, back, hf, hb, rfl, h⟩ := spaced
  refine ⟨before ++ front, text, back, ?_, hb, by simp, h⟩
  intro c hc
  exact (List.mem_append.1 hc).elim (blank c) (hf c)

theorem skipSpace_append (blank : Blank before) : skipSpace (before ++ cs) = skipSpace cs :=
  List.dropWhile_append_of_pos blank

theorem skipSpace_cons (solid : isSpace c = false) : skipSpace (c :: cs) = c :: cs := by
  rw [skipSpace, List.dropWhile_cons_of_neg (by simp [solid])]

theorem skipSpace_of_blank (blank : Blank cs) : skipSpace cs = [] :=
  List.dropWhile_eq_nil_iff.2 blank

/-! ## Strings -/

/-- How the characters of a string are written between its quotes. -/
inductive CharsAs : List Char → List Char → Prop
  | nil : CharsAs [] []
  /-- A character stands for itself, unless it is a quote, a backslash or a control character. -/
  | plain {c : Char} {s cs : List Char} (shown : 0x20 ≤ c.toNat) (no_quote : c ≠ '"')
      (no_backslash : c ≠ '\\') (tail : CharsAs s cs) : CharsAs (c :: s) (c :: cs)
  | short {c letter : Char} {s cs : List Char} (means : escaped? letter = some c)
      (tail : CharsAs s cs) : CharsAs (c :: s) ('\\' :: letter :: cs)
  /-- A character is given by its number in four hexadecimal digits. -/
  | code {a b c d : Char} {n : Nat} {s cs : List Char} (digits : hex4? a b c d = some n)
      (no_high : isHighHalf n = false) (no_low : isLowHalf n = false) (tail : CharsAs s cs) :
      CharsAs (Char.ofNat n :: s) ('\\' :: 'u' :: a :: b :: c :: d :: cs)
  /-- A character with a larger number is given by two halves. -/
  | pair {a b c d e f g h : Char} {high low : Nat} {s cs : List Char}
      (first : hex4? a b c d = some high) (is_high : isHighHalf high = true)
      (second : hex4? e f g h = some low) (is_low : isLowHalf low = true) (tail : CharsAs s cs) :
      CharsAs (joinHalves high low :: s)
        ('\\' :: 'u' :: a :: b :: c :: d :: '\\' :: 'u' :: e :: f :: g :: h :: cs)

theorem isLowHalf_of_isHighHalf (high : isHighHalf n = true) : isLowHalf n = false := by
  simp only [isHighHalf, isLowHalf, Bool.and_eq_true, decide_eq_true_eq, Bool.and_eq_false_iff,
    decide_eq_false_iff_not] at high ⊢
  omega

section

variable {a b d : Char} {out : List Char}

theorem readString_plain (shown : 0x20 ≤ c.toNat) (no_quote : c ≠ '"') (no_backslash : c ≠ '\\') :
    readString out (c :: rest) = readString (c :: out) rest := by
  rw [readString]
  · simp [no_backslash, Nat.not_lt.2 shown]
  all_goals simp_all

theorem readString_short {letter : Char} (means : escaped? letter = some c) :
    readString out ('\\' :: letter :: rest) = readString (c :: out) rest := by
  have no_code : letter ≠ 'u' := by
    rintro rfl
    simp [escaped?] at means
  rw [readString]
  · simp [means]
  all_goals simp_all

theorem readString_code (digits : hex4? a b c d = some n) (no_high : isHighHalf n = false)
    (no_low : isLowHalf n = false) :
    readString out ('\\' :: 'u' :: a :: b :: c :: d :: rest) =
      readString (Char.ofNat n :: out) rest := by
  rw [readString.eq_def]
  simp only [digits]
  split
  · contradiction
  · simp_all
  · simp_all

theorem readString_pair {e f g h : Char} {high low : Nat} (first : hex4? a b c d = some high)
    (is_high : isHighHalf high = true) (second : hex4? e f g h = some low)
    (is_low : isLowHalf low = true) :
    readString out ('\\' :: 'u' :: a :: b :: c :: d :: '\\' :: 'u' :: e :: f :: g :: h :: rest) =
      readString (joinHalves high low :: out) rest := by
  rw [readString.eq_def]
  simp only [first, second, is_high, is_low, isLowHalf_of_isHighHalf is_high, reduceIte,
    Bool.false_eq_true]

end

/-- **A string is read from each of its texts.** -/
theorem readString_of_charsAs {s out : List Char} (spelled : CharsAs s cs) :
    readString out (cs ++ '"' :: rest) = some (String.ofList (out.reverse ++ s), rest) := by
  induction spelled generalizing out with
  | nil => simp [readString]
  | plain shown no_quote no_backslash _ ih =>
    rw [List.cons_append, readString_plain shown no_quote no_backslash, ih]
    simp
  | short means _ ih =>
    rw [List.cons_append, List.cons_append, readString_short means, ih]
    simp
  | code digits no_high no_low _ ih =>
    simp only [List.cons_append]
    rw [readString_code digits no_high no_low, ih]
    simp
  | pair first is_high second is_low _ ih =>
    simp only [List.cons_append]
    rw [readString_pair first is_high second is_low, ih]
    simp

/-- A string's text, with its quotes. -/
def QuotedAs (s : String) (cs : List Char) : Prop :=
  ∃ inside, cs = '"' :: inside ++ ['"'] ∧ CharsAs s.toList inside

theorem QuotedAs.exists_cons {s : String} (quoted : QuotedAs s cs) :
    ∃ c cs', cs = c :: cs' ∧ isSpace c = false ∧ c ≠ '\x7d' := by
  obtain ⟨inside, rfl, -⟩ := quoted
  exact ⟨'"', _, rfl, rfl, by decide⟩

/-! ## Numbers -/

def Digits (ds : List Char) : Prop := ds ≠ [] ∧ ∀ d ∈ ds, isDigit d = true

/-- Whole digits do not begin with a zero, unless it stands alone. -/
def WholeDigits (ds : List Char) : Prop := ds = ['0'] ∨ Digits ds ∧ ds.head? ≠ some '0'

/-- The digits after the point, as they are written. -/
inductive FractionAs : List Char → List Char → Prop
  | none : FractionAs [] []
  | point {ds : List Char} (digits : Digits ds) : FractionAs ds ('.' :: ds)

/-- An exponent as it is written, with a sign or without. -/
inductive ExponentAs : Option Int → List Char → Prop
  | none : ExponentAs .none []
  | bare {e : Char} {ds : List Char} (letter : e = 'e' ∨ e = 'E') (digits : Digits ds) :
      ExponentAs (some (ofDigits (digitsOf ds))) (e :: ds)
  | plus {e : Char} {ds : List Char} (letter : e = 'e' ∨ e = 'E') (digits : Digits ds) :
      ExponentAs (some (ofDigits (digitsOf ds))) (e :: '+' :: ds)
  | minus {e : Char} {ds : List Char} (letter : e = 'e' ∨ e = 'E') (digits : Digits ds) :
      ExponentAs (some (-(ofDigits (digitsOf ds) : Int))) (e :: '-' :: ds)

/-- The texts of a number. -/
def NumberAs (j : Json) (cs : List Char) : Prop :=
  ∃ minus whole fraction exponent point power, WholeDigits whole ∧ FractionAs fraction point ∧
    ExponentAs exponent power ∧
    cs = (if minus then ['-'] else []) ++ (whole ++ (point ++ power)) ∧
    j = ofParts minus (digitsOf whole) (digitsOf fraction) exponent

/-- What follows does not go on with a number. -/
def Stops (rest : List Char) : Prop :=
  ∀ c ∈ rest.head?, isDigit c = false ∧ c ≠ '.' ∧ c ≠ 'e' ∧ c ≠ 'E'

/-- What follows does not go on with digits. -/
def NoDigit (rest : List Char) : Prop := ∀ c ∈ rest.head?, isDigit c = false

theorem Stops.noDigit (stops : Stops rest) : NoDigit rest := fun c hc => (stops c hc).1

theorem isDigit_of_exponent (letter : c = 'e' ∨ c = 'E') : isDigit c = false := by
  obtain rfl | rfl := letter <;> rfl

theorem noDigit_cons (other : isDigit c = false) : NoDigit (c :: cs) := by
  rintro _ ⟨⟩
  exact other

theorem readDigits_append (digits : Digits ds) (stops : NoDigit rest) :
    readDigits (ds ++ rest) = (digitsOf ds, rest) := by
  rw [readDigits, List.takeWhile_append_of_pos digits.2, List.dropWhile_append_of_pos digits.2]
  cases rest with
  | nil => simp
  | cons c rest => simp [stops c rfl]

theorem digitsOf_ne_nil (digits : Digits ds) : digitsOf ds ≠ [] := by
  simp [digitsOf, digits.1]

theorem WholeDigits.exists_cons (whole : WholeDigits ds) :
    ∃ d ds', ds = d :: ds' ∧ isDigit d = true := by
  rcases whole with rfl | ⟨digits, -⟩
  · exact ⟨'0', [], rfl, rfl⟩
  · obtain ⟨d, ds, rfl⟩ := List.exists_cons_of_ne_nil digits.1
    exact ⟨d, ds, rfl, digits.2 d (by simp)⟩

theorem readWhole_append (whole : WholeDigits ds) (stops : NoDigit rest) :
    readWhole (ds ++ rest) = some (digitsOf ds, rest) := by
  rcases whole with rfl | ⟨digits, no_zero⟩
  · have none : (rest.head?.map isDigit).getD false = false := by
      cases rest with
      | nil => rfl
      | cons c rest => exact stops c rfl
    simp [readWhole, none, digitsOf]
  · obtain ⟨d, ds, rfl⟩ := List.exists_cons_of_ne_nil digits.1
    have other : d ≠ '0' := fun zero => no_zero (by rw [zero]; rfl)
    rw [List.cons_append, readWhole]
    · rw [← List.cons_append, readDigits_append digits stops]
      split
      · rename_i nothing
        exact absurd (congrArg Prod.fst nothing) (digitsOf_ne_nil digits)
      · rfl
    · rintro rest' same
      exact other (List.cons.inj same).1

theorem FractionAs.noDigit (fraction : FractionAs ds cs) (stops : NoDigit rest) :
    NoDigit (cs ++ rest) := by
  cases fraction with
  | none => exact stops
  | point digits => exact noDigit_cons rfl

theorem readFraction_append (fraction : FractionAs ds cs) (stops : NoDigit rest)
    (no_point : rest.head? ≠ some '.') :
    readFraction (cs ++ rest) = some (digitsOf ds, rest) := by
  cases fraction with
  | none =>
    rw [List.nil_append, readFraction]
    · rfl
    · rintro rest' rfl
      exact no_point rfl
  | point digits =>
    rw [List.cons_append, readFraction, readDigits_append digits stops]
    split
    · rename_i nothing
      exact absurd (congrArg Prod.fst nothing) (digitsOf_ne_nil digits)
    · rfl

variable {exponent : Option Int}

theorem ExponentAs.head (power : ExponentAs exponent cs) (stops : Stops rest) :
    NoDigit (cs ++ rest) ∧ (cs ++ rest).head? ≠ some '.' := by
  cases power with
  | none => exact ⟨stops.noDigit, fun point => (stops '.' point).2.1 rfl⟩
  | bare letter | plus letter | minus letter =>
    refine ⟨noDigit_cons (isDigit_of_exponent letter), fun point => ?_⟩
    obtain rfl | rfl := letter <;> cases point

theorem readExponent_append (power : ExponentAs exponent cs) (stops : Stops rest) :
    readExponent (cs ++ rest) = some (exponent, rest) := by
  cases power with
  | none =>
    cases rest with
    | nil => rfl
    | cons c rest =>
      obtain ⟨-, -, lower, upper⟩ := stops c rfl
      simp [readExponent, lower, upper]
  | bare letter digits =>
    obtain ⟨d, ds, rfl⟩ := List.exists_cons_of_ne_nil digits.1
    have no_minus : d ≠ '-' := by
      rintro rfl
      exact absurd (digits.2 '-' (by simp)) (by decide)
    have no_plus : d ≠ '+' := by
      rintro rfl
      exact absurd (digits.2 '+' (by simp)) (by decide)
    have taken := readDigits_append digits stops.noDigit
    rw [List.cons_append] at taken
    simp [readExponent, letter, no_minus, no_plus, taken, digitsOf]
  | plus letter digits | minus letter digits =>
    have nonempty := digitsOf_ne_nil digits
    simp [readExponent, letter, readDigits_append digits stops.noDigit]

/-- **A number is read from each of its texts.** -/
theorem readNumber_append {j : Json} (number : NumberAs j cs) (stops : Stops rest) :
    readNumber (cs ++ rest) = some (j, rest) := by
  obtain ⟨minus, whole, fraction, exponent, point, power, hw, hf, he, rfl, rfl⟩ := number
  obtain ⟨no_digit, no_point⟩ := he.head stops
  have readings : readWhole (whole ++ (point ++ (power ++ rest))) =
        some (digitsOf whole, point ++ (power ++ rest)) ∧
      readFraction (point ++ (power ++ rest)) = some (digitsOf fraction, power ++ rest) ∧
      readExponent (power ++ rest) = some (exponent, rest) :=
    ⟨readWhole_append hw (hf.noDigit no_digit), readFraction_append hf no_digit no_point,
      readExponent_append he stops⟩
  obtain ⟨wholeRead, fractionRead, exponentRead⟩ := readings
  simp only [List.append_assoc]
  cases minus with
  | true =>
    simp [readNumber, wholeRead, fractionRead, exponentRead]
  | false =>
    obtain ⟨d, ds, rfl, digit⟩ := hw.exists_cons
    have no_minus : d ≠ '-' := by
      rintro rfl
      exact absurd digit (by decide)
    simp only [List.cons_append] at wholeRead
    simp [readNumber, no_minus, wholeRead, fractionRead, exponentRead]

/-! ## Values -/

mutual

/-- The texts of a value, without white space around them. -/
def SpelledAs : Json → List Char → Prop
  | null, cs => cs = ['n', 'u', 'l', 'l']
  | bool true, cs => cs = ['t', 'r', 'u', 'e']
  | bool false, cs => cs = ['f', 'a', 'l', 's', 'e']
  | int n, cs => NumberAs (int n) cs
  | real x, cs => NumberAs (real x) cs
  | huge, cs => NumberAs huge cs
  | str s, cs => QuotedAs s cs
  | arr xs, cs => ∃ blank texts, Blank blank ∧ ItemsAs xs texts ∧
      cs = '[' :: (blank ++ ([','].intercalate texts ++ [']']))
  | obj ms, cs => ∃ blank texts, Blank blank ∧ MembersAs ms texts ∧
      cs = '\x7b' :: (blank ++ ([','].intercalate texts ++ ['\x7d']))

/-- The texts of the items of an array. -/
def ItemsAs : List Json → List (List Char) → Prop
  | [], texts => texts = []
  | x :: xs, texts =>
    ∃ text more, texts = text :: more ∧ Spaced (SpelledAs x) text ∧ ItemsAs xs more

/-- The texts of the members of an object, which are a key and a value with a colon in between. -/
def MembersAs : List (String × Json) → List (List Char) → Prop
  | [], texts => texts = []
  | (key, x) :: ms, texts => ∃ name value more, texts = (name ++ ':' :: value) :: more ∧
      Spaced (QuotedAs key) name ∧ Spaced (SpelledAs x) value ∧ MembersAs ms more

end

theorem NumberAs.exists_cons {j : Json} (number : NumberAs j cs) :
    ∃ c cs', cs = c :: cs' ∧ (c = '-' ∨ isDigit c = true) := by
  obtain ⟨minus, whole, fraction, exponent, point, power, hw, -, -, rfl, -⟩ := number
  obtain ⟨d, ds, rfl, digit⟩ := hw.exists_cons
  cases minus with
  | true => exact ⟨'-', _, rfl, Or.inl rfl⟩
  | false => exact ⟨d, _, rfl, Or.inr digit⟩

theorem ne_of_begins {d : Char} (begins : c = '-' ∨ isDigit c = true) (no_minus : d ≠ '-')
    (no_digit : isDigit d = false) : c ≠ d := by
  rintro rfl
  rcases begins with minus | digit
  · exact no_minus minus
  · rw [digit] at no_digit
    cases no_digit

theorem isSpace_of_begins (begins : c = '-' ∨ isDigit c = true) : isSpace c = false := by
  have other : ∀ d, d ≠ '-' → isDigit d = false → c ≠ d := fun d => ne_of_begins begins
  simp [isSpace, other ' ' (by decide) rfl, other '\n' (by decide) rfl, other '\t' (by decide) rfl,
    other '\r' (by decide) rfl]

theorem readValue_of_number (begins : c = '-' ∨ isDigit c = true) (blank : Blank before) :
    readValue (n + 1) (before ++ c :: cs) = readNumber (c :: cs) := by
  rw [readValue, skipSpace_append blank, skipSpace_cons (isSpace_of_begins begins)]
  split
  case h_7 => rfl
  all_goals
    rename_i same
    exact absurd (List.cons.inj same).1 (ne_of_begins begins (by decide) rfl)

/-- What a text can go on with after an item or a member. -/
def Closes (rest : List Char) : Prop := ∀ c ∈ rest.head?, c = ',' ∨ c = ']' ∨ c = '\x7d'

theorem stops_of_closes (blank : Blank after) (closes : Closes rest) : Stops (after ++ rest) := by
  intro c hc
  cases after with
  | nil => obtain rfl | rfl | rfl := closes c hc <;> decide
  | cons a after =>
    obtain rfl : a = c := by simpa using hc
    have space := blank a (by simp)
    simp only [isSpace, Bool.or_eq_true, decide_eq_true_eq] at space
    obtain ((rfl | rfl) | rfl) | rfl := space <;> decide

theorem skipSpace_of_closes (blank : Blank after) (closes : Closes rest) :
    skipSpace (after ++ rest) = rest := by
  rw [skipSpace_append blank]
  cases rest with
  | nil => rfl
  | cons c rest =>
    refine skipSpace_cons ?_
    obtain rfl | rfl | rfl := closes c rfl <;> rfl

theorem closes_cons (h : c = ',' ∨ c = ']' ∨ c = '\x7d') : Closes (c :: cs) := by
  rintro _ ⟨⟩
  exact h

theorem SpelledAs.exists_cons {j : Json} (spelled : SpelledAs j cs) :
    ∃ c cs', cs = c :: cs' ∧ isSpace c = false ∧ c ≠ ']' := by
  have number : NumberAs j cs → ∃ c cs', cs = c :: cs' ∧ isSpace c = false ∧ c ≠ ']' := by
    intro number
    obtain ⟨c, cs', rfl, begins⟩ := number.exists_cons
    exact ⟨c, cs', rfl, isSpace_of_begins begins, ne_of_begins begins (by decide) rfl⟩
  cases j with
  | null => rw [SpelledAs] at spelled; exact ⟨_, _, spelled, rfl, by decide⟩
  | bool b => cases b <;> rw [SpelledAs] at spelled <;> exact ⟨_, _, spelled, rfl, by decide⟩
  | int n | real x | huge => rw [SpelledAs] at spelled; exact number spelled
  | str s =>
    rw [SpelledAs] at spelled
    obtain ⟨inside, rfl, -⟩ := spelled
    exact ⟨_, _, rfl, rfl, by decide⟩
  | arr xs =>
    rw [SpelledAs] at spelled
    obtain ⟨blank, texts, -, -, rfl⟩ := spelled
    exact ⟨_, _, rfl, rfl, by decide⟩
  | obj ms =>
    rw [SpelledAs] at spelled
    obtain ⟨blank, texts, -, -, rfl⟩ := spelled
    exact ⟨_, _, rfl, rfl, by decide⟩

/-- The value is read from each of its texts, wherever they stand. The length of the text bounds the
steps, as each of them takes a character. -/
def Readable (j : Json) : Prop :=
  ∀ n before cs rest, SpelledAs j cs → Blank before → Stops rest → cs.length ≤ n →
    readValue (n + 1) (before ++ (cs ++ rest)) = some (j, rest)

theorem Readable.spaced {j : Json} (readable : Readable j) (spaced : Spaced (SpelledAs j) cs)
    (closes : Closes rest) (enough : cs.length < n) :
    ∃ after, Blank after ∧ readValue n (cs ++ rest) = some (j, after ++ rest) := by
  obtain ⟨before, text, after, hb, ha, rfl, spelled⟩ := spaced
  obtain ⟨n, rfl⟩ : ∃ m, n = m + 1 := ⟨n - 1, by omega⟩
  refine ⟨after, ha, ?_⟩
  rw [List.append_assoc, List.append_assoc]
  apply readable n before text (after ++ rest) spelled hb (stops_of_closes ha closes)
  simp only [List.length_append] at enough
  omega

/-- One item is read, and what follows decides how the array goes on. -/
theorem readItems_item {x : Json} {out : List Json} {text : List Char} (readable : Readable x)
    (spaced : Spaced (SpelledAs x) text) (enough : text.length < n) (ends : c = ',' ∨ c = ']') :
    readItems (n + 1) out (text ++ c :: rest) =
      if c = ',' then readItems n (x :: out) rest else some ((x :: out).reverse, rest) := by
  have closes : Closes (c :: rest) := closes_cons (ends.imp_right Or.inl)
  obtain ⟨after, blank, read⟩ := readable.spaced spaced closes enough
  rw [readItems, read]
  simp only [skipSpace_of_closes blank closes]
  obtain rfl | rfl := ends <;> rfl

/-- All items are read. The bracket behind them is counted too, so that there is a step left for
it. -/
theorem readItems_append {xs : List Json} {texts : List (List Char)} (out : List Json)
    (rest : List Char) (readable : ∀ x ∈ xs, Readable x) (some_item : xs ≠ [])
    (items : ItemsAs xs texts) (enough : ([','].intercalate texts).length + 1 < n) :
    readItems n out ([','].intercalate texts ++ ']' :: rest) = some (out.reverse ++ xs, rest) := by
  induction xs generalizing n out texts with
  | nil => exact absurd rfl some_item
  | cons x xs ih =>
    obtain ⟨n, rfl⟩ : ∃ m, n = m + 1 := ⟨n - 1, by omega⟩
    rw [ItemsAs] at items
    obtain ⟨text, more, rfl, spaced, items⟩ := items
    have hx : Readable x := readable x (by simp)
    cases xs with
    | nil =>
      rw [ItemsAs] at items
      subst items
      rw [List.intercalate_singleton] at enough ⊢
      rw [readItems_item hx spaced (by omega) (by decide), if_neg (by decide)]
      simp
    | cons y ys =>
      obtain ⟨text', more', rfl, -⟩ := id items
      rw [List.intercalate_cons_cons] at enough ⊢
      simp only [List.length_append, List.length_cons] at enough
      simp only [List.append_assoc, List.cons_append, List.nil_append]
      rw [readItems_item hx spaced (by omega) (by decide), if_pos rfl]
      have others : ∀ z ∈ y :: ys, Readable z := fun z hz => readable z (List.mem_cons_of_mem x hz)
      rw [ih (x :: out) others (by simp) items (by omega)]
      simp

/-- One member is read, and what follows decides how the object goes on. -/
theorem readMembers_member {key : String} {x : Json} {out : List (String × Json)}
    {name value : List Char} (readable : Readable x) (named : Spaced (QuotedAs key) name)
    (spaced : Spaced (SpelledAs x) value) (enough : value.length < n)
    (ends : c = ',' ∨ c = '\x7d') :
    readMembers (n + 1) out (name ++ ':' :: (value ++ c :: rest)) =
      if c = ',' then readMembers n ((key, x) :: out) rest
      else some (((key, x) :: out).reverse, rest) := by
  have closes : Closes (c :: rest) := closes_cons (ends.imp_right Or.inr)
  obtain ⟨before, text, gap, front, back, rfl, inside, rfl, spelled⟩ := named
  have opened :
      skipSpace (before ++ ('"' :: inside ++ ['"'] ++ gap) ++ ':' :: (value ++ c :: rest)) =
        '"' :: (inside ++ '"' :: (gap ++ ':' :: (value ++ c :: rest))) := by
    rw [List.append_assoc, skipSpace_append front]
    simp only [List.cons_append, List.append_assoc, List.nil_append]
    exact skipSpace_cons rfl
  have colon : skipSpace (gap ++ ':' :: (value ++ c :: rest)) = ':' :: (value ++ c :: rest) := by
    rw [skipSpace_append back]
    exact skipSpace_cons rfl
  obtain ⟨after, blank, read⟩ := readable.spaced spaced closes enough
  rw [readMembers, opened]
  simp only [readString_of_charsAs spelled, colon, read, skipSpace_of_closes blank closes,
    List.reverse_nil, List.nil_append, String.ofList_toList]
  obtain rfl | rfl := ends <;> rfl

theorem readMembers_append {ms : List (String × Json)} {texts : List (List Char)}
    (out : List (String × Json)) (rest : List Char) (readable : ∀ m ∈ ms, Readable m.2)
    (some_member : ms ≠ []) (members : MembersAs ms texts)
    (enough : ([','].intercalate texts).length + 1 < n) :
    readMembers n out ([','].intercalate texts ++ '\x7d' :: rest) =
      some (out.reverse ++ ms, rest) := by
  induction ms generalizing n out texts with
  | nil => exact absurd rfl some_member
  | cons m ms ih =>
    obtain ⟨n, rfl⟩ : ∃ k, n = k + 1 := ⟨n - 1, by omega⟩
    obtain ⟨key, x⟩ := m
    rw [MembersAs] at members
    obtain ⟨name, value, more, rfl, named, spaced, members⟩ := members
    have hx : Readable x := readable (key, x) (by simp)
    cases ms with
    | nil =>
      rw [MembersAs] at members
      subst members
      rw [List.intercalate_singleton] at enough ⊢
      simp only [List.length_append, List.length_cons] at enough
      simp only [List.append_assoc, List.cons_append]
      rw [readMembers_member hx named spaced (by omega) (by decide), if_neg (by decide)]
      simp
    | cons m ms =>
      obtain ⟨name', value', more', rfl, -⟩ := id members
      rw [List.intercalate_cons_cons] at enough ⊢
      simp only [List.length_append, List.length_cons] at enough
      simp only [List.append_assoc, List.cons_append, List.nil_append]
      rw [readMembers_member hx named spaced (by omega) (by decide), if_pos rfl]
      have others : ∀ k ∈ m :: ms, Readable k.2 :=
        fun k hk => readable k (List.mem_cons_of_mem _ hk)
      rw [ih ((key, x) :: out) others (by simp) members (by omega)]
      simp

/-- White space before the first of some texts is white space before all of them. -/
theorem intercalate_append_cons (gap text : List Char) (more : List (List Char)) :
    [','].intercalate ((gap ++ text) :: more) = gap ++ [','].intercalate (text :: more) := by
  cases more <;> simp [List.intercalate_cons_cons]

theorem exists_intercalate_cons (text : List Char) (more : List (List Char)) :
    ∃ tail, [','].intercalate (text :: more) = text ++ tail := by
  cases more with
  | nil => exact ⟨[], by simp⟩
  | cons next more => exact ⟨_, by rw [List.intercalate_cons_cons, List.append_assoc]⟩

theorem skipSpace_of_spaced (rest : List Char) {P : List Char → Prop} {close : Char}
    (spaced : Spaced P cs)
    (begins : ∀ text, P text → ∃ c cs', text = c :: cs' ∧ isSpace c = false ∧ c ≠ close)
    (blank : Blank before) :
    ∃ c tail, skipSpace (before ++ (cs ++ rest)) = c :: tail ∧ c ≠ close := by
  obtain ⟨front, text, back, hf, -, rfl, h⟩ := spaced
  obtain ⟨c, cs', rfl, solid, other⟩ := begins text h
  refine ⟨c, cs' ++ (back ++ rest), ?_, other⟩
  simp only [List.append_assoc, List.cons_append]
  rw [skipSpace_append blank, skipSpace_append hf, skipSpace_cons solid]

theorem readable_arr {xs : List Json} (readable : ∀ x ∈ xs, Readable x) : Readable (arr xs) := by
  intro n before cs rest spelled blank stops enough
  rw [SpelledAs] at spelled
  obtain ⟨gap, texts, front, items, rfl⟩ := spelled
  simp only [List.length_cons, List.length_append, List.length_nil] at enough
  simp only [List.cons_append, List.append_assoc, List.nil_append]
  rw [readValue, skipSpace_append blank, skipSpace_cons (by decide)]
  cases xs with
  | nil =>
    rw [ItemsAs] at items
    subst items
    simp [skipSpace_append front, skipSpace_cons (show isSpace ']' = false from rfl)]
  | cons x xs =>
    rw [ItemsAs] at items
    obtain ⟨text, more, rfl, spaced, items⟩ := items
    -- The white space behind the bracket counts as that in front of the first item.
    have whole : ItemsAs (x :: xs) ((gap ++ text) :: more) := by
      rw [ItemsAs]
      exact ⟨_, _, rfl, spaced.blank_append front, items⟩
    have read := readItems_append [] rest readable (by simp) whole
      (show _ < n by rw [intercalate_append_cons, List.length_append]; omega)
    rw [intercalate_append_cons, List.append_assoc] at read
    obtain ⟨tail, joined⟩ := exists_intercalate_cons text more
    obtain ⟨c, tail', opened, other⟩ := skipSpace_of_spaced (tail ++ ']' :: rest) spaced
      (fun text => SpelledAs.exists_cons) front
    rw [← List.append_assoc text tail, ← joined] at opened
    simp only [opened, read, Option.map_some, List.reverse_nil, List.nil_append]
    split
    · rename_i same
      exact absurd (List.cons.inj same).1 other
    · rfl

theorem readable_obj {ms : List (String × Json)} (readable : ∀ m ∈ ms, Readable m.2) :
    Readable (obj ms) := by
  intro n before cs rest spelled blank stops enough
  rw [SpelledAs] at spelled
  obtain ⟨gap, texts, front, members, rfl⟩ := spelled
  simp only [List.length_cons, List.length_append, List.length_nil] at enough
  simp only [List.cons_append, List.append_assoc, List.nil_append]
  rw [readValue, skipSpace_append blank, skipSpace_cons (by decide)]
  cases ms with
  | nil =>
    rw [MembersAs] at members
    subst members
    simp [skipSpace_append front, skipSpace_cons (show isSpace '\x7d' = false from rfl)]
  | cons m ms =>
    obtain ⟨key, x⟩ := m
    rw [MembersAs] at members
    obtain ⟨name, value, more, rfl, named, spaced, members⟩ := members
    -- As for an array, and the first key stands in front of the first member.
    have whole : MembersAs ((key, x) :: ms) ((gap ++ (name ++ ':' :: value)) :: more) := by
      rw [MembersAs]
      exact ⟨gap ++ name, value, more, by rw [List.append_assoc], named.blank_append front, spaced,
        members⟩
    have read := readMembers_append [] rest readable (by simp) whole
      (show _ < n by rw [intercalate_append_cons, List.length_append]; omega)
    rw [intercalate_append_cons, List.append_assoc] at read
    obtain ⟨tail, joined⟩ := exists_intercalate_cons (name ++ ':' :: value) more
    obtain ⟨c, tail', opened, other⟩ :=
      skipSpace_of_spaced (':' :: (value ++ (tail ++ '\x7d' :: rest))) named
        (fun _ => QuotedAs.exists_cons) front
    have same : name ++ ':' :: (value ++ (tail ++ '\x7d' :: rest)) =
        [','].intercalate ((name ++ ':' :: value) :: more) ++ '\x7d' :: rest := by simp [joined]
    rw [same] at opened
    simp only [opened, read, Option.map_some, List.reverse_nil, List.nil_append]
    split
    · rename_i same
      exact absurd (List.cons.inj same).1 other
    · rfl

theorem readable_number {j : Json} (number : ∀ cs, SpelledAs j cs → NumberAs j cs) :
    Readable j := by
  intro n before cs rest spelled blank stops enough
  obtain ⟨c, cs', rfl, begins⟩ := (number cs spelled).exists_cons
  rw [List.cons_append, readValue_of_number begins blank, ← List.cons_append]
  exact readNumber_append (number _ spelled) stops

theorem readable_str (s : String) : Readable (str s) := by
  intro n before cs rest spelled blank stops enough
  rw [SpelledAs] at spelled
  obtain ⟨inside, rfl, spelled⟩ := spelled
  simp only [List.cons_append, List.append_assoc, List.nil_append]
  rw [readValue, skipSpace_append blank, skipSpace_cons (by decide)]
  simp [readString_of_charsAs spelled]

theorem readable (j : Json) : Readable j := by
  match j with
  | null | bool true | bool false =>
    intro n before cs rest spelled blank stops enough
    rw [SpelledAs] at spelled
    subst spelled
    rw [readValue, skipSpace_append blank]
    rfl
  | int k | real x | huge =>
    refine readable_number fun cs spelled => ?_
    rwa [SpelledAs] at spelled
  | str s => exact readable_str s
  | arr xs => exact readable_arr fun x hx => readable x
  | obj ms => exact readable_obj fun m hm => readable m.2
termination_by sizeOf j
decreasing_by
  · have inside := List.sizeOf_lt_of_mem hx
    simp only [arr.sizeOf_spec]
    omega
  · have inside := List.sizeOf_lt_of_mem hm
    obtain ⟨key, x⟩ := m
    simp only [obj.sizeOf_spec, Prod.mk.sizeOf_spec] at inside ⊢
    omega

/-- **Each text of a value is read as this value.** -/
theorem read?_of_spelled {j : Json} {text : String} (spelled : Spaced (SpelledAs j) text.toList) :
    read? text = some j := by
  have closes : Closes [] := by rintro _ ⟨⟩
  obtain ⟨after, blank, read⟩ := (readable j).spaced spelled closes (Nat.lt_succ_self _)
  rw [List.append_nil, List.append_nil] at read
  simp [read?, read, skipSpace_of_blank blank]

end CodeIndex.Json
