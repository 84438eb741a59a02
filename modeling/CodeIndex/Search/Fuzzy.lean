import CodeIndex.Unicode.Blank
import CodeIndex.Unicode.Case
import CodeIndex.Unicode.Letter

/-!
# Fuzzy matching of names

The characters of a query must appear in a name in order, without regard to case, and the first of
them where a word of the name begins. White space in the query does not count.
-/

namespace CodeIndex.Fuzzy

open Unicode

/-- The lower-case characters that a query asks for. -/
def wanted (query : List Char) : List Char :=
  (query.filter (!isBlank ·)).flatMap toLower

/-- The lower-case form of `c` is the one character `l`. -/
def Lowers (c l : Char) : Prop := toLower c = [l]

instance (c l : Char) : Decidable (Lowers c l) := inferInstanceAs (Decidable (_ = _))

/-- A word begins at a character that follows `prev`: at the start, after what is no letter or
number, and where lower case turns to upper case. -/
def BeginsWord (prev : Option Char) (c : Char) : Prop :=
  match prev with
  | none => True
  | some p => isAlphanumeric p = false ∨ (isLower p = true ∧ isUpper c = true)

instance (prev : Option Char) (c : Char) : Decidable (BeginsWord prev c) := by
  unfold BeginsWord; split <;> infer_instance

/-- The characters `ls` appear in order, each taken where it first can be. -/
def isSubsequence : List Char → List Char → Bool
  | [], _ => true
  | _ :: _, [] => false
  | l :: ls, c :: cs => if Lowers c l then isSubsequence ls cs else isSubsequence (l :: ls) cs

/-- Some word begins with `l`, and `ls` follow. -/
def matchFrom (l : Char) (ls : List Char) : Option Char → List Char → Bool
  | _, [] => false
  | prev, c :: cs =>
    (decide (BeginsWord prev c) && decide (Lowers c l) && isSubsequence ls cs) ||
      matchFrom l ls (some c) cs

/-- The query matches the name. -/
def fuzzyMatch (query name : String) : Bool :=
  match wanted query.toList with
  | [] => true
  | l :: ls => matchFrom l ls none name.toList

end CodeIndex.Fuzzy
