import CodeIndex.Json.Basic
import CodeIndex.Json.Decimal

/-!
# Reading JSON

Each function reads something at the front of a text and gives back the rest. `Json.read?` accepts a
text that is one value with white space around it.
-/

namespace CodeIndex.Json

/-- White space between the parts of a value. -/
def isSpace (c : Char) : Bool := c = ' ' || c = '\n' || c = '\t' || c = '\r'

def skipSpace (cs : List Char) : List Char := cs.dropWhile isSpace

/-! ## Strings -/

def hexDigit? (c : Char) : Option Nat :=
  if '0' ≤ c && c ≤ '9' then some (c.toNat - 48)
  else if 'a' ≤ c && c ≤ 'f' then some (c.toNat - 87)
  else if 'A' ≤ c && c ≤ 'F' then some (c.toNat - 55)
  else none

/-- The number that four hexadecimal digits make. -/
def hex4? (a b c d : Char) : Option Nat := do
  return (((← hexDigit? a) * 16 + (← hexDigit? b)) * 16 + (← hexDigit? c)) * 16 + (← hexDigit? d)

/-- The first half of a pair that stands for one character. -/
def isHighHalf (n : Nat) : Bool := 0xd800 ≤ n && n < 0xdc00

/-- The second half of such a pair. -/
def isLowHalf (n : Nat) : Bool := 0xdc00 ≤ n && n < 0xe000

/-- The character of a pair of halves. -/
def joinHalves (high low : Nat) : Char :=
  Char.ofNat (0x10000 + (high - 0xd800) * 0x400 + (low - 0xdc00))

/-- What a letter after a backslash stands for. -/
def escaped? : Char → Option Char
  | '"' => some '"'
  | '\\' => some '\\'
  | '/' => some '/'
  | 'b' => some '\x08'
  | 'f' => some '\x0c'
  | 'n' => some '\n'
  | 'r' => some '\r'
  | 't' => some '\t'
  | _ => none

/-- Read a string up to its closing quote. The characters so far are given last first. -/
def readString (out : List Char) : List Char → Option (String × List Char)
  | [] => none
  | '"' :: rest => some (String.ofList out.reverse, rest)
  | '\\' :: 'u' :: a :: b :: c :: d :: rest =>
    match hex4? a b c d, rest with
    | none, _ => none
    | some n, '\\' :: 'u' :: e :: f :: g :: h :: rest' =>
      if isLowHalf n then none
      else if isHighHalf n then
        match hex4? e f g h with
        | some m => if isLowHalf m then readString (joinHalves n m :: out) rest' else none
        | none => none
      else readString (Char.ofNat n :: out) ('\\' :: 'u' :: e :: f :: g :: h :: rest')
    | some n, rest =>
      if isLowHalf n || isHighHalf n then none else readString (Char.ofNat n :: out) rest
  | '\\' :: c :: rest =>
    match escaped? c with
    | some c => readString (c :: out) rest
    | none => none
  | c :: rest => if c.toNat < 0x20 || c = '\\' then none else readString (c :: out) rest
termination_by cs => cs.length

/-! ## Numbers -/

def isDigit (c : Char) : Bool := '0' ≤ c && c ≤ '9'

def digitsOf (cs : List Char) : List Nat := cs.map fun c => c.toNat - 48

def ofDigits (ds : List Nat) : Nat := ds.foldl (fun n d => n * 10 + d) 0

/-- The digits in front. -/
def readDigits (cs : List Char) : List Nat × List Char :=
  (digitsOf (cs.takeWhile isDigit), cs.dropWhile isDigit)

/-- The whole digits of a number: a zero alone, or digits that begin with another. -/
def readWhole : List Char → Option (List Nat × List Char)
  | '0' :: rest => if (rest.head?.map isDigit).getD false then none else some ([0], rest)
  | cs => match readDigits cs with
    | ([], _) => none
    | r => some r

/-- The digits after the point, if there is a point. -/
def readFraction : List Char → Option (List Nat × List Char)
  | '.' :: rest => match readDigits rest with
    | ([], _) => none
    | r => some r
  | cs => some ([], cs)

/-- The exponent, if there is one. -/
def readExponent : List Char → Option (Option Int × List Char)
  | c :: rest =>
    if c = 'e' || c = 'E' then
      let (minus, rest) := match rest with
        | '-' :: rest => (true, rest)
        | '+' :: rest => (false, rest)
        | rest => (false, rest)
      match readDigits rest with
      | ([], _) => none
      | (ds, rest) => some (some (if minus then -(ofDigits ds : Int) else ofDigits ds), rest)
    else some (none, c :: rest)
  | [] => some (none, [])

/-- The value of a number with the given parts. Minus zero is no whole number. -/
def ofParts (minus : Bool) (whole fraction : List Nat) (exponent : Option Int) : Json :=
  let n := ofDigits whole
  let isWhole := fraction.isEmpty && exponent.isNone
  if isWhole && !minus && n < Nat.pow 2 64 then int n
  else if isWhole && minus && 0 < n && n ≤ Nat.pow 2 63 then int (-n)
  else match Decimal.read? whole fraction (exponent.getD 0) with
    | some x => real (if minus then -x else x)
    | none => huge

/-- Read a number. -/
def readNumber (cs : List Char) : Option (Json × List Char) := do
  let (minus, cs) := match cs with
    | '-' :: rest => (true, rest)
    | cs => (false, cs)
  let (whole, cs) ← readWhole cs
  let (fraction, cs) ← readFraction cs
  let (exponent, cs) ← readExponent cs
  return (ofParts minus whole fraction exponent, cs)

/-! ## Values -/

mutual

/-- Read a value. The number bounds the characters that are left. -/
def readValue : Nat → List Char → Option (Json × List Char)
  | 0, _ => none
  | n + 1, cs => match skipSpace cs with
    | 'n' :: 'u' :: 'l' :: 'l' :: rest => some (null, rest)
    | 't' :: 'r' :: 'u' :: 'e' :: rest => some (bool true, rest)
    | 'f' :: 'a' :: 'l' :: 's' :: 'e' :: rest => some (bool false, rest)
    | '"' :: rest => (readString [] rest).map fun (s, rest) => (str s, rest)
    | '[' :: rest => match skipSpace rest with
      | ']' :: rest => some (arr [], rest)
      | _ => (readItems n [] rest).map fun (xs, rest) => (arr xs, rest)
    | '\x7b' :: rest => match skipSpace rest with
      | '\x7d' :: rest => some (obj [], rest)
      | _ => (readMembers n [] rest).map fun (ms, rest) => (obj ms, rest)
    | cs => readNumber cs

/-- Read the items of an array that has some, up to its end. -/
def readItems : Nat → List Json → List Char → Option (List Json × List Char)
  | 0, _, _ => none
  | n + 1, out, cs => match readValue n cs with
    | none => none
    | some (x, rest) => match skipSpace rest with
      | ',' :: rest => readItems n (x :: out) rest
      | ']' :: rest => some ((x :: out).reverse, rest)
      | _ => none

/-- Read the members of an object that has some, up to its end. -/
def readMembers : Nat → List (String × Json) → List Char →
    Option (List (String × Json) × List Char)
  | 0, _, _ => none
  | n + 1, out, cs => match skipSpace cs with
    | '"' :: rest => match readString [] rest with
      | none => none
      | some (key, rest) => match skipSpace rest with
        | ':' :: rest => match readValue n rest with
          | none => none
          | some (x, rest) => match skipSpace rest with
            | ',' :: rest => readMembers n ((key, x) :: out) rest
            | '\x7d' :: rest => some (((key, x) :: out).reverse, rest)
            | _ => none
        | _ => none
    | _ => none

end

/-- The value that a text is. -/
def read? (text : String) : Option Json :=
  let cs := text.toList
  match readValue (cs.length + 1) cs with
  | some (j, rest) => if (skipSpace rest).isEmpty then some j else none
  | none => none

end CodeIndex.Json
