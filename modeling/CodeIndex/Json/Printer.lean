import CodeIndex.Json.Basic
import CodeIndex.Json.Decimal

/-!
# Writing JSON
-/

namespace CodeIndex.Json

def hexChar (n : Nat) : Char := Char.ofNat (if n < 10 then 48 + n else 87 + n)

/-- A character within a string: quotes, backslashes and control characters are escaped. -/
def escape (c : Char) : List Char :=
  match c with
  | '"' => ['\\', '"']
  | '\\' => ['\\', '\\']
  | '\x08' => ['\\', 'b']
  | '\x0c' => ['\\', 'f']
  | '\n' => ['\\', 'n']
  | '\r' => ['\\', 'r']
  | '\t' => ['\\', 't']
  | c => if c.toNat < 0x20 then
      ['\\', 'u', '0', '0', hexChar (c.toNat / 16), hexChar (c.toNat % 16)]
    else [c]

/-- A string in quotes. -/
def quote (s : String) : String := String.ofList ('"' :: (s.toList.flatMap escape ++ ['"']))

/-- The text of a value that is neither an array nor an object. -/
def scalarText : Json → String
  | bool true => "true"
  | bool false => "false"
  | int n => toString n
  | real x => Decimal.text x
  | str s => quote s
  | _ => "null"

mutual

/-- Write a value behind `out`, on one line and without white space. -/
def addTo (out : String) : Json → String
  | arr xs => addItems (out ++ "[") true xs ++ "]"
  | obj ms => addMembers (out ++ "\x7b") true ms ++ "\x7d"
  | j => out ++ scalarText j

/-- Write items behind `out`, all but the first of an array after a comma. -/
def addItems (out : String) (first : Bool) : List Json → String
  | [] => out
  | x :: xs => addItems (x.addTo (if first then out else out ++ ",")) false xs

def addMembers (out : String) (first : Bool) : List (String × Json) → String
  | [] => out
  | (k, x) :: ms =>
    addMembers (x.addTo ((if first then out else out ++ ",") ++ quote k ++ ":")) false ms

end

/-- A value on one line, without white space. -/
def compact (j : Json) : String := j.addTo ""

/-- The start of a line, indented by two blanks for each level. -/
def newLine (level : Nat) : String := String.ofList ('\n' :: List.replicate (2 * level) ' ')

mutual

/-- Write a value behind `out`, with each item and member on a line of its own. -/
def addPretty (level : Nat) (out : String) : Json → String
  | arr [] => out ++ "[]"
  | arr xs => addPrettyItems (level + 1) (out ++ "[") true xs ++ newLine level ++ "]"
  | obj [] => out ++ "\x7b\x7d"
  | obj ms => addPrettyMembers (level + 1) (out ++ "\x7b") true ms ++ newLine level ++ "\x7d"
  | j => out ++ scalarText j

def addPrettyItems (level : Nat) (out : String) (first : Bool) : List Json → String
  | [] => out
  | x :: xs =>
    addPrettyItems level
      (x.addPretty level ((if first then out else out ++ ",") ++ newLine level)) false xs

def addPrettyMembers (level : Nat) (out : String) (first : Bool) : List (String × Json) → String
  | [] => out
  | (k, x) :: ms =>
    let out := (if first then out else out ++ ",") ++ newLine level ++ quote k ++ ": "
    addPrettyMembers level (x.addPretty level out) false ms

end

/-- A value with each item and member on a line of its own. -/
def pretty (j : Json) : String := j.addPretty 0 ""

end CodeIndex.Json
