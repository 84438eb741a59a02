import CodeIndex.Parsing.Lexer

/-!
# The scanner of TypeScript

It finds what depends on the text around it: the semicolon that a line end stands for, the text of
templates and of markup, the question mark of a condition, and comments in the style of markup. It
remembers nothing.
-/

namespace CodeIndex.Grammars.TypeScript

open CodeIndex.Parsing

/-- The tokens that the scanner finds or asks about. -/
inductive Scan where
  | semicolon
  | templateText
  | questionMark
  | markupComment
  | logicalOr
  | escape
  | regex
  | markupText
  | signatureEnd
  | error

def Scan.number : Scan → Nat
  | semicolon => 0
  | templateText => 1
  | questionMark => 2
  | markupComment => 3
  | logicalOr => 4
  | escape => 5
  | regex => 6
  | markupText => 7
  | signatureEnd => 8
  | error => 9

def isSpace (c : Char) : Bool := c = ' ' || ('\t' ≤ c && c ≤ '\r')

def skipSpaces (c : Cursor) : Cursor := c.skipWhile isSpace

/-- The next character satisfies `p`. -/
def nextIs (c : Cursor) (p : Char → Bool) : Bool := (c.peek?.map p).getD false

/-- Text of a template, up to a substitution, an escape or the end. -/
def scanTemplate (c : Cursor) : Option Cursor :=
  go c.rest c false
where
  go : List Char → Cursor → Bool → Option Cursor
    | [], _, _ => none
    | ch :: rest, c, hasContent =>
      let found := if hasContent then some c else none
      if ch = '\x60' || ch = '\\' then found
      else if ch = '\x00' then none
      else if ch = '$' && rest.head? = some '\x7b' then found
      else go rest c.next true

/-- The end of a comment that begins with `/*`, or of the text. -/
def skipBlock : List Char → Cursor → Cursor
  | '*' :: '/' :: _, c => c.next.next
  | _ :: rest, c => skipBlock rest c.next
  | [], c => c

/-- Step over blank text and comments; nothing where another slash follows. -/
def skipBlankText : Nat → Cursor → Option Cursor
  | 0, c => some c
  | fuel + 1, c =>
    let c := skipSpaces c
    if c.peek? ≠ some '/' then some c else
      let d := c.next
      if d.peek? = some '/' then
        skipBlankText fuel (d.skipWhile fun ch => ch ≠ '\n' && ch ≠ '\x00')
      else if d.peek? = some '*' then skipBlankText fuel (skipBlock d.next.rest d.next)
      else none

/-- The word `in` or `instanceof` begins here. -/
def isRelationWord (c : Cursor) : Bool :=
  let after (w : String) : Option (List Char) :=
    if w.toList.isPrefixOf c.rest then some (c.rest.drop w.length) else none
  let ends (rest : List Char) : Bool := !(rest.head?.map Char.isAlpha).getD false
  ((after "in").map ends).getD false || ((after "instanceof").map ends).getD false

/-- What looking for an inserted semicolon comes to: there is one, or there is none, and a question
mark may be looked for from a place on. -/
inductive Insertion where
  | yes
  | no (here : Cursor)
  | never

/-- After a line end, the next line goes on with the statement. -/
def continuesStatement (inSignature inExpression : Bool) (c : Cursor) : Bool :=
  match c.peek? with
  | none => false
  | some ch =>
    if "\x60,.;*%><=?^|&/:".toList.contains ch then true
    else if ch = '\x7b' then inSignature
    else if ch = '(' || ch = '[' then inExpression
    else if ch = '+' then c.next.peek? ≠ some '+'
    else if ch = '-' then c.next.peek? ≠ some '-'
    else if ch = '!' then c.next.peek? = some '='
    else if ch = 'i' then isRelationWord c
    else false

/-- The line has a comment that reaches to its end between its end and `c`. -/
def passesLineComment : Nat → Cursor → Bool
  | 0, _ => false
  | fuel + 1, c =>
    let c := skipSpaces c
    if c.peek? ≠ some '/' then false
    else if c.next.peek? = some '/' then true
    else if c.next.peek? = some '*' then
      passesLineComment fuel (skipBlock c.next.next.rest c.next.next)
    else false

/-- Does a semicolon stand, unwritten, at `c`? -/
def scanSemicolon (inSignature inExpression : Bool) (c : Cursor) : Insertion :=
  let lineEnd := c.skipWhile fun ch => isSpace ch && ch ≠ '\n'
  match lineEnd.peek? with
  | none | some '\x00' => .yes
  | some '\x7d' =>
    let after := skipSpaces lineEnd.next
    if after.peek? = some ':' && !inExpression then .no after else .yes
  | some '\n' =>
    let fuel := lineEnd.rest.length + 1
    match skipBlankText fuel lineEnd.next with
    | none => .never
    | some next =>
      if continuesStatement inSignature inExpression next then
        if passesLineComment fuel lineEnd.next then .never else .no next
      else .yes
  | some _ => .no lineEnd

/-- The question mark of a condition: not that of an optional name or of a chain. -/
def scanQuestionMark (c : Cursor) : Option (Cursor × Cursor) :=
  let start := skipSpaces c
  if start.peek? ≠ some '?' then none else
    let stop := start.next
    if nextIs stop (fun ch => ch = '?' || ch = '.') then none else
      let after := skipSpaces stop
      if nextIs after (fun ch => ch = ':' || ch = ')' || ch = ',') then none
      else if after.peek? = some '.' then
        if nextIs after.next Char.isDigit then some (start, stop) else none
      else some (start, stop)

/-- A comment in the style of markup, to the end of the line. -/
def scanMarkupComment (c : Cursor) : Option (Cursor × Cursor) :=
  let start := c.skipWhile fun ch => isSpace ch || ch = '\u2028' || ch = '\u2029'
  let opens (mark : String) : Option Cursor :=
    if mark.toList.isPrefixOf start.rest then some (Nat.repeat Cursor.next mark.length start)
    else none
  match (opens "<!--").or (opens "-->") with
  | some body =>
    some (start, body.skipWhile fun ch =>
      ch ≠ '\n' && ch ≠ '\u2028' && ch ≠ '\u2029' && ch ≠ '\x00')
  | none => none

/-- Text in markup. Blank text that a line end begins does not count as text. -/
def scanMarkupText (c : Cursor) : Bool × Cursor :=
  go c.rest c false false
where
  go : List Char → Cursor → Bool → Bool → Bool × Cursor
    | [], c, _, sawText => (sawText, c)
    | ch :: rest, c, atLineEnd, sawText =>
      if "<>\x7b\x7d&\x00".toList.contains ch then (sawText, c)
      else if ch = '\n' then go rest c.next true sawText
      else
        let atLineEnd := atLineEnd && isSpace ch
        go rest c.next atLineEnd (sawText || !atLineEnd)

def scan : Scanner := fun possible memory c =>
  let possible (s : Scan) : Bool := possible s.number
  let found (s : Scan) (start stop : Cursor) : Option Scanned :=
    some ⟨s.number, start, stop, memory⟩
  let questionMark (c : Cursor) : Option Scanned :=
    match scanQuestionMark c with
    | some (start, stop) => found .questionMark start stop
    | none => none
  let rest (c : Cursor) : Option Scanned :=
    if possible .semicolon || possible .signatureEnd then
      match scanSemicolon (possible .signatureEnd) (possible .logicalOr) c with
      | .yes => found .semicolon c c
      | .no here =>
        if possible .questionMark && here.peek? = some '?' then questionMark here else none
      | .never => none
    else if possible .questionMark then questionMark c
    else if possible .markupComment && !possible .logicalOr && !possible .escape &&
        !possible .regex then
      match scanMarkupComment c with
      | some (start, stop) => found .markupComment start stop
      | none => none
    else none
  if possible .templateText then
    if possible .semicolon then none
    else match scanTemplate c with
      | some stop => found .templateText c stop
      | none => none
  else if possible .markupText then
    let (sawText, stop) := scanMarkupText c
    if sawText then found .markupText c stop else rest stop
  else rest c

end CodeIndex.Grammars.TypeScript
