/-!
# File name patterns

In a pattern `?` stands for one byte and `*` for any bytes, both without slashes; `**` between
slashes stands for any number of folders; `[…]` lists bytes; `{a,b}` stands for either of its parts;
a backslash takes the next character as it is. A pattern is matched against a whole path.
-/

namespace CodeIndex

/-- Why a pattern makes no sense. -/
inductive GlobError where
  | unclosedClass
  | invalidRange (low high : Char)
  | unopenedAlternates
  | unclosedAlternates
  | danglingEscape
  deriving DecidableEq, Repr

def GlobError.message : GlobError → String
  | unclosedClass => "unclosed character class; missing ']'"
  | invalidRange low high => "invalid range; '" ++ low.toString ++ "' > '" ++ high.toString ++ "'"
  | unopenedAlternates =>
    "unopened alternate group; missing '\x7b' (maybe escape '\x7d' with '[\x7d]'?)"
  | unclosedAlternates =>
    "unclosed alternate group; missing '\x7d' (maybe escape '\x7b' with '[\x7b]'?)"
  | danglingEscape => "dangling '\\'"

namespace Glob

/-- A part of a pattern. -/
inductive Token where
  | char (c : Char)
  /-- One byte, no slash. -/
  | any
  /-- Any bytes without a slash. -/
  | star
  /-- Folders in front, each with its slash. -/
  | folders
  /-- A slash and anything. -/
  | inside
  /-- A slash, and folders between it and another. -/
  | between
  /-- One byte that is, or is not, in one of the ranges. -/
  | class (negated : Bool) (ranges : List (Char × Char))
  /-- One of several patterns. -/
  | choice (branches : List (List Token))
  deriving Inhabited

/-! ## Reading a pattern -/

/-- What has been read of a pattern. The pattern itself and each open group hold their branches, the
last branch first, and each branch its parts, the last part first. Groups are given innermost
first. -/
structure Reading where
  branch : List Token := []
  branches : List (List Token) := []
  outer : List (List Token × List (List Token)) := []

namespace Reading

def push (r : Reading) (t : Token) : Reading := { r with branch := t :: r.branch }

/-- Put a part in the place of the last one. -/
def replaceLast (r : Reading) (t : Token → Token) : Reading :=
  { r with branch := match r.branch with
      | last :: rest => t last :: rest
      | [] => [] }

def openGroup (r : Reading) : Reading := ⟨[], [], (r.branch, r.branches) :: r.outer⟩

def inGroup (r : Reading) : Bool := !r.outer.isEmpty

def nextBranch (r : Reading) : Reading :=
  { r with branch := [], branches := r.branch.reverse :: r.branches }

def closeGroup (r : Reading) : Except GlobError Reading :=
  match r.outer with
  | [] => .error .unopenedAlternates
  | (branch, branches) :: outer =>
    .ok ⟨.choice ((r.branch.reverse :: r.branches).reverse) :: branch, branches, outer⟩

end Reading

/-- What has been read of a class. -/
structure ClassReading where
  ranges : List (Char × Char) := []
  first : Bool := true
  /-- A dash has been read that may be the middle of a range. -/
  inRange : Bool := false

/-- Read a class up to its closing bracket. -/
def readClass (r : ClassReading) : List Char → Except GlobError (List (Char × Char) × List Char)
  | [] => .error .unclosedClass
  | c :: rest =>
    if c = ']' && !r.first then
      .ok ((if r.inRange then ('-', '-') :: r.ranges else r.ranges).reverse, rest)
    else if c = '-' && !r.first && !r.inRange then readClass { r with inRange := true } rest
    else if r.inRange then match r.ranges with
      | (low, _) :: ranges =>
        if c < low then .error (.invalidRange low c)
        else readClass ⟨(low, c) :: ranges, false, false⟩ rest
      | [] => readClass ⟨[(c, c)], false, false⟩ rest
    else readClass ⟨(c, c) :: r.ranges, false, false⟩ rest

/-- A class after its opening bracket. -/
def readClassToken (cs : List Char) : Except GlobError (Token × List Char) :=
  let (negated, cs) := match cs with
    | '!' :: rest => (true, rest)
    | '^' :: rest => (true, rest)
    | cs => (false, cs)
  (readClass {} cs).map fun (ranges, rest) => (.class negated ranges, rest)

/-- Where a double star stands alone between slashes, what it stands for depends on what is before
it. -/
def foldersAfter (atEnd : Bool) : Token → Token
  | .folders => .folders
  | .inside => .inside
  | _ => if atEnd then .inside else .between

/-- Read a double star: `prev` is the character before it and the list what comes after it. A slash
that belongs to it is taken too. -/
def readDoubleStar (r : Reading) (prev : Option Char) (rest : List Char) :
    Reading × Option Char × List Char :=
  let plain := ((r.push .star).push .star, some '*', rest)
  if r.branch.isEmpty then match rest with
    | [] => (r.push .folders, some '*', [])
    | '/' :: rest => (r.push .folders, some '/', rest)
    | _ => plain
  else if prev ≠ some '/' && !(r.inGroup && (prev = some ',' || prev = some '\x7b')) then plain
  else match rest with
    | [] => (r.replaceLast (foldersAfter true), some '*', [])
    | '/' :: rest => (r.replaceLast (foldersAfter false), some '/', rest)
    | c :: _ =>
      if (c = ',' || c = '\x7d') && r.inGroup then
        (r.replaceLast (foldersAfter true), some '*', rest)
      else plain

/-- Read a pattern. With `lenient`, a bracket that is never closed stands for itself. The number
bounds the characters that are left. -/
def readTokens (lenient : Bool) : Nat → Bool → Reading → Option Char → List Char →
    Except GlobError Reading
  | 0, _, r, _, _ => .ok r
  | _, _, r, _, [] => .ok r
  | n + 1, classes, r, prev, c :: rest =>
    match c, rest with
    | '?', _ => readTokens lenient n classes (r.push .any) (some c) rest
    | '*', '*' :: rest =>
      let (r, prev, rest) := readDoubleStar r prev rest
      readTokens lenient n classes r prev rest
    | '*', _ => readTokens lenient n classes (r.push .star) (some c) rest
    | '\x7b', _ => readTokens lenient n classes r.openGroup (some c) rest
    | '\x7d', _ => match r.closeGroup with
      | .ok r => readTokens lenient n classes r (some c) rest
      | .error e => .error e
    | ',', _ =>
      readTokens lenient n classes (if r.inGroup then r.nextBranch else r.push (.char c)) (some c)
        rest
    | '\\', [] => .error .danglingEscape
    | '\\', c :: rest => readTokens lenient n classes (r.push (.char c)) (some c) rest
    | '[', _ =>
      if classes then match readClassToken rest with
        | .ok (t, rest) => readTokens lenient n true (r.push t) (some ']') rest
        | .error .unclosedClass =>
          if lenient then readTokens lenient n false (r.push (.char c)) (some c) rest
          else .error .unclosedClass
        | .error e => .error e
      else readTokens lenient n classes (r.push (.char c)) (some c) rest
    | _, _ => readTokens lenient n classes (r.push (.char c)) (some c) rest

/-- The parts of a pattern. -/
def tokens (lenient : Bool) (pattern : String) : Except GlobError (List Token) :=
  let cs := pattern.toList
  match readTokens lenient cs.length true {} none cs with
  | .error e => .error e
  | .ok r => if r.inGroup then .error .unclosedAlternates else .ok r.branch.reverse

/-! ## Matching -/

/-- A part of a pattern without alternatives, on bytes. -/
inductive Step where
  | byte (b : UInt8)
  | any
  | star
  | folders
  | inside
  | between
  | class (negated : Bool) (ranges : List (UInt8 × UInt8))
  deriving DecidableEq, Repr

def bytesOf (c : Char) : List UInt8 := c.toString.toUTF8.toList

/-- The bytes of a class: a character of several bytes counts as each of them. -/
def byteRanges (range : Char × Char) : List (UInt8 × UInt8) :=
  let low := bytesOf range.1
  let high := bytesOf range.2
  let alone (b : UInt8) : UInt8 × UInt8 := (b, b)
  if range.1 = range.2 then low.map alone
  else low.dropLast.map alone ++
    (match low.getLast?, high.head? with
      | some a, some b => [(a, b)]
      | _, _ => []) ++ high.tail.map alone

mutual

/-- The sequences of steps that parts stand for. -/
def expand : List Token → List (List Step)
  | [] => [[]]
  | t :: ts => (expandToken t).flatMap fun s => (expand ts).map (s ++ ·)

def expandToken : Token → List (List Step)
  | .char c => [(bytesOf c).map .byte]
  | .any => [[.any]]
  | .star => [[.star]]
  | .folders => [[.folders]]
  | .inside => [[.inside]]
  | .between => [[.between]]
  | .class negated ranges => [[.class negated (ranges.flatMap byteRanges)]]
  | .choice branches =>
    let alternatives := expandBranches branches
    if alternatives.isEmpty then [[]] else alternatives

/-- The sequences of all branches. A branch with nothing in it does not count. -/
def expandBranches : List (List Token) → List (List Step)
  | [] => []
  | b :: bs => (if expand b = [[]] then [] else expand b) ++ expandBranches bs

end

/-- The slash between the parts of a path. -/
def slash : UInt8 := 47

/-- All ends of a sequence of bytes, itself included. -/
def ends : List UInt8 → List (List UInt8)
  | [] => [[]]
  | b :: rest => (b :: rest) :: ends rest

/-- What is left after bytes without a slash have been taken off. -/
def afterName : List UInt8 → List (List UInt8)
  | [] => [[]]
  | b :: rest => (b :: rest) :: (if b = slash then [] else afterName rest)

/-- What is left after each slash. -/
def afterSlashes : List UInt8 → List (List UInt8)
  | [] => []
  | b :: rest => if b = slash then rest :: afterSlashes rest else afterSlashes rest

/-- The steps match all of the bytes. -/
def stepsMatch : List Step → List UInt8 → Bool
  | [], bytes => bytes.isEmpty
  | .byte b :: steps, c :: rest => b = c && stepsMatch steps rest
  | .any :: steps, c :: rest => c ≠ slash && stepsMatch steps rest
  | .class negated ranges :: steps, c :: rest =>
    (ranges.any fun r => r.1 ≤ c && c ≤ r.2) ≠ negated && stepsMatch steps rest
  | .star :: steps, bytes => (afterName bytes).any (stepsMatch steps)
  | .folders :: steps, bytes =>
    stepsMatch steps bytes || (afterSlashes bytes).any (stepsMatch steps)
  | .inside :: steps, c :: rest => c = slash && (ends rest).any (stepsMatch steps)
  | .between :: steps, c :: rest =>
    c = slash && (stepsMatch steps rest || (afterSlashes rest).any (stepsMatch steps))
  | _ :: _, [] => false

end Glob

/-- A pattern as the sequences of steps that it stands for. -/
structure Glob where
  alternatives : List (List Glob.Step)
  deriving DecidableEq, Repr

/-- Read a pattern; with `lenient`, a bracket that is never closed stands for itself. -/
def Glob.read (lenient : Bool) (pattern : String) : Except GlobError Glob :=
  (Glob.tokens lenient pattern).map fun ts => ⟨Glob.expand ts⟩

/-- The pattern matches the path. -/
def Glob.matchesPath (g : Glob) (path : List UInt8) : Bool :=
  g.alternatives.any fun steps => Glob.stepsMatch steps path

end CodeIndex
