import CodeIndex.Files.Disk
import CodeIndex.Scan.Glob
import CodeIndex.Text.Utf8
import CodeIndex.Unicode.Blank

/-!
# Rules for what is left out

A folder can hold files with rules, one in each line, that speak of what lies in the folder. A rule
names files and folders by a pattern; with `!` in front it keeps what others leave out, and with a
slash at the end it speaks of folders alone. Of several rules that match, the last one counts.
-/

namespace CodeIndex

/-- What rules say about a file or folder. -/
inductive Verdict where
  | silent
  | leaveOut
  | keep
  deriving DecidableEq, Repr, Inhabited

namespace Verdict

/-- The first of two verdicts, unless it is silent. -/
def or : Verdict → Verdict → Verdict
  | silent, w => w
  | v, _ => v

def invert : Verdict → Verdict
  | silent => silent
  | leaveOut => keep
  | keep => leaveOut

end Verdict

/-- A line that holds no proper pattern. -/
structure IgnoreError where
  line : String
  cause : GlobError
  deriving DecidableEq, Repr

def IgnoreError.message (e : IgnoreError) : String :=
  "error parsing glob '" ++ e.line ++ "': " ++ e.cause.message

/-- One line's rule. -/
structure IgnoreRule where
  glob : Glob
  /-- What the rule matches is kept, and not left out. -/
  keeps : Bool
  foldersOnly : Bool
  deriving DecidableEq, Repr

namespace IgnoreRule

/-- The pattern of a line without its marks: one without a slash matches in every folder, and one
that ends in `/**` does not match the folder itself. -/
def patternOf (anchored : Bool) (body : List Char) : List Char :=
  let deep := "**/".toList
  let p := if anchored || body.contains '/' || body = "**".toList then body else deep ++ body
  if "/**".toList.isSuffixOf p then p ++ "/*".toList else p

/-- The body of a line, whether it keeps, and whether it is tied to the rules' own folder. A
backslash in front takes `!` or `#` as it is. -/
def marks : List Char → List Char × Bool × Bool
  | '\\' :: '!' :: rest => ('!' :: rest, false, false)
  | '\\' :: '#' :: rest => ('#' :: rest, false, false)
  | '!' :: '/' :: rest => (rest, true, true)
  | '!' :: rest => (rest, true, false)
  | '/' :: rest => (rest, false, true)
  | body => (body, false, false)

/-- The body without the slash at its end that ties it to folders. A backslash before the slash
falls away with it. -/
def folderMark (body : List Char) : List Char × Bool :=
  match body.reverse with
  | '/' :: '\\' :: rest => (rest.reverse, true)
  | '/' :: rest => (rest.reverse, true)
  | _ => (body, false)

/-- The rule in a line, if there is one. -/
def ofLine? (lenient : Bool) (line : String) : Except IgnoreError (Option IgnoreRule) :=
  let cs := line.toList
  let cs := if "\\ ".toList.isSuffixOf cs then cs else Unicode.trimEnd cs
  if cs.isEmpty || cs.head? = some '#' then .ok none
  else
    let (body, keeps, anchored) := marks cs
    let (body, foldersOnly) := folderMark body
    match Glob.read lenient (String.ofList (patternOf anchored body)) with
    | .ok glob => .ok (some ⟨glob, keeps, foldersOnly⟩)
    | .error cause => .error ⟨String.ofList cs, cause⟩

/-- What rules say about a path, given by the names on it from the rules' folder. -/
def verdict (rules : List IgnoreRule) (names : List String) (isFolder : Bool) : Verdict :=
  let path := ("/".intercalate names).toUTF8.toList
  match rules.reverse.find? fun r => (isFolder || !r.foldersOnly) && r.glob.matchesPath path with
  | some r => if r.keeps then .keep else .leaveOut
  | none => .silent

/-- The rules in a file's lines. Lines without a proper pattern are passed over, and the first line
that is no text ends the rules. -/
def ofBytes (bytes : ByteArray) : List IgnoreRule :=
  let texts := (Utf8.lines bytes.toList).map fun l => String.fromUTF8? ⟨l.toArray⟩
  let lines := (texts.takeWhile (·.isSome)).filterMap id
  let lines := match lines with
    | first :: rest => String.ofList (first.toList.dropWhile (· = '\ufeff')) :: rest
    | [] => []
  lines.filterMap fun l => match ofLine? true l with
    | .ok r => r
    | .error _ => none

end IgnoreRule

/-- The rules that a folder holds. -/
structure FolderRules where
  /-- From the folder's `.ignore`. -/
  plain : List IgnoreRule := []
  /-- From the folder's `.gitignore`. -/
  shared : List IgnoreRule := []
  /-- From the repository's own list of exclusions. -/
  own : List IgnoreRule := []
  /-- The folder is the root of a repository. -/
  isRepository : Bool := false

namespace FolderRules

/-- The rules in the file that lies at some names below a folder. -/
def rulesAt (folder : DiskNode) (names : List String) : List IgnoreRule :=
  match folder.at? names with
  | some (.file bytes) => IgnoreRule.ofBytes bytes
  | _ => []

def ofFolder (folder : DiskNode) : FolderRules where
  plain := rulesAt folder [".ignore"]
  shared := rulesAt folder [".gitignore"]
  own := rulesAt folder [".git", "info", "exclude"]
  isRepository := (folder.at? [".git"]).isSome || (folder.at? [".jj"]).isSome

end FolderRules

/-- The folders around a file, innermost first: the rules of each, and the names that lead from it
to the innermost. -/
abbrev Surroundings := List (FolderRules × List String)

namespace Surroundings

/-- Go into a folder. -/
def enter (s : Surroundings) (name : String) (folder : DiskNode) : Surroundings :=
  (FolderRules.ofFolder folder, []) :: s.map fun (rules, names) => (rules, names ++ [name])

/-- What the rules of one sort say: those of inner folders go before those of outer ones. -/
def verdictBy (s : Surroundings) (rules : FolderRules → List IgnoreRule) (name : String)
    (isFolder : Bool) : Verdict :=
  s.foldr
    (fun (f, names) v => (IgnoreRule.verdict (rules f) (names ++ [name]) isFolder).or v) .silent

/-- The folders up to the root of the repository that they lie in, if they lie in one. -/
def inRepository (s : Surroundings) : Surroundings :=
  match s.span fun f => !f.1.isRepository with
  | (inner, root :: _) => inner ++ [root]
  | (_, []) => []

/-- What all rules say about a file or folder in the innermost folder. -/
def verdict (s : Surroundings) (name : String) (isFolder : Bool) : Verdict :=
  ((s.verdictBy (·.plain) name isFolder).or
    (s.inRepository.verdictBy (·.shared) name isFolder)).or
    (s.inRepository.verdictBy (·.own) name isFolder)

/-- The folders around a chain of names below a root. -/
def around (root : DiskNode) (names : List String) : Surroundings :=
  (List.range names.length).reverse.filterMap fun n =>
    (root.at? (names.take n)).map fun folder => (FolderRules.ofFolder folder, names.drop n)

end Surroundings

end CodeIndex
