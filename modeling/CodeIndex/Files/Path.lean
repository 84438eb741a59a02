import CodeIndex.Language.Basic
import CodeIndex.Unicode.Case

/-!
# Paths and addresses

A path is a text whose parts are separated by `/`. Empty parts and the part `.` say nothing. A
file's address (its *uri*) is its path behind `file://`.
-/

namespace CodeIndex

namespace Path

/-- What stands between the slashes of a path. -/
def pieces (p : String) : List String := (p.toList.splitOn '/').map String.ofList

/-- The parts of a path that say something. -/
def parts (p : String) : List String := (pieces p).filter fun s => s ≠ "" && s ≠ "."

def isAbsolute (p : String) : Bool := p.startsWith "/"

/-- The path of `child` as seen from `base`. -/
def join (base child : String) : String :=
  if isAbsolute child || base.isEmpty then child
  else if base.endsWith "/" then base ++ child else base ++ "/" ++ child

/-- The absolute path with the given parts. -/
def ofParts (ps : List String) : String := "/" ++ "/".intercalate ps

/-- The last part of a path, unless it leads upward. -/
def fileName? (p : String) : Option String :=
  (parts p).getLast?.filter (· ≠ "..")

/-- What follows the last dot of a name that has something before it. -/
def nameExtension? (name : List Char) : Option (List Char) :=
  let fromEnd := name.reverse
  match fromEnd.dropWhile (· ≠ '.') with
  | '.' :: _ :: _ => some (fromEnd.takeWhile (· ≠ '.')).reverse
  | _ => none

/-- The extension of a path's file name. -/
def extension? (p : String) : Option (List Char) :=
  (fileName? p).bind fun n => nameExtension? n.toList

end Path

/-- The language that a path's extension names, in any case of letters. -/
def Language.ofPath? (p : String) : Option Language :=
  (Path.extension? p).bind fun e =>
    Language.ofExtension? (String.ofList (e.flatMap Unicode.toLower))

namespace Uri

/-- What every file's address begins with. -/
def scheme : List Char := "file://".toList

/-- The address of a path, with forward slashes and nothing escaped. -/
def ofPath (p : String) : String :=
  let s := p.toList.map fun c => if c = '\\' then '/' else c
  String.ofList (scheme ++ (if s.head? = some '/' then s else '/' :: s))

/-- The drop of the slash before a drive letter: it is told by the colon two bytes after the slash,
with more to follow. -/
def dropDriveSlash : List Char → List Char
  | '/' :: c :: ':' :: d :: rest =>
    if c.utf8Size = 1 then c :: ':' :: d :: rest else '/' :: c :: ':' :: d :: rest
  | s => s

/-- The path that an address names, if it is the address of a file. -/
def path? (uri : String) : Option String :=
  if scheme.isPrefixOf uri.toList then
    some (String.ofList (dropDriveSlash (uri.toList.drop scheme.length)))
  else none

end Uri

end CodeIndex
