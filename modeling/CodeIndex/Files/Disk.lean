import CodeIndex.Files.Path

/-!
# Files on disk

A disk is a tree of folders and files. Paths are looked up from its root, one part after the other;
the part `..` leads back to the folder above.
-/

namespace CodeIndex

/-- Why a path could not be read. -/
inductive Fault where
  | notFound
  | notFolder
  | isFolder
  | nameTooLong
  | nulInName
  /-- Any other reason, in the system's words. -/
  | other (reason : String)
  deriving DecidableEq, Repr, Inhabited

namespace Fault

/-- The system's words for a fault. -/
def message : Fault → String
  | notFound => "No such file or directory (os error 2)"
  | notFolder => "Not a directory (os error 20)"
  | isFolder => "Is a directory (os error 21)"
  | nameTooLong => "File name too long (os error 36)"
  | nulInName => "file name contained an unexpected NUL byte"
  | other reason => reason

end Fault

/-- A way to read files. All that asks for the content of files and not for their places takes only
this. -/
abbrev Reader := String → Except Fault ByteArray

/-- A file or a folder with what is in it. -/
inductive DiskNode where
  | file (content : ByteArray)
  | folder (entries : List (String × DiskNode))
  deriving Inhabited

namespace DiskNode

/-- A folder with nothing in it. -/
def empty : DiskNode := folder []

def entries : DiskNode → List (String × DiskNode)
  | file _ => []
  | folder es => es

def isFolder : DiskNode → Bool
  | file _ => false
  | folder _ => true

/-- The node at a chain of names. -/
def at? : DiskNode → List String → Option DiskNode
  | node, [] => some node
  | node, name :: rest =>
    match node.entries.lookup name with
    | some next => next.at? rest
    | none => none

/-- Put a node at a name, in the place of the one that was there. -/
def setEntry (name : String) (node : DiskNode) : List (String × DiskNode) → List (String × DiskNode)
  | [] => [(name, node)]
  | (n, old) :: rest => if n = name then (n, node) :: rest else (n, old) :: setEntry name node rest

/-- Put a node at a chain of names and make the folders on the way. A file on the way or a folder at
the end is in the way. -/
def write (new : DiskNode) : DiskNode → List String → Except Fault DiskNode
  | file _, [] => .ok new
  | folder es, [] => match new with
    | folder _ => .ok (folder es)
    | file _ => .error .isFolder
  | file _, _ :: _ => .error .notFolder
  | folder es, [name] => match es.lookup name with
    | some old => (write new old []).map fun n => folder (setEntry name n es)
    | none => .ok (folder (setEntry name new es))
  | folder es, name :: rest =>
    (write new ((es.lookup name).getD empty) rest).map fun n => folder (setEntry name n es)

/-- Take away the file at a chain of names. -/
def delete : DiskNode → List String → Except Fault DiskNode
  | folder _, [] => .error .isFolder
  | file _, _ => .error .notFolder
  | folder es, [name] => match es.lookup name with
    | some (file _) => .ok (folder (es.filter (·.1 ≠ name)))
    | some (folder _) => .error .isFolder
    | none => .error .notFound
  | folder es, name :: rest => match es.lookup name with
    | some next => (delete next rest).map fun n => folder (setEntry name n es)
    | none => .error .notFound

end DiskNode

/-- A disk, and the folder that relative paths start from. -/
structure Disk where
  root : DiskNode := .empty
  current : List String := []
  deriving Inhabited

namespace Disk

/-- The longest name that a file can have, in bytes. -/
def maxNameBytes : Nat := 255

/-- The longest path that can be asked for, in bytes. -/
def maxPathBytes : Nat := 4095

/-- Follow names from a folder. The folders so far are given innermost first. -/
def follow (root : DiskNode) : List String → List String → Except Fault (List String)
  | dir, [] => .ok dir.reverse
  | dir, name :: rest =>
    if name = "." then follow root dir rest
    else if name = ".." then follow root dir.tail rest
    else if name.utf8ByteSize > maxNameBytes then .error .nameTooLong
    else match root.at? (name :: dir).reverse with
      | none => .error .notFound
      | some (.folder _) => follow root (name :: dir) rest
      | some (.file _) => if rest.isEmpty then .ok (name :: dir).reverse else .error .notFolder

/-- The names on a path. A slash at the end asks for a folder. -/
def names (p : String) : List String :=
  (Path.pieces p).filter (· ≠ "") ++ (if p.endsWith "/" then ["."] else [])

/-- The place of an existing file or folder, as a chain of names from the root. -/
def place (d : Disk) (p : String) : Except Fault (List String) :=
  if p.toList.contains '\x00' then .error .nulInName
  else if p.isEmpty then .error .notFound
  else if p.utf8ByteSize > maxPathBytes then .error .nameTooLong
  else follow d.root (if Path.isAbsolute p then [] else d.current.reverse) (names p)

/-- The file or folder at a path. -/
def node (d : Disk) (p : String) : Except Fault DiskNode :=
  (d.place p).bind fun names => match d.root.at? names with
    | some n => .ok n
    | none => .error .notFound

/-- The content of the file at a path. -/
def read (d : Disk) : Reader := fun p =>
  (d.node p).bind fun
    | .file content => .ok content
    | .folder _ => .error .isFolder

/-- Put a file or folder at a chain of names from the root. -/
def write (d : Disk) (names : List String) (new : DiskNode) : Except Fault Disk :=
  (DiskNode.write new d.root names).map fun root => { d with root }

/-- Take away the file at a chain of names from the root. -/
def delete (d : Disk) (names : List String) : Except Fault Disk :=
  (d.root.delete names).map fun root => { d with root }

end Disk

end CodeIndex
