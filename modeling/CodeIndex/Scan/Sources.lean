import CodeIndex.Config
import CodeIndex.Files.Disk

/-!
# The source files of a workspace

A library walks through the folders below a root. It is given the names that are left out, and has
rules of its own. Of the files that it comes to, those with a supported language and a fitting size
are source files. They are taken up until there are as many as the settings allow.
-/

namespace CodeIndex

/-- The library that walks through folders. It gives the files below a root, each by the names that
lead to it from there, in the order in which it comes to them, or says why a line with an exclusion
is no proper one. -/
class FolderWalk where
  files (disk : Disk) (root : String) (exclusions : List String) :
    Except String (List (List String))

/-- Why a workspace could not be gone through. -/
inductive ScanError where
  | noRoot (root : String) (fault : Fault)
  /-- A name to be left out makes no proper pattern, in the words of the library. -/
  | badExclusion (reason : String)
  deriving DecidableEq, Repr

/-- The words for a failure, followed by those for what lies behind it. -/
def ScanError.causes : ScanError → List String
  | noRoot root fault => ["Workspace root does not exist: " ++ root, fault.message]
  | badExclusion reason => [reason]

/-! ## Exclusions -/

/-- Folders that hold what is built or fetched. -/
def builtFolders : List String := [
  ".git", "node_modules", "target", "dist", "build", "coverage", ".next", ".nuxt", ".venv",
  "__pycache__", ".vscode-test", "out"]

/-- Rules against a name and all that lies below it. -/
def exclusionLines (name : String) : List String := ["!**/" ++ name, "!**/" ++ name ++ "/**"]

/-- A name from the settings without white space and slashes around it. -/
def cleanName (name : String) : List Char :=
  let isSlash (c : Char) : Bool := c = '/'
  ((((Unicode.trim name.toList).dropWhile isSlash).reverse).dropWhile isSlash).reverse

/-- The lines of all exclusions. In them `!` leaves out. -/
def allExclusionLines (excludedNames : List String) : List String :=
  ["!**/*.min.js", "!**/*.bundle.js"] ++ builtFolders.flatMap exclusionLines ++
    ((excludedNames.map cleanName).filter (!·.isEmpty)).flatMap fun n =>
      exclusionLines (String.ofList n)

/-! ## Visited files -/

/-- A file below the root: the names that lead to it, and its size. -/
structure VisitedFile where
  names : List String
  size : Nat
  deriving DecidableEq, Repr

/-- The file at some names below the root, if it can be looked at. -/
def VisitedFile.at? (read : Reader) (root : String) (names : List String) : Option VisitedFile :=
  match read (Path.join root ("/".intercalate names)) with
  | .ok content => some ⟨names, content.size⟩
  | .error _ => none

/-! ## Source files -/

/-- A file that can be indexed. -/
structure SourceFile where
  path : String
  /-- The names that lead to it from the root. -/
  names : List String
  language : Language
  deriving DecidableEq, Repr

def SourceFile.uri (f : SourceFile) : String := Uri.ofPath f.path

/-- The size is one that is taken up. -/
def Config.Admits (c : Config) (size : Nat) : Prop := 0 < size ∧ size ≤ c.effectiveMaxFileBytes

instance (c : Config) (size : Nat) : Decidable (c.Admits size) :=
  inferInstanceAs (Decidable (_ ∧ _))

/-- The visited file as a source file, if it is one. -/
def sourceFile? (config : Config) (root : String) (f : VisitedFile) : Option SourceFile :=
  let path := Path.join root ("/".intercalate f.names)
  if config.Admits f.size then (Language.ofPath? path).map (⟨path, f.names, ·⟩) else none

/-- Take up source files among the visited ones. Whether there are as many as the settings allow is
looked at after a file has been taken up. -/
def takeUp (config : Config) (root : String) :
    Array SourceFile → List VisitedFile → Array SourceFile
  | taken, [] => taken
  | taken, f :: rest =>
    match sourceFile? config root f with
    | none => takeUp config root taken rest
    | some file =>
      let taken := taken.push file
      if config.scan.maxFiles ≤ taken.size then taken else takeUp config root taken rest

/-- The source files that are taken up, in order of their names. -/
def sourceFiles (config : Config) (root : String) (visited : List VisitedFile) : List SourceFile :=
  (takeUp config root #[] visited).toList.mergeSort fun a b => !decide (b.names < a.names)

/-- A root that is itself a file. -/
def singleFile? (config : Config) (root : String) (size : Nat) : Option SourceFile := do
  let language ← Language.ofPath? root
  if config.Admits size then return ⟨root, [← Path.fileName? root], language⟩ else none

/-- The source files below a root. -/
def scan [FolderWalk] (disk : Disk) (config : Config) (root : String) :
    Except ScanError (List SourceFile) := do
  match ← (disk.node root).mapError (.noRoot root) with
  | .file content => return (singleFile? config root content.size).toList
  | .folder _ =>
    let lines := allExclusionLines config.scan.excludedNames
    let walked ← (FolderWalk.files disk root lines).mapError .badExclusion
    return sourceFiles config root (walked.filterMap (VisitedFile.at? disk.read root))

end CodeIndex
