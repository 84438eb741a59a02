import CodeIndex.Files.Disk
import CodeIndex.Json.Reader
import CodeIndex.Symbol.Kind
import CodeIndex.Unicode.Blank

/-!
# Settings

Settings are read from a file in the workspace's root. What the file leaves out keeps its default,
and a file with anything wrong in it counts as none.
-/

namespace CodeIndex

/-- Which texts a search for symbols looks at. -/
inductive SearchMode where
  | off
  | documents
  | workspace
  deriving DecidableEq, Repr, Inhabited

namespace SearchMode

def all : List SearchMode := [off, documents, workspace]

def name : SearchMode → String
  | off => "off"
  | documents => "documents"
  | workspace => "workspace"

/-- The mode with exactly this name. -/
def ofName? (s : String) : Option SearchMode := all.find? (·.name = s)

/-- A text that names no mode, without white space around it and in lower case. -/
structure Unknown where
  text : String
  deriving DecidableEq, Repr

def Unknown.message (u : Unknown) : String := "unknown symbol search mode: " ++ u.text

/-- The mode that a text names, in any case and with white space around it. -/
def parse (s : String) : Except Unknown SearchMode :=
  let word := String.ofList (SymbolKind.lowerAscii (Unicode.trim s.toList))
  match ofName? word with
  | some m => .ok m
  | none => .error ⟨word⟩

theorem ofName?_name (m : SearchMode) : ofName? m.name = some m := by cases m <;> decide

end SearchMode

/-- Which files are taken up. -/
structure ScanConfig where
  /-- Folders of these names are left out, wherever they are. -/
  excludedNames : List String := []
  maxFileBytes : Nat := 524288
  maxFiles : Nat := 20000
  deriving DecidableEq, Repr, Inhabited

/-- How symbols are searched for. -/
structure SearchConfig where
  mode : SearchMode := .workspace
  /-- So many files are loaded before a search looks whether it has been cancelled. -/
  batchSize : Nat := 50
  deriving DecidableEq, Repr, Inhabited

structure Config where
  scan : ScanConfig := {}
  search : SearchConfig := {}
  deriving DecidableEq, Repr, Inhabited

/-- Larger files are left out whatever the settings say. -/
def absoluteMaxFileBytes : Nat := 1000000

/-- The size of the largest files that are taken up. -/
def Config.effectiveMaxFileBytes (c : Config) : Nat := min c.scan.maxFileBytes absoluteMaxFileBytes

/-! ## Reading settings -/

namespace Config

/-- The values of the named settings in an object, or in an array that lists the first of them. An
object that repeats one of the names is refused; other names are passed over. -/
def settings? (names : List String) : Json → Option (List (Option Json))
  | .obj ms =>
    if names.any fun n => (ms.filter (·.1 = n)).length > 1 then none
    else some (names.map fun n => ms.lookup n)
  | .arr xs =>
    if xs.length > names.length then none else some ((List.range names.length).map (xs[·]?))
  | _ => none

/-- A setting that may be left out. -/
def orDefault {α : Type} (read : Json → Option α) (default : α) : Option Json → Option α
  | none => some default
  | some j => read j

def strings? (j : Json) : Option (List String) := j.items?.bind fun xs => xs.mapM (·.str?)

/-- A mode is given by its name, or as an object with its name as the one key. -/
def mode? : Json → Option SearchMode
  | .str s => SearchMode.ofName? s
  | .obj [(s, .null)] => SearchMode.ofName? s
  | _ => none

def scanNames : List String := ["exclude_dir_names", "max_file_bytes", "max_files"]

def searchNames : List String := ["mode", "batch_size"]

def sectionNames : List String := ["scan", "search"]

def scan? (j : Json) : Option ScanConfig := do
  match ← settings? scanNames j with
  | [names, bytes, files] =>
    return ⟨← orDefault strings? ({} : ScanConfig).excludedNames names,
      ← orDefault (·.nat?) ({} : ScanConfig).maxFileBytes bytes,
      ← orDefault (·.nat?) ({} : ScanConfig).maxFiles files⟩
  | _ => none

def search? (j : Json) : Option SearchConfig := do
  match ← settings? searchNames j with
  | [mode, size] =>
    return ⟨← orDefault mode? ({} : SearchConfig).mode mode,
      ← orDefault (·.nat?) ({} : SearchConfig).batchSize size⟩
  | _ => none

def ofJson? (j : Json) : Option Config := do
  match ← settings? sectionNames j with
  | [scan, search] => return ⟨← orDefault scan? {} scan, ← orDefault search? {} search⟩
  | _ => none

/-- The settings that a file's text gives. -/
def ofText? (text : String) : Option Config := (Json.read? text).bind ofJson?

/-- The name of the file with the settings. -/
def fileName : String := ".symdex.json"

/-- The settings for the workspace with the given root. -/
def load (read : Reader) (root : String) : Config :=
  match read (Path.join root fileName) with
  | .ok bytes => ((String.fromUTF8? bytes).bind ofText?).getD {}
  | .error _ => {}

end Config

end CodeIndex
