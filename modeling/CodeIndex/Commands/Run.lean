import CodeIndex.Commands.Help
import CodeIndex.Json.Printer
import CodeIndex.Scan.Walk
import CodeIndex.Server.Session
import CodeIndex.Symbol.Encode

/-!
# Running a command

A command prints JSON, or says why it could not be carried out and what lies behind that.
-/

namespace CodeIndex

/-- What a program leaves behind. -/
structure Exit where
  code : Nat := 0
  output : String := ""
  problem : String := ""
  deriving DecidableEq, Repr

/-- Why a command could not be carried out. -/
inductive CommandError where
  | noSuchPath (path : String) (fault : Fault)
  | notIndexed (root : String) (error : ScanError)
  | unsupported (file : String)
  deriving DecidableEq, Repr

namespace CommandError

/-- The words for a failure, followed by those for what lies behind it. -/
def causes : CommandError → List String
  | noSuchPath path fault => ["No such file or directory: " ++ path, fault.message]
  | notIndexed root error => ("Failed to index " ++ root) :: error.causes
  | unsupported file => ["Unsupported or unreadable file: " ++ file]

/-- A text behind a mark, with the further lines set in as far as `blanks`. -/
def setIn (mark blanks text : String) : String :=
  mark ++ ("\n" ++ blanks).intercalate (text.splitOn "\n")

/-- The causes one below the other; several are numbered. -/
def causeLines : List String → List String
  | [cause] => [setIn "    " "    " cause]
  | causes => causes.zipIdx.map fun (cause, n) =>
    let number := toString n
    setIn (String.ofList (List.replicate (5 - number.length) ' ') ++ number ++ ": ") "       " cause

/-- The report of a failure. -/
def report (e : CommandError) : String :=
  match e.causes with
  | [] => ""
  | first :: [] => "Error: " ++ first ++ "\n"
  | first :: rest =>
    "Error: " ++ first ++ "\n\nCaused by:\n" ++ "\n".intercalate (causeLines rest) ++ "\n"

end CommandError

namespace Command

/-- The absolute path of an existing file or folder. -/
def absolute (disk : Disk) (path : String) : Except CommandError String :=
  match disk.place path with
  | .ok names => .ok (Path.ofParts names)
  | .error fault => .error (.noSuchPath path fault)

/-- The workspace of a root, or of the current folder. -/
def openWorkspace (disk : Disk) (root : Option String) : Except CommandError Workspace := do
  let root ← match root with
    | some r => absolute disk r
    | none => pure (Path.ofParts disk.current)
  (Workspace.open disk root).mapError (.notIndexed root)

def ofCompletion (c : Completion) : Json :=
  .obj (("label", .str c.label) :: (c.kind.map fun k => ("kind", Encoding.named.kind k)).toList)

/-- What a command prints. -/
def answer (disk : Disk) : Command → Except CommandError Json
  | .serve => .ok .null
  | .outline file => do
    let path ← absolute disk file
    match (Workspace.new {}).outline disk.read (Uri.ofPath path) with
    | (some found, _) => return .arr (Encoding.named.symbols found)
    | (none, _) => throw (.unsupported file)
  | .symbols query root mode => do
    let w ← openWorkspace disk root
    return .ofList Encoding.named.namedSymbol (w.search disk.read query mode false).1
  | .references file position root includeDeclaration => do
    let w ← openWorkspace disk root
    let path ← absolute disk file
    let (found, _) := w.references disk.read (Uri.ofPath path) position includeDeclaration
    return .ofList Encoding.named.location found
  | .complete file position root => do
    let w ← openWorkspace disk root
    let path ← absolute disk file
    let (found, _) := w.completions disk.read (Uri.ofPath path) position
    return .obj [("items", .ofList ofCompletion found.values)]

/-- Carry out a command other than the server, which speaks for itself. -/
def run (disk : Disk) (c : Command) : Exit :=
  match c with
  | .serve => {}
  | c => match c.answer disk with
    | .ok j => { output := j.pretty ++ "\n" }
    | .error e => { code := 1, problem := e.report }

end Command

/-- What the program does with arguments that name no command. -/
def Arguments.Stop.run : Stop → Exit
  | .usage => { code := 2, problem := "Usage: " ++ programName ++ " <COMMAND>\n" }
  | .version => { output := programName ++ " " ++ programVersion ++ "\n" }
  | .help c => { output := helpText programName c }

end CodeIndex
