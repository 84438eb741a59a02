import CodeIndex.Commands.Run

/-!
# The program

What a command or message may look at is read from the real disk first; the rest is computed from
that.
-/

namespace CodeIndex

/-! ## Reading the real disk -/

/-- The result of an action, unless it fails. -/
def attempt {α : Type} (action : IO α) : IO (Option α) := do
  try return some (← action) catch _ => return none

/-- The content of a file, or nothing where it cannot be read. -/
def contentOf (path : String) : IO ByteArray := do
  return (← attempt (IO.FS.readBinFile path)).getD .empty

/-- What there is at a path, if there is anything. -/
def typeAt (path : String) : IO (Option IO.FS.FileType) := do
  return (← attempt do (← IO.FS.realPath path).metadata).map (·.type)

/-- Files that are looked at whatever their language is. -/
def isRuleFile (name : String) : Bool :=
  name = ".ignore" || name = ".gitignore" || name = Config.fileName

/-- What a folder says of the repository that it is the root of. -/
def repositoryNode (path : String) : IO DiskNode := do
  let exclude ← contentOf (path ++ "/info/exclude")
  return .folder [("info", .folder [("exclude", .file exclude)])]

/-- A folder with all that a scan may look at. Folders that are never gone into are left empty, and
so are files that are no source files. -/
partial def readFolder (path : String) : IO DiskNode := do
  let mut entries := []
  for e in (← attempt do (← IO.FS.realPath path).readDir).getD #[] do
    let name := e.fileName
    let inside := path ++ "/" ++ name
    let type : Option IO.FS.FileType := (← attempt e.path.symlinkMetadata).map (·.type)
    match type with
    | some .dir =>
      let node ← if name = ".git" then repositoryNode inside
        else if builtFolders.contains name then pure .empty else readFolder inside
      entries := (name, node) :: entries
    | some .file =>
      let wanted := isRuleFile name || (Language.ofPath? name).isSome
      let content ← if wanted then contentOf inside else pure .empty
      entries := (name, .file content) :: entries
    | _ => pure ()
  return .folder entries

/-- Put a node in its place on a disk, unless something is in the way. -/
def place (disk : Disk) (names : List String) (node : DiskNode) : Disk :=
  (disk.write names node).toOption.getD disk

/-- The names on an absolute path, with the steps upward taken. -/
def settled (path : String) : List String :=
  ((Path.parts path).foldl (fun names n => if n = ".." then names.tail else n :: names) []).reverse

/-- Add the rules that the folders around a folder hold. -/
def addSurroundings (disk : Disk) (names : List String) : IO Disk := do
  let mut disk := disk
  for n in List.range names.length do
    let around := names.take n
    for name in [".ignore", ".gitignore"] do
      let path := Path.ofParts (around ++ [name])
      disk := match ← attempt (IO.FS.readBinFile path) with
        | some content => place disk (around ++ [name]) (.file content)
        | none => disk
    for name in [".git", ".jj"] do
      let path := Path.ofParts (around ++ [name])
      if (← typeAt path).isSome then
        disk := place disk (around ++ [name]) (← repositoryNode path)
  return disk

/-- Add a file, if there is one at the path. A folder is added without what is in it. -/
def addFile (disk : Disk) (path : String) : IO Disk := do
  match ← typeAt path with
  | none => return disk
  | some .dir => return place disk (settled path) .empty
  | some _ => return place disk (settled path) (.file (← contentOf path))

/-- Add a file, or a folder with all that a scan may look at. -/
def addTree (disk : Disk) (path : String) : IO Disk := do
  let names := settled path
  match ← typeAt path with
  | some .dir => addSurroundings (place disk names (← readFolder (Path.ofParts names))) names
  | _ => addFile disk path

/-! ## What is looked at -/

/-- The roots that a command goes through, and the files that it names. -/
def Command.paths (current : String) : Command → List String × List String
  | .serve => ([], [])
  | .outline file => ([], [file])
  | .symbols _ root _ => ([root.getD current], [])
  | .references file _ root _ => ([root.getD current], [file])
  | .complete file _ root => ([root.getD current], [file])

/-- The addresses of the files that a message may ask for: those that it names, those with news, and
those known ones whose texts are not kept. -/
def Session.addresses (s : Session) (m : Message) : List String :=
  let index := s.workspace.index
  let known := index.snapshot.uris.filter fun u =>
    ((index.cache.get? u).bind index.cache.cached).isNone
  let named := match m with
    | .request _ _ params => (documentUri? params).toList
    | .notify (.filesChanged events) => events.map (·.1)
    | _ => []
  named ++ index.queue.keys ++ known

/-- The root that a message opens a workspace for. -/
def Message.root? : Message → Option String
  | .request _ "initialize" params => Request.root? params
  | _ => none

def currentFolder : IO String := do return toString (← IO.currentDir)

/-- The disk, as far as a message may look at it. -/
def diskFor (s : Session) (m : Message) : IO Disk := do
  let current ← currentFolder
  let mut disk : Disk := { current := settled current }
  for root in m.root?.toList do
    disk ← addTree disk (Path.join current root)
  for uri in s.addresses m do
    for path in (Uri.path? uri).toList do
      disk ← addFile disk (Path.join current path)
  return disk

/-! ## Running -/

/-- Serve an editor until it ends the session or sends no more. -/
partial def serveLoop (input output : IO.FS.Stream) (s : Session) : IO Unit := do
  let line ← input.getLine
  if line.isEmpty then return
  match (Utf8.lines line.toUTF8.toList).filterMap Message.ofLine? with
  | m :: _ =>
    let (effect, s) := s.step (← diskFor s m) m
    for reply in effect.reply.toList do
      output.putStrLn reply.normal.compact
      output.flush
    if effect.ends then return
    serveLoop input output s
  | [] => serveLoop input output s

/-- Carry out a command. -/
def runCommand (c : Command) : IO Exit := do
  match c with
  | .serve =>
    serveLoop (← IO.getStdin) (← IO.getStdout) {}
    return {}
  | c =>
    let current ← currentFolder
    let (roots, files) := c.paths current
    let mut disk : Disk := { current := settled current }
    for root in roots do
      disk ← addTree disk (Path.join current root)
    for file in files do
      disk ← addFile disk (Path.join current file)
    return c.run (← addFile disk current)

end CodeIndex

def main (args : List String) : IO UInt32 := do
  let exit ← match CodeIndex.Arguments.parse args with
    | .ok c => CodeIndex.runCommand c
    | .error stop => pure stop.run
  (← IO.getStdout).putStr exit.output
  (← IO.getStderr).putStr exit.problem
  return exit.code.toUInt32
