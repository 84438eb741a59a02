import CodeIndex.Commands.Arguments

/-!
# Help

Each line of a list has a name and what the name is for, in two columns.
-/

namespace CodeIndex.Arguments

/-- A line of a list. -/
abbrev HelpLine := String × String

/-- What each command does. -/
def CommandName.summary : CommandName → String
  | serve => "Start the JSON-RPC stdio server"
  | outline => "Print the symbol outline of one file as JSON"
  | symbols => "Fuzzy-search symbol names across a workspace"
  | references => "List references to the identifier at LINE:COL (0-based)"
  | complete => "Completion candidates at LINE:COL (0-based)"

/-- The names of a command's values at fixed places. -/
def CommandName.placeNames : CommandName → List String
  | serve => []
  | outline => ["<FILE>"]
  | symbols => ["<QUERY>"]
  | references | complete => ["<FILE>", "<LINE>", "<COL>"]

def rootLine : HelpLine :=
  ("      --root <DIR>", "Workspace root (defaults to the current directory)")

def bareRootLine : HelpLine := ("      --root <DIR>", "")

/-- The options that only one command has, or that it has in its own way. -/
def CommandName.optionLines : CommandName → List HelpLine
  | serve | outline => []
  | symbols => [rootLine, ("      --mode <MODE>",
      "off | documents | workspace (defaults to `search.mode` from the config file)")]
  | references => [bareRootLine, ("      --include-declaration", "Also report definitions")]
  | complete => [bareRootLine]

def helpLine : HelpLine := ("  -h, --help", "Print help")

/-- Lines in two columns. -/
def columns (ls : List HelpLine) : List String :=
  let width := (ls.map (·.1.length)).foldl max 0
  ls.map fun (name, use) =>
    name ++ String.ofList (List.replicate (width - name.length + 2) ' ') ++ use

/-- A list under a title, unless it is empty. -/
def helpList (title : String) (ls : List HelpLine) : List String :=
  if ls.isEmpty then [] else "" :: title :: columns ls

/-- The help on the program, or on one of its commands. -/
def helpLines (program : String) : Option CommandName → List String
  | none =>
    let commands := CommandName.all.map fun c => (c.name, c.summary)
    let all := commands ++ [("help", "Print this message or the help of the given subcommand(s)")]
    ["Cross-language symbol index: outlines, references, completion and workspace symbol search",
      "",
      "Usage: " ++ program ++ " <COMMAND>"] ++
      helpList "Commands:" (all.map fun (name, use) => ("  " ++ name, use)) ++
      helpList "Options:" [helpLine, ("  -V, --version", "Print version")]
  | some c =>
    let usage := "Usage: " ++ program ++ " " ++ c.name ++
      (if c.optionLines.isEmpty then "" else " [OPTIONS]") ++
      String.join (c.placeNames.map (" " ++ ·))
    [c.summary, "", usage] ++
      helpList "Arguments:" (c.placeNames.map fun n => ("  " ++ n, "")) ++
      helpList "Options:" (c.optionLines ++ [helpLine])

def helpText (program : String) (command : Option CommandName) : String :=
  String.join ((helpLines program command).map (· ++ "\n"))

end CodeIndex.Arguments
