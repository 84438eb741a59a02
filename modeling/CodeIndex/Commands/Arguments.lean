import CodeIndex.Config
import CodeIndex.Text.Span

/-!
# The command line

A command has values at fixed places and options by name. Arguments are read in order, and the first
one that is wrong, or that asks for help or the version, decides.
-/

namespace CodeIndex

/-- What can be asked for on the command line. -/
inductive Command where
  | serve
  | outline (file : String)
  | symbols (query : String) (root : Option String) (mode : Option SearchMode)
  | references (file : String) (position : Position) (root : Option String)
      (includeDeclaration : Bool)
  | complete (file : String) (position : Position) (root : Option String)
  deriving DecidableEq, Repr

namespace Arguments

/-- The names of the commands. -/
inductive CommandName where
  | serve
  | outline
  | symbols
  | references
  | complete
  deriving DecidableEq, Repr

/-- Why there is no command to run. -/
inductive Stop where
  | usage
  | version
  | help (command : Option CommandName)
  deriving DecidableEq, Repr

/-- What a value must be. -/
inductive ValueKind where
  | path
  | text
  | number
  | mode
  deriving DecidableEq, Repr

/-- A value that has been read. -/
inductive Value where
  | text (s : String)
  | number (n : Nat)
  | mode (m : SearchMode)
  deriving DecidableEq, Repr

/-- An option: its name, and what its value must be if it has one. -/
structure OptionForm where
  name : String
  value : Option ValueKind := none
  deriving DecidableEq, Repr

namespace CommandName

def all : List CommandName := [serve, outline, symbols, references, complete]

def name : CommandName → String
  | serve => "serve"
  | outline => "outline"
  | symbols => "symbols"
  | references => "references"
  | complete => "complete"

def ofName? (s : String) : Option CommandName := all.find? (·.name = s)

/-- The values that a command takes at fixed places. -/
def places : CommandName → List ValueKind
  | serve => []
  | outline => [.path]
  | symbols => [.text]
  | references | complete => [.path, .number, .number]

/-- The options that a command takes. -/
def options : CommandName → List OptionForm
  | serve | outline => []
  | symbols => [⟨"root", some .path⟩, ⟨"mode", some .mode⟩]
  | references => [⟨"root", some .path⟩, ⟨"include-declaration", none⟩]
  | complete => [⟨"root", some .path⟩]

end CommandName

/-! ## Values -/

/-- The number that decimal digits with an optional sign in front make, if it has at most 32
bits. -/
def number? (s : String) : Option Nat :=
  let (minus, digits) := match s.toList with
    | '-' :: rest => (true, rest)
    | '+' :: rest => (false, rest)
    | rest => (false, rest)
  if digits.isEmpty || !digits.all Json.isDigit then none
  else
    let n := Json.ofDigits (Json.digitsOf digits)
    if n < Nat.pow 2 32 && (!minus || n = 0) then some n else none

/-- Read a value. A path must not be empty. -/
def Value.read? (s : String) : ValueKind → Option Value
  | .path => if s.isEmpty then none else some (.text s)
  | .text => some (.text s)
  | .number => (number? s).map .number
  | .mode => match SearchMode.parse s with
    | .ok m => some (.mode m)
    | .error _ => none

/-! ## Arguments of a command -/

/-- What has been read of a command's arguments. -/
structure Reading where
  /-- The values at fixed places, last first. -/
  values : List Value := []
  /-- The options given, with their values. -/
  options : List (String × Option Value) := []

def Reading.addValue (c : CommandName) (r : Reading) (s : String) : Except Stop Reading :=
  match c.places[r.values.length]? with
  | none => .error .usage
  | some kind => match Value.read? s kind with
    | some v => .ok { r with values := v :: r.values }
    | none => .error .usage

/-- An option is given at most once. -/
def Reading.addOption (r : Reading) (name : String) (value : Option Value) : Except Stop Reading :=
  if (r.options.lookup name).isSome then .error .usage
  else .ok { r with options := (name, value) :: r.options }

/-- The argument looks like an option. A dash alone does not. -/
def isOption (s : String) : Bool := s.startsWith "-" && s ≠ "-"

/-- The name and value of a long option. -/
def splitLong (s : String) : String × Option String :=
  let body := s.toList.drop 2
  match body.dropWhile (· ≠ '=') with
  | '=' :: value => (String.ofList (body.takeWhile (· ≠ '=')), some (String.ofList value))
  | _ => (String.ofList body, none)

/-- Read the arguments of a command. -/
def readArguments (c : CommandName) : Reading → List String → Except Stop Reading
  | r, [] => .ok r
  | r, "--" :: rest => rest.foldlM (Reading.addValue c) r
  | r, arg :: rest =>
    if !isOption arg then (r.addValue c arg).bind (readArguments c · rest)
    else if !arg.startsWith "--" then
      .error (if arg.startsWith "-h" then .help (some c) else .usage)
    else
      let (name, attached) := splitLong arg
      if name = "help" then .error (if attached.isSome then .usage else .help (some c))
      else match c.options.find? (·.name = name), attached, rest with
        | none, _, _ => .error .usage
        | some ⟨_, none⟩, none, rest => (r.addOption name none).bind (readArguments c · rest)
        | some ⟨_, none⟩, some _, _ => .error .usage
        | some ⟨_, some kind⟩, some s, rest => match Value.read? s kind with
          | some v => (r.addOption name (some v)).bind (readArguments c · rest)
          | none => .error .usage
        | some ⟨_, some kind⟩, none, s :: rest =>
          if isOption s then .error .usage
          else match Value.read? s kind with
            | some v => (r.addOption name (some v)).bind (readArguments c · rest)
            | none => .error .usage
        | some ⟨_, some _⟩, none, [] => .error .usage

namespace Reading

def text? (r : Reading) (name : String) : Option String :=
  match r.options.lookup name with
  | some (some (.text s)) => some s
  | _ => none

def mode? (r : Reading) (name : String) : Option SearchMode :=
  match r.options.lookup name with
  | some (some (.mode m)) => some m
  | _ => none

def has (r : Reading) (name : String) : Bool := (r.options.lookup name).isSome

/-- The command that has been read. -/
def command (c : CommandName) (r : Reading) : Except Stop Command :=
  match c, r.values.reverse with
  | .serve, [] => .ok .serve
  | .outline, [.text file] => .ok (.outline file)
  | .symbols, [.text query] => .ok (.symbols query (r.text? "root") (r.mode? "mode"))
  | .references, [.text file, .number line, .number column] =>
    .ok (.references file ⟨line, column⟩ (r.text? "root") (r.has "include-declaration"))
  | .complete, [.text file, .number line, .number column] =>
    .ok (.complete file ⟨line, column⟩ (r.text? "root"))
  | _, _ => .error .usage

end Reading

/-- The command that arguments ask for. -/
def parse : List String → Except Stop Command
  | [] => .error .usage
  | arg :: rest =>
    if arg = "--version" || arg.startsWith "-V" then .error .version
    else if arg = "--help" || arg.startsWith "-h" then .error (.help none)
    else if arg = "help" then match rest with
      | [] => .error (.help none)
      | name :: more => match CommandName.ofName? name, more with
        | some c, [] => .error (.help (some c))
        | _, _ => .error .usage
    else match CommandName.ofName? arg with
      | some c => (readArguments c {} rest).bind (·.command c)
      | none => .error .usage

end Arguments

end CodeIndex
