import CodeIndex.Json.Reader
import CodeIndex.Json.Printer
import CodeIndex.Text.Utf8
import CodeIndex.Unicode.Blank
import CodeIndex.Workspace

/-!
# Messages from an editor

A message is one line of JSON. With an id it is a request, which gets a reply; without one it is a
notification. What a message asks for is read off its method and parameters.
-/

namespace CodeIndex

/-! ## Refusals -/

/-- Why a request gets an error for a reply. -/
inductive Refusal where
  | cannotOpen (error : ScanError)
  | shuttingDown
  | missingUri
  | missingPosition
  | unknownMode (mode : SearchMode.Unknown)
  | unknownMethod (method : String)
  deriving DecidableEq, Repr

namespace Refusal

/-- The code that editors know a refusal by. -/
def code : Refusal → Int
  | shuttingDown => -32600
  | unknownMethod _ => -32601
  | cannotOpen _ | missingUri | missingPosition | unknownMode _ => -32602

def message : Refusal → String
  | cannotOpen error => "Cannot open workspace: " ++ ": ".intercalate error.causes
  | shuttingDown => "Server is shutting down"
  | missingUri => "Missing textDocument.uri"
  | missingPosition => "Missing textDocument.uri or position"
  | unknownMode mode => mode.message
  | unknownMethod method => "Method not found: " ++ method

end Refusal

/-! ## Requests -/

inductive Request where
  | start (root : Option String)
  | ping
  | shutdown
  | outline (uri : String)
  | references (uri : String) (position : Position) (includeDeclaration : Bool)
  | definitions (uri : String) (position : Position)
  | highlights (uri : String) (position : Position)
  | completions (uri : String) (position : Position)
  | search (query : String) (mode : Option SearchMode)
  deriving DecidableEq, Repr

/-- A text among the parameters. -/
def textAt? (keys : List String) (params : Json) : Option String :=
  (params.path? keys).bind (·.str?)

def documentUri? (params : Json) : Option String := textAt? ["textDocument", "uri"] params

/-- Lines and columns have 32 bits; of larger numbers the low bits count. -/
def coordinate (n : Nat) : Nat := n % Nat.pow 2 32

/-- The document and the position in it that the parameters name. -/
def documentPosition? (params : Json) : Option (String × Position) := do
  let uri ← documentUri? params
  let line ← (← params.path? ["position", "line"]).nat?
  let character ← (← params.path? ["position", "character"]).nat?
  return (uri, ⟨coordinate line, coordinate character⟩)

namespace Request

/-- A request about a position. -/
def atPosition (make : String → Position → Request) (params : Json) : Except Refusal Request :=
  match documentPosition? params with
  | some (uri, p) => .ok (make uri p)
  | none => .error .missingPosition

/-- The root that the parameters name, by its address or by its path. -/
def root? (params : Json) : Option String :=
  ((textAt? ["rootUri"] params).bind Uri.path?).or (textAt? ["rootPath"] params)

def searchOf (params : Json) : Except Refusal Request :=
  let query := (textAt? ["query"] params).getD ""
  match textAt? ["mode"] params with
  | none => .ok (.search query none)
  | some m => match SearchMode.parse m with
    | .ok mode => .ok (.search query (some mode))
    | .error e => .error (.unknownMode e)

/-- What a request's method and parameters ask for. -/
def parse (method : String) (params : Json) : Except Refusal Request :=
  match method with
  | "initialize" => .ok (.start (root? params))
  | "ping" => .ok .ping
  | "shutdown" => .ok .shutdown
  | "textDocument/documentSymbol" => match documentUri? params with
    | some uri => .ok (.outline uri)
    | none => .error .missingUri
  | "textDocument/references" =>
    let declared := ((params.path? ["context", "includeDeclaration"]).bind (·.bool?)).getD false
    atPosition (.references · · declared) params
  | "textDocument/definition" => atPosition .definitions params
  | "textDocument/documentHighlight" => atPosition .highlights params
  | "textDocument/completion" => atPosition .completions params
  | "workspace/symbol" => searchOf params
  | _ => .error (.unknownMethod method)

end Request

/-! ## Notifications -/

/-- What has happened to a file. -/
inductive FileEvent where
  | created
  | changed
  | deleted
  deriving DecidableEq, Repr

inductive Notification where
  | exit
  | opened (uri languageId text : String) (version : Int)
  | edited (uri text : String) (version : Int)
  | closed (uri : String)
  | filesChanged (events : List (String × FileEvent))
  /-- One that needs nothing done. -/
  | other
  deriving DecidableEq, Repr

namespace Notification

def versionOf (params : Json) : Int :=
  ((params.path? ["textDocument", "version"]).bind (·.int?)).getD 0

def openedOf? (params : Json) : Option Notification := do
  let uri ← documentUri? params
  let text ← textAt? ["textDocument", "text"] params
  return .opened uri ((textAt? ["textDocument", "languageId"] params).getD "") text
    (versionOf params)

/-- An edit gives the whole text, and of several the last one counts. -/
def editedOf? (params : Json) : Option Notification := do
  let uri ← documentUri? params
  let changes ← (← params.get? "contentChanges").items?
  let text ← (← (← changes.getLast?).get? "text").str?
  return .edited uri text (versionOf params)

def fileEvent? (j : Json) : Option (String × FileEvent) := do
  let uri ← (← j.get? "uri").str?
  match ← (← j.get? "type").nat? with
  | 1 => return (uri, .created)
  | 2 => return (uri, .changed)
  | 3 => return (uri, .deleted)
  | _ => none

def filesChangedOf (params : Json) : Notification :=
  .filesChanged ((((params.get? "changes").bind (·.items?)).getD []).filterMap fileEvent?)

/-- What a notification's method and parameters tell. -/
def parse (method : String) (params : Json) : Notification :=
  match method with
  | "exit" => .exit
  | "textDocument/didOpen" => (openedOf? params).getD .other
  | "textDocument/didChange" => (editedOf? params).getD .other
  | "textDocument/didClose" => ((documentUri? params).map .closed).getD .other
  | "workspace/didChangeWatchedFiles" => filesChangedOf params
  | _ => .other

end Notification

/-! ## Messages -/

inductive Message where
  | request (id : Json) (method : String) (params : Json)
  | notify (notification : Notification)
  /-- Call off the request with this id, if one is named. -/
  | cancel (id : Option Json)

namespace Message

def ofJson (j : Json) : Message :=
  let method := (textAt? ["method"] j).getD ""
  let params := (j.get? "params").getD (.obj [])
  if method = "$/cancelRequest" then .cancel (j.path? ["params", "id"])
  else match j.get? "id" with
    | some id => .request id method params
    | none => .notify (.parse method params)

/-- The message in a line, if there is one. Blank lines, and those that are no text or no JSON value
that is taken up, hold none. -/
def ofLine? (line : List UInt8) : Option Message := do
  let text ← String.fromUTF8? ⟨line.toArray⟩
  if Unicode.isBlankText text then none
  else
    let j ← Json.read? text
    if j.isAcceptable then some (ofJson j.normal) else none

end Message

end CodeIndex
