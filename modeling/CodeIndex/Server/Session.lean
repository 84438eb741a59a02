import CodeIndex.Language.Parsers
import CodeIndex.Server.Registry
import CodeIndex.Server.Request
import CodeIndex.Symbol.Encode

/-!
# Serving an editor

A session takes messages one after the other. Each request gets exactly one reply, with its id and
either a result or an error. After a shutdown all requests but another shutdown and a new start are
refused.
-/

namespace CodeIndex

/-- The name and version that a session gives of itself. -/
def programName : String := "symdex"

def programVersion : String := "0.3.0"

structure Session where
  workspace : Workspace := .new {}
  cancels : CancelRegistry := {}
  shuttingDown : Bool := false

namespace Session

/-! ## Results -/

/-- What the server can do. -/
def capabilities : Json := .obj [
  ("completionProvider", .obj []),
  ("definitionProvider", true),
  ("documentHighlightProvider", true),
  ("documentSymbolProvider", true),
  ("positionEncoding", "utf-8"),
  ("referencesProvider", true),
  ("textDocumentSync", .int 1),
  ("workspaceSymbolProvider", true)]

def greeting : Json := .obj [
  ("capabilities", capabilities),
  ("serverInfo", .obj [("name", programName), ("version", programVersion)])]

/-- The number that editors know a kind of completion by. -/
def completionCode : SymbolKind → Nat
  | .method => 2
  | .function => 3
  | .constructor => 4
  | .field => 5
  | .variable => 6
  | .class | .object => 7
  | .interface => 8
  | .module | .namespace | .package => 9
  | .property | .key => 10
  | .string | .number | .boolean | .array | .null => 12
  | .enum => 13
  | .file => 17
  | .enumMember => 20
  | .constant => 21
  | .struct => 22
  | .event => 23
  | .operator => 24
  | .typeParameter => 25

def ofCompletion (c : Completion) : Json :=
  .obj (("label", .str c.label) ::
    (c.kind.map fun k => ("kind", Json.int (completionCode k))).toList)

def ofCompletions (cs : List Completion) : Json :=
  .obj [("isIncomplete", false), ("items", .ofList ofCompletion cs)]

/-! ## Requests -/

variable [Trees] [Digest] [FolderWalk] [Prefilter.Builder]

/-- The answer to a question about the workspace. -/
def answer (disk : Disk) (w : Workspace) (cancelled : Bool) :
    Request → Except Refusal Json × Workspace
  | .start none => (.ok greeting, w)
  | .start (some root) => match Workspace.open disk root with
    | .ok w => (.ok greeting, w)
    | .error e => (.error (.cannotOpen e), w)
  | .ping => (.ok (.obj []), w)
  | .shutdown => (.ok .null, w)
  | .outline uri =>
    let (found, w) := w.outline disk.read uri
    (.ok (match found with
      | some symbols => .arr (Encoding.wire.symbols symbols)
      | none => .null), w)
  | .references uri p includeDeclaration =>
    let (found, w) := w.references disk.read uri p includeDeclaration
    (.ok (.ofList Encoding.wire.location found), w)
  | .definitions uri p =>
    let (found, w) := w.definitions disk.read uri p
    (.ok (.ofList Encoding.wire.location found), w)
  | .highlights uri p =>
    let (found, w) := w.highlights disk.read uri p
    (.ok (.ofList (fun s => .obj [("range", Encoding.ofSpan s)]) found), w)
  | .completions uri p =>
    let (found, w) := w.completions disk.read uri p
    (.ok (ofCompletions found.values), w)
  | .search query mode =>
    let (found, w) := w.search disk.read query mode cancelled
    (.ok (.ofList Encoding.wire.namedSymbol found), w)

/-- A request that is answered even after a shutdown. -/
def isAlwaysServed (method : String) : Bool := method = "shutdown" || method = "initialize"

/-- Answer a request. A search looks at the token of its request to see whether it is called off. -/
def respond (disk : Disk) (s : Session) (id : Json) (method : String) (params : Json) :
    Except Refusal Json × Session :=
  if s.shuttingDown && !isAlwaysServed method then (.error .shuttingDown, s)
  else match Request.parse method params with
    | .error e => (.error e, s)
    | .ok request =>
      let (cancelled, cancels) := match request with
        | .search _ _ =>
          let (token, cancels) := s.cancels.register id
          (cancels.isCancelled token, cancels)
        | _ => (false, s.cancels)
      let (result, workspace) := answer disk s.workspace cancelled request
      (result, ⟨workspace, cancels, s.shuttingDown || request = .shutdown⟩)

/-- A reply as it is sent. -/
def reply (id : Json) (result : Except Refusal Json) : Json :=
  match result with
  | .ok r => .obj [("id", id), ("jsonrpc", "2.0"), ("result", r)]
  | .error e => .obj [
      ("error", .obj [("code", .int e.code), ("message", e.message)]),
      ("id", id), ("jsonrpc", "2.0")]

/-! ## Notifications -/

/-- The language of an opened document: the one that the editor names if it is supported, else the
one that the address tells, if it tells one. -/
def languageFor (uri languageId : String) : String :=
  if (Language.ofId? languageId).isSome then languageId
  else (((Uri.path? uri).bind Language.ofPath?).map (·.id)).getD languageId

def fileEvent (w : Workspace) : String × FileEvent → Workspace
  | (uri, .created) => w.fileAdded uri
  | (uri, .changed) => w.fileUpdated uri
  | (uri, .deleted) => w.fileRemoved uri

/-- Take note of a notification. -/
def note (disk : Disk) (w : Workspace) : Notification → Workspace
  | .opened uri languageId text version =>
    w.openDocument uri (languageFor uri languageId) text version
  | .edited uri text version => (w.changeDocument uri text version).2
  | .closed uri => w.closeDocument uri
  | .filesChanged events => ((events.foldl fileEvent w).update disk.read).2
  | .exit | .other => w

/-! ## Messages -/

/-- What a message leads to: the reply that is sent, if any, and whether the session ends. -/
structure Effect where
  reply : Option Json := none
  ends : Bool := false

/-- The part of a message's handling that does not wait for earlier requests: a request is
registered, and a cancellation reaches the request that it names. -/
def route (r : CancelRegistry) : Message → CancelRegistry
  | .request id _ _ => (r.register id).2
  | .cancel (some id) => (r.cancel id).2
  | .cancel none | .notify _ => r

/-- The part that comes in turn. -/
def handle (disk : Disk) (s : Session) : Message → Effect × Session
  | .cancel _ => ({}, s)
  | .notify .exit => ({ ends := true }, s)
  | .notify n => ({}, { s with workspace := note disk s.workspace n })
  | .request id method params =>
    let (result, s) := s.respond disk id method params
    ({ reply := some (reply id result) }, { s with cancels := s.cancels.finish id })

/-- Take one message. -/
def step (disk : Disk) (s : Session) (m : Message) : Effect × Session :=
  { s with cancels := route s.cancels m }.handle disk m

/-- The replies to a sequence of messages. -/
def replies (disk : Disk) : Session → List Message → List Json
  | _, [] => []
  | s, m :: rest =>
    let (effect, s) := s.step disk m
    effect.reply.toList ++ if effect.ends then [] else replies disk s rest

/-- The replies to all that an editor sends. -/
def serve (disk : Disk) (input : List UInt8) : List Json :=
  replies disk {} ((Utf8.lines input).filterMap Message.ofLine?)

end Session

end CodeIndex
