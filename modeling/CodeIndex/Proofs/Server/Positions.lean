import CodeIndex.Proofs.Symbol.References
import CodeIndex.Proofs.Workspace.Typing
import CodeIndex.Server.Session

/-!
# Positions past the end of a document

A request for references, definitions or highlights is about the word at a position. The numbers of
its position may have 64 bits, of which the low 32 are taken.

**Theorem (`finds_nothing_iff`).** Let the parser lead positions past the last line of a document to
its root. Then a request gets an empty list or an error if and only if the session is shut down, or
the low bits of the line are past the end as well and the document is not a word as a whole, or no
word with places of the kind that is asked for stands at the position that the low bits make. A line
below 2^32 is its own low bits, so where it is past the end nothing is found.

**Failure (`wrapped_line_finds`).** On line 2^32 a request finds the word on the first line.

The word to the left counts where there is none at the position itself. It is on the same line, so
past the end both lookups lead to the root (`identifierAt_of_line`).
-/

namespace CodeIndex

/-! ## Words past the end -/

namespace Syntax

variable {source : String} {root n : Node} {p : Position}

/-- The word that a node is, if it is a named one without children and has some text in it. -/
def Node.word? (source : String) (n : Node) : Option (String × Span) :=
  if !n.info.named || !n.children.isEmpty || Unicode.isBlankText (n.info.textIn source) then none
  else some (n.info.textIn source, n.info.span)

theorem leafAt_eq (source : String) (root : Node) (p : Position) :
    leafAt source root p = (root.at? p).word? source := rfl

theorem identifierAt_of_line (line : ∀ character, root.at? ⟨p.line, character⟩ = n) :
    identifierAt source root p = n.word? source := by
  have leaf (character : Nat) : leafAt source root ⟨p.line, character⟩ = n.word? source := by
    rw [leafAt_eq, line]
  rw [identifierAt, show leafAt source root p = n.word? source from leaf p.character, leaf]
  split
  · exact Option.or_none
  · exact Option.or_self

theorem Node.at?_eq_self (past : ∀ c ∈ n.children, c.info.span.stop.line < p.line) :
    n.at? p = n := by
  have unreached : childAt p n.children = none := by
    rw [childAt, List.find?_eq_none.2]
    intro c hc
    have after : c.info.span.stop < p := Position.lt_def.2 (Or.inl (past c hc))
    have before : ¬ p < c.info.span.stop := fun h =>
      Position.lt_irrefl p (Position.lt_of_le_of_lt (Position.le_of_lt h) after)
    simp [before, Position.not_le.2 after]
  obtain ⟨i, cs⟩ := n
  rw [at?, depth, descend, unreached]

end Syntax

/-- The number of the last line of a text. -/
def lastLine (text : String) : Nat := text.toList.count '\n'

/-- Positions past the last line of the document lead to its root. -/
def Document.EndsWithText (d : Document) : Prop :=
  ∀ p : Position, lastLine d.text < p.line → d.root.at? p = d.root

section

variable {d : Document} {p : Position}

theorem Document.text_of_parse? [Trees] {languageId text : String}
    (parsed : d ∈ Document.parse? languageId text) : d.text = text := by
  obtain ⟨language, -, rfl⟩ := Option.map_eq_some_iff.1 parsed
  rfl

/-- A document ends with its text if no part of it ends later. -/
theorem Document.endsWithText_of_children
    (within : ∀ c ∈ d.root.children, c.info.span.stop.line ≤ lastLine d.text) : d.EndsWithText :=
  fun _ past => Syntax.Node.at?_eq_self fun c hc => Nat.lt_of_le_of_lt (within c hc) past

/-- Past the end of a document, the only word is the whole of it. -/
theorem Document.EndsWithText.identifierAt (ends : d.EndsWithText)
    (past : lastLine d.text < p.line) :
    d.identifierAt p = d.root.word? d.text :=
  Syntax.identifierAt_of_line fun character => ends ⟨p.line, character⟩ past

end

/-! ## What a request finds -/

/-- The word has places of the kind that the request asks for. -/
def Request.Finds [Trees] [Digest] (read : Reader) (w : Workspace) (d : Document) (word : String) :
    Request → Prop
  | .references uri p includeDeclaration =>
    let s := (w.index.update read).2.snapshot
    alike ((entryAt (s.usagesOf word) (s.definitionsOf word) uri p).bind (·.kind))
      (s.usagesOf word ++ if includeDeclaration then s.definitionsOf word else []) ≠ []
  | .definitions uri _ =>
    SymbolIndex.localDefinitions d uri word ≠ [] ∨ w.index.snapshot.definitionsOf word ≠ []
  | .highlights _ _ => ∃ c ∈ d.captures .identifiers, c.text = word
  | _ => False

/-- The request asks for the places of the word at this position. -/
def Request.IsAt (uri : String) (p : Position) : Request → Prop
  | .references u q _ | .definitions u q | .highlights u q => u = uri ∧ q = p
  | _ => False

theorem foldr_dedup_eq_nil_iff (spans : List Span) :
    spans.foldr (fun s out => if out.head? = some s then out else s :: out) [] = [] ↔
      spans = [] := by
  cases spans with
  | nil => simp
  | cons s spans =>
    rw [List.foldr_cons]
    split
    · rename_i same
      simp [List.ne_nil_of_mem (List.mem_of_head? same)]
    · simp

theorem selectReferences_eq_nil_iff (usages definitions : List Entry) (uri : String) (p : Position)
    (includeDeclaration : Bool) :
    selectReferences usages definitions uri p includeDeclaration = [] ↔
      alike ((entryAt usages definitions uri p).bind (·.kind))
        (usages ++ if includeDeclaration then definitions else []) = [] := by
  have perm := selectReferences_perm_alike usages definitions uri p includeDeclaration
  rw [← List.length_eq_zero_iff, perm.length_eq, List.length_map, List.length_eq_zero_iff]

section

variable [Trees] [Digest] {w : Workspace} {d : Document} {uri : String} {b : Buffer} {p : Position}

theorem Document.highlights_ne_nil_iff (read : Reader) (w : Workspace) (uri : String) :
    d.highlights p ≠ [] ↔ ∃ word span, d.identifierAt p = some (word, span) ∧
      (Request.highlights uri p).Finds read w d word := by
  rw [highlights]
  cases d.identifierAt p with
  | none => simp
  | some found =>
    obtain ⟨word, span⟩ := found
    simp [foldr_dedup_eq_nil_iff, List.filter_eq_nil_iff, Request.Finds]

theorem SymbolIndex.definitions_ne_nil_iff (read : Reader) (w : Workspace) :
    w.index.definitions d uri p ≠ [] ↔ ∃ word span, d.identifierAt p = some (word, span) ∧
      (Request.definitions uri p).Finds read w d word := by
  rw [definitions]
  cases d.identifierAt p with
  | none => simp
  | some found =>
    obtain ⟨word, span⟩ := found
    cases own : localDefinitions d uri word <;> simp [Request.Finds, own]

theorem SymbolIndex.references_ne_nil_iff (read : Reader) (w : Workspace) (declared : Bool) :
    (w.index.references read d uri p declared).1 ≠ [] ↔
      ∃ word span, d.identifierAt p = some (word, span) ∧
        (Request.references uri p declared).Finds read w d word := by
  rw [references]
  cases d.identifierAt p with
  | none => simp
  | some found =>
    obtain ⟨word, span⟩ := found
    simp [Request.Finds, selectReferences_eq_nil_iff]

variable [FolderWalk] [Prefilter.Builder]

theorem Session.answer_highlights (disk : Disk) (w : Workspace) (cancelled : Bool) (uri : String)
    (p : Position) :
    (answer disk w cancelled (.highlights uri p)).1 = .ok (.ofList
      (fun s => .obj [("range", Encoding.ofSpan s)]) (w.highlights disk.read uri p).1) := rfl

/-- A request about a position in an open document gets a list, with something in it just if the
word there has places of the kind that is asked for. -/
theorem Session.answer_isAt (disk : Disk) (opened : w.documents[uri]? = some b) {request : Request}
    (asks : request.IsAt uri p) (cancelled : Bool) :
    ∃ places, (answer disk w cancelled request).1 = .ok (.arr places) ∧
      (places ≠ [] ↔ ∃ d ∈ Document.parse? b.languageId b.text, ∃ word span,
        d.identifierAt p = some (word, span) ∧ request.Finds disk.read w d word) := by
  have document := Workspace.document_of_open disk.read opened
  cases request with
  | references u q declared =>
    obtain ⟨rfl, rfl⟩ := asks
    refine ⟨(w.references disk.read u q declared).1.map Encoding.wire.location, rfl, ?_⟩
    rw [Workspace.references, document, Ne, List.map_eq_nil_iff]
    cases Document.parse? b.languageId b.text with
    | none => simp
    | some d => simpa using SymbolIndex.references_ne_nil_iff disk.read w declared
  | definitions u q =>
    obtain ⟨rfl, rfl⟩ := asks
    refine ⟨(w.definitions disk.read u q).1.map Encoding.wire.location, rfl, ?_⟩
    rw [Workspace.definitions, document, Ne, List.map_eq_nil_iff]
    cases Document.parse? b.languageId b.text with
    | none => simp
    | some d => simpa using SymbolIndex.definitions_ne_nil_iff disk.read w
  | highlights u q =>
    obtain ⟨rfl, rfl⟩ := asks
    refine ⟨_, answer_highlights disk w cancelled u q, ?_⟩
    rw [Workspace.highlights, document, Ne, List.map_eq_nil_iff]
    cases Document.parse? b.languageId b.text with
    | none => simp
    | some d => simpa using Document.highlights_ne_nil_iff disk.read w u
  | _ => cases asks

end

/-! ## Replies -/

/-- The methods that ask for the places of the word at a position. -/
def locating : List String :=
  ["textDocument/references", "textDocument/definition", "textDocument/documentHighlight"]

/-- A request for the places of the word at a position: the document that its parameters name and
the numbers that they give. -/
structure Locates (method : String) (params : Json) (uri : String)
    (line character : Nat) : Prop where
  method : method ∈ locating
  uri : documentUri? params = some uri
  line : params.path? ["position", "line"] = some (.int line)
  character : params.path? ["position", "character"] = some (.int character)

theorem coordinate_of_lt {n : Nat} (small : n < 2 ^ 32) : coordinate n = n := Nat.mod_eq_of_lt small

section

variable {method uri : String} {params : Json} {line character : Nat}

theorem Locates.documentPosition? (locates : Locates method params uri line character) :
    CodeIndex.documentPosition? params = some (uri, ⟨coordinate line, coordinate character⟩) := by
  simp [CodeIndex.documentPosition?, locates.uri, locates.line, locates.character, Json.nat?]

/-- Of the numbers of its position a request keeps the low bits. -/
theorem Locates.parse (locates : Locates method params uri line character) :
    ∃ request, Request.parse method params = .ok request ∧
      request.IsAt uri ⟨coordinate line, coordinate character⟩ := by
  have read (make : String → Position → Request) : Request.atPosition make params =
      .ok (make uri ⟨coordinate line, coordinate character⟩) := by
    rw [Request.atPosition, locates.documentPosition?]
  have known := locates.method
  simp only [locating, List.mem_cons, List.not_mem_nil, or_false] at known
  rcases known with rfl | rfl | rfl
  · exact ⟨_, read _, rfl, rfl⟩
  · exact ⟨_, read _, rfl, rfl⟩
  · exact ⟨_, read _, rfl, rfl⟩

namespace Session

/-- The reply to the request with this id is an empty list or an error. -/
def Effect.FindsNothing (e : Effect) (id : Json) : Prop :=
  ∃ r, e.reply = some r ∧ r.get? "id" = some id ∧
    (r.get? "result" = some (.arr []) ∨ (r.get? "error").isSome)

theorem findsNothing_error (id : Json) (e : Refusal) :
    Effect.FindsNothing { reply := some (reply id (.error e)) } id := by
  simp [Effect.FindsNothing, reply, Json.get?, List.lookup_cons]

theorem findsNothing_ok (id : Json) (places : List Json) :
    Effect.FindsNothing { reply := some (reply id (.ok (.arr places))) } id ↔ places = [] := by
  simp [Effect.FindsNothing, reply, Json.get?, List.lookup_cons]

variable [Trees] [Digest] [FolderWalk] [Prefilter.Builder] {s : Session} {b : Buffer}

theorem respond_locates (locates : Locates method params uri line character) {request : Request}
    (parsed : Request.parse method params = .ok request)
    (asks : request.IsAt uri ⟨coordinate line, coordinate character⟩) (s : Session) (disk : Disk)
    (id : Json) :
    (s.respond disk id method params).1 =
      if s.shuttingDown then .error .shuttingDown
      else (answer disk s.workspace false request).1 := by
  have refusable : ∀ m ∈ locating, isAlwaysServed m = false := by decide
  rw [respond, refusable method locates.method, Bool.not_false, Bool.and_true, parsed]
  by_cases down : s.shuttingDown = true
  · rw [if_pos down, if_pos down]
  · rw [if_neg down, if_neg down]
    cases request with
    | references | definitions | highlights => rfl
    | _ => cases asks

theorem step_locates (locates : Locates method params uri line character) {request : Request}
    (parsed : Request.parse method params = .ok request)
    (asks : request.IsAt uri ⟨coordinate line, coordinate character⟩) (s : Session) (disk : Disk)
    (id : Json) :
    (s.step disk (.request id method params)).1 = { reply := some (reply id
      (if s.shuttingDown then .error .shuttingDown
        else (answer disk s.workspace false request).1)) } :=
  -- the request is registered before it is answered
  congrArg (fun result => ({ reply := some (reply id result) } : Effect))
    (respond_locates locates parsed asks { s with cancels := (s.cancels.register id).2 } disk id)

/-- **A request about a position finds nothing if and only if the session is shut down, or the low
32 bits of its line are past the end of the document and this is no word as a whole, or no word with
places of the kind that is asked for stands where the low bits lead.** -/
theorem finds_nothing_iff (locates : Locates method params uri line character)
    (opened : s.workspace.documents[uri]? = some b)
    (ends : ∀ d ∈ Document.parse? b.languageId b.text, d.EndsWithText) (disk : Disk) (id : Json) :
    let p : Position := ⟨coordinate line, coordinate character⟩
    ∃ request, Request.parse method params = .ok request ∧ request.IsAt uri p ∧
      ((s.step disk (.request id method params)).1.FindsNothing id ↔
        s.shuttingDown = true ∨
        (lastLine b.text < p.line ∧
          ∀ d ∈ Document.parse? b.languageId b.text, d.root.word? d.text = none) ∨
        ¬ ∃ d ∈ Document.parse? b.languageId b.text, ∃ word span,
          d.identifierAt p = some (word, span) ∧ request.Finds disk.read s.workspace d word) := by
  intro p
  obtain ⟨request, parsed, asks⟩ := locates.parse
  obtain ⟨places, answered, found⟩ := answer_isAt disk opened asks false
  refine ⟨request, parsed, asks, ?_⟩
  rw [step_locates locates parsed asks, answered]
  by_cases down : s.shuttingDown = true
  · rw [if_pos down]
    exact iff_of_true (findsNothing_error id _) (Or.inl down)
  · rw [if_neg down, findsNothing_ok, or_iff_right down, ← not_iff_comm.1 found]
    refine (or_iff_right_of_imp ?_).symm
    rintro ⟨past, no_word⟩ ⟨d, hd, word, span, pointed, -⟩
    rw [(ends d hd).identifierAt (Document.text_of_parse? hd ▸ past), no_word d hd] at pointed
    cases pointed

end Session

end

/-! ## A small example -/

namespace Example

/-- A session with one open document. -/
def opening : Session :=
  let _ := classes
  let _ := digests
  (({} : Session).step {} (.notify (.opened "file:///m.py" "python" fooBar 1))).2

/-- The parameters of a request about a position in it. -/
def pointing (line character : Nat) : Json := .obj [
  ("textDocument", .obj [("uri", "file:///m.py")]),
  ("position", .obj [("line", line), ("character", character)])]

theorem locates_pointing (line character : Nat) :
    Locates "textDocument/documentHighlight" (pointing line character) "file:///m.py" line
      character :=
  ⟨by simp [locating], rfl, rfl, rfl⟩

theorem documents_opening :
    opening.workspace.documents["file:///m.py"]? = some ⟨"python", fooBar, 1⟩ := by decide +kernel

theorem endsWithText_opening : ∀ d ∈ @Document.parse? classes "python" fooBar, d.EndsWithText := by
  rintro _ ⟨⟩
  exact Document.endsWithText_of_children (by decide +kernel)

end Example

namespace Session

/-- A position some lines after the end. -/
theorem finds_nothing_iff_past :
    let _ := Example.classes
    let _ := Example.digests
    let s := Example.opening
    let method := "textDocument/documentHighlight"
    let params := Example.pointing 7 8
    Locates method params "file:///m.py" 7 8 ∧
      s.workspace.documents["file:///m.py"]? = some ⟨"python", Example.fooBar, 1⟩ ∧
      (∀ d ∈ Document.parse? "python" Example.fooBar, d.EndsWithText) ∧
      (s.step {} (.request (.int 1) method params)).1.FindsNothing (.int 1) := by
  intro _ _ s method params
  have locates : Locates method params "file:///m.py" 7 8 := Example.locates_pointing 7 8
  have past : lastLine Example.fooBar < coordinate 7 := by
    rw [coordinate_of_lt (by decide)]
    decide +kernel
  have no_word : ∀ d ∈ Document.parse? "python" Example.fooBar, d.root.word? d.text = none := by
    rintro _ ⟨⟩
    decide +kernel
  refine ⟨locates, Example.documents_opening, Example.endsWithText_opening, ?_⟩
  obtain ⟨_, -, -, nothing⟩ := finds_nothing_iff locates Example.documents_opening
    Example.endsWithText_opening {} (.int 1)
  exact nothing.2 (Or.inr (Or.inl ⟨past, no_word⟩))

/-- **On line 2^32 of a document with one line, a request finds the word on the first line.** -/
theorem wrapped_line_finds :
    let _ := Example.classes
    let _ := Example.digests
    let s := Example.opening
    let method := "textDocument/documentHighlight"
    let params := Example.pointing 4294967296 8
    let effect := (s.step {} (.request (.int 1) method params)).1
    Locates method params "file:///m.py" 4294967296 8 ∧
      s.workspace.documents["file:///m.py"]? = some ⟨"python", Example.fooBar, 1⟩ ∧
      (∀ d ∈ Document.parse? "python" Example.fooBar, d.EndsWithText) ∧
      lastLine Example.fooBar < 4294967296 ∧
      effect.reply = some (reply (.int 1) (.ok (.arr
        [.obj [("range", Encoding.ofSpan ⟨⟨0, 6⟩, ⟨0, 12⟩⟩)]]))) ∧
      ¬ effect.FindsNothing (.int 1) := by
  intro _ _ s method params effect
  have locates : Locates method params "file:///m.py" 4294967296 8 := Example.locates_pointing _ 8
  have pointed : (Document.parse .python Example.fooBar).identifierAt ⟨0, 8⟩ =
      some ("fooBar", ⟨⟨0, 6⟩, ⟨0, 12⟩⟩) := by decide +kernel
  have highlighted : (Document.parse .python Example.fooBar).highlights ⟨0, 8⟩ =
      [⟨⟨0, 6⟩, ⟨0, 12⟩⟩] := by
    rw [Document.highlights, pointed, Example.words_fooBar]
    rfl
  have found : (s.workspace.highlights ({} : Disk).read "file:///m.py" ⟨0, 8⟩).1 =
      [⟨⟨0, 6⟩, ⟨0, 12⟩⟩] := by
    rw [Workspace.highlights, Workspace.document_of_open _ Example.documents_opening,
      Example.parsed_fooBar, ← highlighted]
  have answered : (answer {} s.workspace false (.highlights "file:///m.py" ⟨0, 8⟩)).1 =
      .ok (.arr [.obj [("range", Encoding.ofSpan ⟨⟨0, 6⟩, ⟨0, 12⟩⟩)]]) := by
    rw [answer_highlights, found]
    rfl
  have serving : ¬ s.shuttingDown = true := Bool.false_ne_true
  have parsed : Request.parse method params = .ok (.highlights "file:///m.py" ⟨0, 8⟩) := rfl
  have taken := step_locates locates parsed ⟨rfl, rfl⟩ s {} (.int 1)
  rw [if_neg serving, answered] at taken
  have past : lastLine Example.fooBar < 4294967296 := by decide +kernel
  refine ⟨locates, Example.documents_opening, Example.endsWithText_opening, past,
    congrArg (·.reply) taken, ?_⟩
  show ¬ (s.step {} (.request (.int 1) method params)).1.FindsNothing (.int 1)
  rw [taken, findsNothing_ok]
  exact List.cons_ne_nil _ _

end Session

end CodeIndex
