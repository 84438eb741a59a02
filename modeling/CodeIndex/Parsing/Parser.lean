import CodeIndex.Parsing.Lexer
import CodeIndex.Parsing.Stack

/-!
# Parsing with several stack versions

Each version of the stack is advanced token by token. A reduction makes a new version, a shift moves
the version on; versions that can be merged are merged. A version whose token fits no action waits;
when every version waits, the best one enters error recovery:

- it may insert one missing token;
- it may go back to an earlier state where the token fits, wrapping what it leaves behind in an
  error;
- it may skip the token into an error.

The versions compete by the cost of their errors, and clearly worse ones are dropped.
-/

namespace CodeIndex.Parsing

open Grammar

/-- The state of a parse. -/
structure Session where
  automaton : Automaton
  stack : Stack
  finished : Option Tree := none
  accepted : Nat := 0
  deriving Inhabited

abbrev ParseM := StateM Session

/-- At most this many versions survive a round. -/
def maxVersions : Nat := 6

/-- Within a round this many more are allowed. -/
def versionOverflow : Nat := 4

def maxSummaryDepth : Nat := 16

namespace ParseM

def onAutomaton {α : Type} (x : StateM Automaton α) : ParseM α :=
  modifyGet fun s =>
    let a := s.automaton
    let s := { s with automaton := {} }
    let (r, a) := x.run a
    (r, { s with automaton := a })

def onStack (f : Stack → Stack) : ParseM Unit :=
  modify fun s => { s with stack := f s.stack }

/-- Change the stack and read something off the change. -/
def onStackGet {α : Type} (f : Stack → α × Stack) : ParseM α :=
  modifyGet fun s =>
    let st := s.stack
    let s := { s with stack := {} }
    let (r, st) := f st
    (r, { s with stack := st })

def askStack {α : Type} (f : Stack → α) : ParseM α := do return f (← get).stack

def versionCount : ParseM Nat := askStack (·.versions.size)

def stateOf (v : Nat) : ParseM Nat := askStack (·.state v)

def hereOf (v : Nat) : ParseM Cursor := askStack (·.here v)

def push (v : Nat) (t : Option Tree) (state : Nat) : ParseM Unit := onStack (·.push v t state)

def halt (v : Nat) : ParseM Unit := onStack (·.halt v)

def remove (v : Nat) : ParseM Unit := onStack (·.remove v)

/-- Merge version `j` into `i`, if they agree. -/
def merge (i j : Nat) : ParseM Bool :=
  onStackGet fun s =>
    match s.merge? i j with
    | some s => (true, s)
    | none => (false, s)

end ParseM

open ParseM

variable (L : Parser)

/-- The actions of a state for a token. -/
def actionsOf (state token : Nat) : ParseM (List Action) :=
  onAutomaton (L.tables.actions state token)

/-! ## Tokens -/

/-- The text between two cursors. -/
def Cursor.textTo (a b : Cursor) : String :=
  let rec go : List Char → Nat → List Char
    | [], _ => []
    | c :: cs, n => if n = 0 then [] else c :: go cs (n - c.utf8Size)
  String.ofList (go a.rest (b.byte - a.byte))

/-- Ask the hand-written scanner. A token without text counts only if it changes what the scanner
remembers or the parse can use it without going round in circles. -/
def scanExternal (v state : Nat) (errorMode : Bool) (st : State) (c : Cursor) :
    ParseM (Option Scanned) := do
  let ext := L.tables.grammar.externals
  if !errorMode && !ext.any (fun k => st.valid.has k) then return none
  let memory ← askStack fun s => (s.versions[v]!).memory
  let possible (i : Nat) : Bool := match ext[i]? with
    | some k => st.valid.has k
    | none => false
  match L.scan possible memory c with
  | none => return none
  | some r =>
    if r.stop.byte ≤ c.byte && r.memory = memory then
      let next ← onAutomaton (L.tables.after state (ext[r.token]!))
      let advanced ← askStack (·.hasAdvancedSinceError v)
      if errorMode || !advanced || next = state then return none
    return some r

/-- Look for a token at `c`. Where none is possible, any token of the language is looked for; where
there is none either, characters are skipped until there is one. -/
def lexFrom? (v state : Nat) (lead : Cursor) : Nat → Bool → Option (Cursor × Cursor) → Cursor →
    ParseM (Option Tree)
  | 0, _, _, _ => return none
  | fuel + 1, errorMode, skipped, c => do
    let g := L.tables.grammar
    let st := ((← get).automaton.states[if errorMode then 0 else state]!)
    let finish (token : Nat) (start stop : Cursor) (memory : Option Memory) :
        ParseM (Option Tree) := do
      match skipped with
      | some (a, b) => return some (Tree.leaf g errorSymbol lead a b)
      | none =>
        if some token == g.word && memory.isNone then
          match g.keywords[start.textTo stop]? with
          | some k =>
            let usable := !(← actionsOf L state k).isEmpty
            return some (Tree.leaf g (if usable then k else token) lead start stop true)
          | none => return some (Tree.leaf g token lead start stop)
        else return some (Tree.leaf g token lead start stop false memory)
    match ← scanExternal L v state errorMode st c with
    | some r => finish (g.externals[r.token]!) r.start r.stop (some r.memory)
    | none =>
      let r := lexTokens g st c
      match r.found with
      | some f => finish f.token f.start f.stop none
      | none =>
        if !errorMode then lexFrom? v state lead fuel true none c
        else
          let (a, b) := skipped.getD (r.start, r.start)
          if r.here.byte = b.byte then
            if r.here.atEnd then return some (Tree.leaf g errorSymbol lead a b)
            else
              let here := r.here.next
              lexFrom? v state lead fuel true (some (a, here)) here
          else lexFrom? v state lead fuel true (some (a, r.here)) r.here

/-- The next token for a version, or nothing where an extra ends. -/
def lex (v state : Nat) : ParseM (Option Tree) := do
  let st := (← get).automaton.states[state]!
  if st.valid.has L.tables.grammar.endOfExtra then return none
  let lead ← hereOf v
  let c := if lead.byte = 0 && lead.peek? = some '\ufeff' then lead.next else lead
  lexFrom? L v state lead (2 * c.rest.length + 8) (state = 0) none c

/-! ## Choosing between trees -/

/-- The second tree is the better one. -/
def prefersSecond (a b : Tree) : Bool :=
  if b.cost ≠ a.cost then b.cost < a.cost
  else if b.facts.dynamic ≠ a.facts.dynamic then b.facts.dynamic > a.facts.dynamic
  else if a.cost > 0 then true
  else Tree.compareShape 1000 a b = .gt

/-- Children with the extras at their end split off. -/
def splitTrailingExtras (ts : List Tree) : List Tree × List Tree :=
  let r := ts.reverse
  ((r.dropWhile (·.facts.extra)).reverse, (r.takeWhile (·.facts.extra)).reverse)

/-! ## Actions -/

/-- What the versions are compared by. -/
structure Standing where
  cost : Nat
  progress : Nat
  dynamic : Int
  inError : Bool

inductive Comparison where
  | takeLeft
  | preferLeft
  | none
  | preferRight
  | takeRight

namespace Standing

def compare (a b : Standing) : Comparison :=
  if !a.inError && b.inError then if a.cost < b.cost then .takeLeft else .preferLeft
  else if a.inError && !b.inError then if b.cost < a.cost then .takeRight else .preferRight
  else if a.cost < b.cost then
    if (b.cost - a.cost) * (1 + a.progress) > Cost.maxDifference then .takeLeft else .preferLeft
  else if b.cost < a.cost then
    if (a.cost - b.cost) * (1 + b.progress) > Cost.maxDifference then .takeRight else .preferRight
  else if a.dynamic > b.dynamic then .preferLeft
  else if b.dynamic > a.dynamic then .preferRight
  else .none

end Standing

def standing (v : Nat) : ParseM Standing := do
  onStack (·.settle v)
  askStack fun s =>
    let paused := s.isPaused v
    { cost := s.cost v + (if paused then Cost.skippedTree else 0)
      progress := s.progressSinceError v
      dynamic := (s.top v).dynamic
      inError := paused || s.state v = 0 }

/-- Some other version, or the finished tree, is clearly better than `v` would be at the given
cost. -/
def betterExists (v : Nat) (inError : Bool) (cost : Nat) : ParseM Bool := do
  if let some t := (← get).finished then
    if t.cost ≤ cost then return true
  onStack (·.settle v)
  let here ← hereOf v
  let own ← askStack fun s =>
    ({ cost, progress := s.progressSinceError v, dynamic := (s.top v).dynamic, inError } : Standing)
  for i in [0:← versionCount] do
    if i ≠ v && (← askStack fun s => s.isActive i && (s.here i).byte ≥ here.byte) then
      match own.compare (← standing i) with
      | .takeRight => return true
      | .preferRight => if ← askStack (·.canMerge i v) then return true
      | _ => pure ()
  return false

/-- Shift a token. -/
def shift (v state : Nat) (t : Tree) (extra : Bool) : ParseM Unit := do
  let t := if t.isLeaf then t.setExtra extra else t
  push v (some t) state
  if let some m := t.facts.memory then
    onStack (·.modifyVersion v ({ · with memory := m }))

/-- The tree for one group of slices that end at the same node: of several the best. -/
def chooseChildren (g : Prepared) (production : Nat) (here : Cursor) :
    List (List Tree) → Tree × List Tree
  | [] => (Tree.node g 0 none [] here, [])
  | first :: others =>
    let symbol := (g.productions[production]!).symbol
    let build (ts : List Tree) : Tree × List Tree :=
      let (ts, extras) := splitTrailingExtras ts
      (Tree.node g symbol (some production) ts here, extras)
    others.foldl (fun best ts =>
      let other := build ts
      if prefersSecond best.1 other.1 then other else best) (build first)

/-- Reduce by a production along every path. Gives the first new version. -/
def reduce (v production : Nat) (endOfExtra : Bool) : ParseM (Option Nat) := do
  let g := L.tables.grammar
  let p := g.productions[production]!
  let before ← versionCount
  let halted ← askStack fun s => (s.versions.filter (·.isHalted)).size
  let slices ← onStackGet fun s => let (s, sl) := s.pop v p.steps.size; (sl, s)
  -- slices of one version stand together
  let groups : List (Nat × List (List Tree)) := slices.toList.foldr (fun sl gs =>
    match gs with
    | (w, ts) :: rest => if w = sl.version then (w, sl.trees :: ts) :: rest
      else (sl.version, [sl.trees]) :: gs
    | [] => [(sl.version, [sl.trees])]) []
  let mut removed := 0
  for (w, alternatives) in groups do
    let w := w - removed
    if w > maxVersions + versionOverflow + halted then
      remove w
      removed := removed + 1
    else
      let here ← hereOf w
      let (tree, extras) := chooseChildren g production here alternatives
      let state ← stateOf w
      let next ← onAutomaton (L.tables.goto state p.symbol)
      let f := tree.facts
      let tree := Tree.mk
        { f with
          dynamic := f.dynamic + p.dynamic
          extra := f.extra || (endOfExtra && next = state) } tree.children
      push w (some tree) next
      for e in extras do push w (some e) next
      for j in [0:w] do
        if j ≠ v then
          if ← merge j w then
            removed := removed + 1
            break
  return if (← versionCount) > before then some before else none

/-- The whole text is read: build the root with the extras around it. -/
def accept (v : Nat) (lookahead : Tree) : ParseM Unit := do
  let g := L.tables.grammar
  push v (some lookahead) 1
  let slices ← onStackGet fun s => let (s, sl) := s.popAll v; (sl, s)
  for sl in slices do
    let rev := sl.trees.reverse
    let after := (rev.takeWhile (·.facts.extra)).reverse
    match rev.dropWhile (·.facts.extra) with
    | [] => pure ()
    | t :: before =>
      let root := Tree.node g t.symbol t.facts.production
        (before.reverse ++ t.children ++ after) t.facts.lead
      modify fun s => { s with
        accepted := s.accepted + 1
        finished := match s.finished with
          | some old => if prefersSecond old root then some root else some old
          | none => some root }
  if let some sl := slices[0]? then remove sl.version
  halt v

/-! ## Error recovery -/

/-- Follow every reduction that is possible for a token, or for any token. Says whether some version
can shift it. -/
def reduceAll (starting : Nat) (token : Option Nat) : ParseM Bool := do
  let g := L.tables.grammar
  let initial ← versionCount
  let rec go : Nat → Nat → Nat → Bool → ParseM Bool
    | 0, _, _, shiftable => return shiftable
    | fuel + 1, round, v, shiftable => do
      let count ← versionCount
      if v ≥ count then return shiftable
      for j in [initial:v] do
        if ← merge j v then return ← go fuel (round + 1) v shiftable
      let state ← stateOf v
      let tokens := match token with
        | some t => [t]
        | none => (List.range g.tokenCount).drop 1
      let mut hasShift := false
      let mut reductions : Array Nat := #[]
      for t in tokens do
        for a in ← actionsOf L state t do
          match a with
          | .shift _ repetition => if !repetition then hasShift := true
          | .recover => hasShift := true
          | .reduce p =>
            let same (q : Nat) : Bool :=
              (g.productions[q]!).symbol = (g.productions[p]!).symbol &&
                (g.productions[q]!).steps.size = (g.productions[p]!).steps.size
            if !(g.productions[p]!).steps.isEmpty && !reductions.any same then
              reductions := reductions.push p
          | _ => pure ()
      let mut reduced : Option Nat := none
      for p in reductions do
        reduced ← reduce L v p false
      if !hasShift then
        if let some w := reduced then
          if round < maxVersions then
            onStack (·.renumber w v)
            return ← go fuel (round + 1) v shiftable
        if token.isSome then remove v
      go fuel (round + 1) (if v = starting then count else v + 1) (shiftable || hasShift)
  go 400 0 starting false

/-- Go back to a state below, wrapping the trees above it in an error. -/
def recoverTo (v depth goal : Nat) : ParseM Bool := do
  let g := L.tables.grammar
  let slices ← onStackGet fun s => let (s, sl) := s.pop v depth; (sl, s)
  let mut previous : Option Nat := none
  for sl in slices do
    if some sl.version == previous then continue
    if (← stateOf sl.version) ≠ goal then
      halt sl.version
      continue
    let below ← onStackGet fun s => let (s, ts) := s.popError sl.version; (ts, s)
    let inner := match below with
      | t :: _ => t.children
      | [] => []
    let (trees, extras) := splitTrailingExtras (inner ++ sl.trees)
    if !trees.isEmpty then
      push sl.version (some (Tree.error g trees true (← hereOf sl.version))) goal
    for e in extras do push sl.version (some e) goal
    previous := some sl.version
  return previous.isSome

/-- Continue an error with the given token. -/
def recover (v : Nat) (lookahead : Tree) : ParseM Unit := do
  let g := L.tables.grammar
  let before ← versionCount
  let here ← hereOf v
  let summary ← askStack fun s => ((s.versions[v]!).summary).getD #[]
  onStack (·.settle v)
  let progress ← askStack (·.progressSinceError v)
  let cost ← askStack (·.cost v)
  -- an earlier state in which the token fits
  let mut recovered := false
  if !lookahead.isError then
    for b in summary do
      if b.state = 0 || b.here.byte = here.byte then continue
      let depth := if progress > 0 then b.depth + 1 else b.depth
      if ← askStack fun s => (List.range before).any fun j =>
          s.state j = b.state && (s.here j).byte = here.byte then continue
      let newCost := cost + b.depth * Cost.skippedTree +
        (here.byte - b.here.byte) * Cost.skippedChar + (here.row - b.here.row) * Cost.skippedLine
      if ← betterExists v false newCost then break
      if !(← actionsOf L b.state lookahead.symbol).isEmpty then
        if ← recoverTo L v depth b.state then
          recovered := true
          break
  onStack fun s => { s with
    versions := s.versions.extract 0 before ++
      (s.versions.extract before s.versions.size).filter (·.isActive) }
  if recovered && (← versionCount) > maxVersions then
    halt v
    return
  if lookahead.isEnd then
    push v (some (Tree.error g [] false here)) 1
    accept L v lookahead
    return
  let newCost := cost + Cost.skippedTree + lookahead.totalBytes * Cost.skippedChar +
    (lookahead.facts.stop.row - lookahead.facts.lead.row) * Cost.skippedLine
  if ← betterExists v false newCost then
    halt v
    return
  -- skip the token
  let isExtra := match (← actionsOf L 1 lookahead.symbol).getLast? with
    | some .shiftExtra => true
    | _ => false
  let lookahead := if isExtra then lookahead.setExtra true else lookahead
  let run := Tree.node g errorRunSymbol none [lookahead] here
  if progress > 0 then
    let slices ← onStackGet fun s => let (s, sl) := s.pop v 1; (sl, s)
    match slices[0]? with
    | some sl =>
      onStack fun s => { s with versions := s.versions.extract 0 (sl.version + 1) }
      onStack (·.renumber sl.version v)
      push v (some (Tree.node g errorRunSymbol none (sl.trees ++ [run]) here)) 0
    | none => push v (some run) 0
  else push v (some run) 0
  if let some m := lookahead.facts.memory then
    onStack (·.modifyVersion v ({ · with memory := m }))

/-- A token that fits no action of a version. -/
def handleError (v : Nat) (lookahead : Tree) : ParseM Unit := do
  let g := L.tables.grammar
  let before ← versionCount
  discard <| reduceAll L v none
  let count ← versionCount
  let here ← hereOf v
  let mut inserted := false
  for w in v :: (List.range count).drop before do
    if !inserted then
      let state ← stateOf w
      for token in (List.range g.tokenCount).drop 1 do
        if inserted then break
        let next ← onAutomaton (L.tables.after state token)
        if next = 0 || next = state then continue
        match ← actionsOf L next lookahead.symbol with
        | .reduce _ :: _ =>
          let m ← versionCount
          onStack (·.copy w)
          push m (some (Tree.missingLeaf g token here)) next
          let token := if lookahead.isEnd then none else some lookahead.symbol
          if ← reduceAll L m token then inserted := true
        | _ => pure ()
    push w none 0
  for _ in [before:count] do
    discard <| merge v before
  onStack (·.recordSummary v maxSummaryDepth)
  recover L v lookahead

/-! ## The main loop -/

/-- Read a keyword as the plain word that it also is. -/
def asWord (g : Prepared) (t : Tree) : Option Tree :=
  match g.word with
  | some w =>
    if t.facts.keyword && t.symbol ≠ w then
      let plain := Tree.leaf g w t.facts.lead t.facts.start t.facts.stop true
      some plain
    else none
  | none => none

/-- Carry out the actions for a token: `true` when the version has shifted, accepted or
recovered. -/
def perform (v : Nat) (lookahead : Option Tree) (extraEnds : Bool) :
    List Action → Bool → Option Nat → ParseM (Bool × Bool × Option Nat)
  | [], reduced, last => return (false, reduced, last)
  | a :: rest, reduced, last => do
    match a, lookahead with
    | .shift _ true, _ => perform v lookahead extraEnds rest reduced last
    | .shift s false, some t => shift v s t false; return (true, reduced, last)
    | .shiftExtra, some t => shift v (← stateOf v) t true; return (true, reduced, last)
    | .reduce p, _ =>
      let r ← reduce L v p extraEnds
      perform v lookahead extraEnds rest true (r.or last)
    | .accept, some t => accept L v t; return (true, reduced, last)
    | .recover, some t => recover L v t; return (true, reduced, last)
    | _, none => perform v lookahead extraEnds rest reduced last

/-- Advance one version by one token. -/
def advance (v : Nat) : ParseM Unit := do
  let g := L.tables.grammar
  let rec go : Nat → Option Tree → Bool → ParseM Unit
    | 0, _, _ => halt v
    | fuel + 1, lookahead, needsLex => do
      let state ← stateOf v
      let lookahead ← if needsLex then lex L v state else pure lookahead
      let token := match lookahead with
        | some t => t.symbol
        | none => g.endOfExtra
      let as ← actionsOf L state token
      let (finished, reduced, last) ← perform L v lookahead lookahead.isNone as false none
      if finished then return
      match last with
      | some w =>
        onStack (·.renumber w v)
        go fuel lookahead lookahead.isNone
      | none =>
        if reduced then halt v
        else match lookahead with
          | none => halt v
          | some t =>
            let word := asWord g t
            let usable ← match word with
              | some w => pure (!(← actionsOf L state w.symbol).isEmpty)
              | none => pure false
            if usable then go fuel word false
            else
              let p ← askStack fun s => (s.top v).progress
              onStack (·.modifyVersion v fun h =>
              { h with status := .paused t, progressAtError := p })
  go 10000 none true

/-- Remove halted versions, compare the others pairwise, and let the best waiting version recover.
Gives the least cost of a version that is not in an error. -/
def condense : ParseM Nat := do
  let rec pairs (b : Standing) : Nat → Nat → Nat → ParseM Nat
    | 0, i, _ => return i
    | fuel + 1, i, j => do
      -- compares version `i` with `j < i`; gives the place from which to go on
      if j ≥ i then return i + 1
      let a ← standing j
      match a.compare b with
      | .takeLeft => remove i; return i
      | .preferLeft | .none => if ← merge j i then return i else pairs b fuel i (j + 1)
      | .preferRight =>
        if ← merge j i then return i
        else
          onStack (·.swap i j)
          pairs b fuel i (j + 1)
      | .takeRight => remove j; pairs b fuel (i - 1) j
  let rec sweep : Nat → Nat → Option Nat → ParseM (Option Nat)
    | 0, _, least => return least
    | fuel + 1, i, least => do
      if i ≥ (← versionCount) then return least
      if ← askStack fun s => (s.versions[i]!).isHalted then
        remove i
        sweep fuel i least
      else
        let st ← standing i
        let least := if st.inError then least else some (min st.cost (least.getD st.cost))
        sweep fuel (← pairs st 200 i 0) least
  let least ← sweep 1000 0 none
  onStack fun s => { s with versions := s.versions.extract 0 maxVersions }
  -- waiting versions
  let mut least := least
  let mut running := false
  let mut i := 0
  for _ in [0:← versionCount] do
    if ← askStack (·.isPaused i) then
      if !running && (← get).accepted < maxVersions then
        least := some (← askStack (·.cost i))
        let t ← askStack fun s => (s.versions[i]!).status
        if let .paused lookahead := t then
          onStack fun s => s.modifyVersion i ({ · with
            status := .active })
          handleError L i lookahead
        running := true
        i := i + 1
      else remove i
    else
      running := true
      i := i + 1
  return least.getD 1000000000

/-- Advance every version until it has read some text. -/
def advanceAll : Nat → Nat → Nat → ParseM Nat
  | 0, _, last => return last
  | fuel + 1, v, last => do
    if v ≥ (← versionCount) then return last
    let rec go : Nat → Nat → ParseM Nat
      | 0, last => return last
      | fuel + 1, last => do
        if !(← askStack (·.isActive v)) then return last
        advance L v
        let p := (← hereOf v).byte
        if p > last || (v > 0 && p = last) then return p
        go fuel last
    let last ← go 100000 last
    advanceAll fuel (v + 1) last

def parseRounds : Nat → Nat → ParseM Unit
  | 0, _ => return
  | fuel + 1, last => do
    let last ← advanceAll L 1000 0 last
    let least ← condense L
    if let some t := (← get).finished then
      if t.cost < least then return
    if (← versionCount) = 0 then return
    parseRounds fuel last

/-- Parse a whole text. -/
def parse (text : String) : Tree :=
  let chars := text.toList
  let start : Session := { automaton := L.start, stack := .start 1 { rest := chars } }
  let (_, s) := (parseRounds L (16 * chars.length + 1000) 0).run start
  s.finished.getD (Tree.error L.tables.grammar [] false { rest := chars })

end CodeIndex.Parsing
