import CodeIndex.Grammar.Productions

/-!
# The LR(1) automaton of a grammar

The states of the canonical LR(1) automaton are made when a parse first reaches them and kept in an
`Automaton`, which is threaded through the parse. A state is its kernel: items with their sets of
lookahead tokens. What the closure adds is found from tables of the grammar alone: which
nonterminals a nonterminal can begin with, and with which lookaheads.

Where the automaton has a conflict, precedence and associativity decide; what they leave open stays
a list of several actions, all of which the parser follows.
-/

namespace CodeIndex.Grammar

open Std (HashMap)

/-- A set of tokens: token `t` is in it when bit `t` is set. -/
abbrev TokenSet := Nat

namespace TokenSet

def single (t : Nat) : TokenSet := 1 <<< t

def has (s : TokenSet) (t : Nat) : Bool := s.testBit t

end TokenSet

/-- What an item has read and what it still expects: items with equal views behave alike. -/
structure ItemView where
  symbol : Nat
  dynamic : Int
  precedence : Precedence
  assoc : Option Assoc
  read : List (Option Alias × Option String)
  expected : List Step
  deriving DecidableEq, Hashable

/-- An edge from a nonterminal to one that it can begin with. -/
structure Opening where
  symbol : Nat
  /-- Tokens that can follow inside the production. -/
  lookahead : TokenSet
  /-- What follows the outer nonterminal can follow this one too. -/
  inherits : Bool
  deriving Inhabited

/-- The tables that the automaton is computed from. An item is a production with a position in
it. -/
structure Tables where
  grammar : Prepared
  /-- The item at the start of each production. -/
  base : Array Nat
  /-- The production of each item. -/
  production : Array Nat
  position : Array Nat
  /-- The least item with the same view. -/
  canonical : Array Nat
  /-- The tokens that a symbol can begin with. -/
  first : Array TokenSet
  openings : Array (Array Opening)
  /-- For each nonterminal, the productions that begin with a given symbol. -/
  beginning : Array (HashMap Nat (List Nat))
  /-- The production that the whole text is parsed by. -/
  root : Nat
  deriving Inhabited

namespace Prepared

/-- The mark that follows an extra: it ends a nonterminal that may stand anywhere. -/
def endOfExtra (g : Prepared) : Nat := g.tokenCount

/-- The tokens that each symbol can begin with, by rounds until nothing is added. -/
def firstSets (g : Prepared) (productions : Array Production) : Array TokenSet :=
  let start : Array TokenSet := (Array.range (g.symbols.size + 1)).map fun s =>
    if s < g.tokenCount then TokenSet.single s else 0
  let round (sets : Array TokenSet) : Array TokenSet :=
    productions.foldl (fun sets p =>
      match p.steps[0]? with
      | some s => sets.set! p.symbol (sets[p.symbol]! ||| sets[s.symbol]!)
      | none => sets) sets
  let rec go : Nat → Array TokenSet → Array TokenSet
    | 0, sets => sets
    | n + 1, sets => let sets' := round sets; if sets' = sets then sets else go n sets'
  go g.symbols.size start

def tables (g : Prepared) : Tables := Id.run do
  let productions := g.productions.push
    ⟨g.symbols.size, #[⟨g.start, .none, none, none, none⟩], 0⟩
  let g := { g with productions }
  let mut base : Array Nat := #[]
  let mut production : Array Nat := #[]
  let mut position : Array Nat := #[]
  let mut canonical : Array Nat := #[]
  let mut seen : HashMap ItemView Nat := {}
  for (p, i) in productions.zipIdx do
    base := base.push production.size
    for d in [0:p.steps.size + 1] do
      let before := p.steps[d - 1]?
      let view : ItemView :=
        { symbol := p.symbol
          dynamic := p.dynamic
          precedence := if d = 0 then .none else (before.map (·.precedence)).getD .none
          assoc := if d = 0 then none else before.bind (·.assoc)
          read := (p.steps.toList.take d).map fun s => (s.renamed, s.field)
          expected := p.steps.toList.drop d }
      match seen[view]? with
      | some k => canonical := canonical.push k
      | none =>
        canonical := canonical.push production.size
        seen := seen.insert view production.size
      production := production.push i
      position := position.push d
  let first := g.firstSets productions
  let n := g.symbols.size + 1
  let mut openings : Array (Array Opening) := Array.replicate n #[]
  let mut beginning : Array (HashMap Nat (List Nat)) := Array.replicate n {}
  for (p, i) in productions.zipIdx.toList.reverse do
    if let some s := p.steps[0]? then
      beginning := beginning.modify p.symbol fun m => m.insert s.symbol (i :: m.getD s.symbol [])
      if s.symbol ≥ g.tokenCount then
        let e : Opening := match p.steps[1]? with
          | some r => ⟨s.symbol, first[r.symbol]!, false⟩
          | none => ⟨s.symbol, 0, true⟩
        openings := openings.modify p.symbol fun es =>
          match es.findIdx? (·.symbol == s.symbol) with
          | some k => es.modify k fun o =>
              ⟨o.symbol, o.lookahead ||| e.lookahead, o.inherits || e.inherits⟩
          | none => es.push e
  return { grammar := g, base, production, position, canonical, first, openings, beginning
           root := productions.size - 1 }

end Prepared

/-! ## States -/

/-- A state of the automaton. -/
structure State where
  /-- Items after at least one step, with their lookaheads, in order. -/
  kernel : Array (Nat × TokenSet)
  /-- The nonterminals that can begin here, with what can follow them. -/
  begun : Array (Nat × TokenSet)
  /-- The productions that are complete here. -/
  complete : Array (Nat × TokenSet)
  /-- The tokens for which there is an action. -/
  valid : TokenSet
  /-- The tokens that the lexer looks for: a keyword counts as the word token. -/
  wanted : Array Nat
  /-- Whatever comes next, the tree that led here is handed on as this symbol. -/
  handsOnAs : Option Nat := none
  deriving Inhabited

inductive Action where
  | shift (state : Nat) (repetition : Bool)
  | shiftExtra
  | reduce (production : Nat)
  | accept
  | recover
  deriving DecidableEq, Repr, Inhabited

/-- The states made so far. State `0` is the state of an error, state `1` the first. -/
structure Automaton where
  states : Array State := #[]
  index : HashMap (Array (Nat × TokenSet)) Nat := {}
  moves : HashMap Nat Nat := {}
  actions : HashMap Nat (List Action) := {}
  /-- The openings of a nonterminal, of what it opens with, and so on. -/
  reach : HashMap Nat (Array Opening) := {}
  /-- The states after the first token of an extra. -/
  extraStarts : List (Nat × Nat) := []
  deriving Inhabited

namespace Tables

variable (t : Tables)

/-- The step after an item's position. -/
def next (item : Nat) : Option Step :=
  (t.grammar.productions[t.production[item]!]!).steps[t.position[item]!]?

def symbolOf (item : Nat) : Nat := (t.grammar.productions[t.production[item]!]!).symbol

/-- The step before an item's position. -/
def previous (item : Nat) : Option Step :=
  let d := t.position[item]!
  if d = 0 then none else (t.grammar.productions[t.production[item]!]!).steps[d - 1]?

/-- Add one opening to those found. -/
def addOpening (found : Array Opening) (o : Opening) : Array Opening × Bool :=
  match found.findIdx? (·.symbol == o.symbol) with
  | none => (found.push o, true)
  | some k =>
    let old := found[k]!
    let new : Opening := ⟨o.symbol, old.lookahead ||| o.lookahead, old.inherits || o.inherits⟩
    if new.lookahead = old.lookahead && new.inherits == old.inherits then (found, false)
    else (found.set! k new, true)

/-- Follow openings from a worklist until nothing is added. -/
def reachFrom : Nat → List Nat → Array Opening → Array Opening
  | 0, _, found => found
  | _, [], found => found
  | fuel + 1, s :: work, found =>
    match found.find? (·.symbol == s) with
    | none => reachFrom fuel work found
    | some o =>
      let (found, added) := (t.openings[s]!).foldl (fun (found, added) e =>
        let e' : Opening :=
          ⟨e.symbol, e.lookahead ||| (if e.inherits then o.lookahead else 0),
            e.inherits && o.inherits⟩
        let (found, changed) := addOpening found e'
        (found, if changed then e.symbol :: added else added)) (found, [])
      reachFrom fuel (work ++ added.filter fun a => !work.contains a) found

/-- Everything that a nonterminal can begin with, itself included. -/
def reachOf (symbol : Nat) : StateM Automaton (Array Opening) := do
  match (← get).reach[symbol]? with
  | some r => return r
  | none =>
    let r := t.reachFrom (50 * t.openings.size + 100) [symbol] #[⟨symbol, 0, true⟩]
    modify fun a => { a with reach := a.reach.insert symbol r }
    return r

/-- The nonterminals that can begin where a kernel stands. -/
def closure (kernel : Array (Nat × TokenSet)) : StateM Automaton (Array (Nat × TokenSet)) := do
  let mut sets : HashMap Nat TokenSet := {}
  for (item, la) in kernel do
    if let some s := t.next item then
      if s.symbol ≥ t.grammar.tokenCount then
        let d := t.position[item]!
        let follow := match (t.grammar.productions[t.production[item]!]!).steps[d + 1]? with
          | some r => t.first[r.symbol]!
          | none => la
        for o in ← t.reachOf s.symbol do
          let add := o.lookahead ||| (if o.inherits then follow else 0)
          sets := sets.insert o.symbol (sets.getD o.symbol 0 ||| add)
  return sets.toArray

/-- Tokens that may stand anywhere, or begin something that may. -/
def extraTokens (a : Automaton) : TokenSet :=
  let plain := (t.grammar.extras.filter (· < t.grammar.tokenCount)).foldl
    (fun s e => s ||| TokenSet.single e) 0
  a.extraStarts.foldl (fun s e => s ||| TokenSet.single e.1) plain

/-- The tokens that the lexer looks for when those of `valid` are possible. -/
def wanted (valid : TokenSet) : Array Nat := Id.run do
  let mut out : Array Nat := #[]
  let mut word := false
  for k in [0:t.grammar.tokenCount] do
    if valid.has k then
      if let some (some tok) := t.grammar.tokens[k]? then
        let isKeyword := match (t.grammar.symbols[k]!).name with
          | n => t.grammar.keywords[n]? == some k
        let _ := tok
        if isKeyword || some k == t.grammar.word then word := true else out := out.push k
  if word then
    if let some w := t.grammar.word then out := out.push w
  return out

/-- The symbol that every item of a kernel hands a single tree on as. -/
def handsOn (kernel : Array (Nat × TokenSet)) : Option Nat :=
  let symbols := kernel.toList.map fun (item, _) =>
    let p := t.production[item]!
    if t.position[item]! = 1 && (t.grammar.transparent[p]?).getD false then
      some (t.symbolOf item)
    else none
  match symbols with
  | some s :: rest => if rest.all (· == some s) then some s else none
  | _ => none

/-- The state with the given kernel. -/
def stateOf (kernel : Array (Nat × TokenSet)) : StateM Automaton Nat := do
  match (← get).index[kernel]? with
  | some i => return i
  | none =>
    let begun ← t.closure kernel
    let done := kernel.filterMap fun (item, la) =>
      if (t.next item).isNone then some (t.production[item]!, la) else none
    let empty := begun.flatMap fun (s, la) =>
      if s < t.grammar.symbols.size then
        (t.grammar.ofSymbol[s]!.filter fun p => (t.grammar.productions[p]!).steps.isEmpty).map
          fun p => (p, la)
      else #[]
    let complete := done ++ empty
    let shifts := kernel.foldl (fun v (item, _) =>
      match t.next item with
      | some s => v ||| t.first[s.symbol]!
      | none => v) 0
    let reduces := complete.foldl (fun v (_, la) => v ||| la) 0
    let own := shifts ||| reduces
    let extras := t.extraTokens (← get)
    let valid := if own.has t.grammar.endOfExtra then own else own ||| extras
    let handsOnAs := if (← get).extraStarts.isEmpty then t.handsOn kernel else none
    let s : State := { kernel, begun, complete, valid, wanted := t.wanted valid, handsOnAs }
    modifyGet fun a =>
      (a.states.size,
        { a with states := a.states.push s, index := a.index.insert kernel a.states.size })

/-- The moves out of a state and its actions are remembered under one number for both. -/
def key (state symbol : Nat) : Nat := state * (t.grammar.symbols.size + 2) + symbol

/-- Sort items and join the lookaheads of equal ones. -/
def normalise (items : Array (Nat × TokenSet)) : Array (Nat × TokenSet) :=
  let sorted := items.qsort fun a b => a.1 < b.1
  sorted.foldl (fun out (i, la) =>
    match out.back? with
    | some (j, lb) => if i = j then out.pop.push (i, la ||| lb) else out.push (i, la)
    | none => out.push (i, la)) #[]

/-- The state after reading a symbol; `0` when there is none. Where a tree would only be handed on,
it is read as what it is handed on as. -/
def moveWithin : Nat → Nat → Nat → StateM Automaton Nat
  | 0, _, _ => pure 0
  | fuel + 1, state, symbol => do
    let k := t.key state symbol
    match (← get).moves[k]? with
    | some s => return s
    | none =>
      let st := (← get).states[state]!
      let fromKernel := st.kernel.filterMap fun (item, la) =>
        match t.next item with
        | some s => if s.symbol = symbol then some (t.canonical[item + 1]!, la) else none
        | none => none
      let fromClosure := st.begun.flatMap fun (b, la) =>
        ((t.beginning[b]!).getD symbol []).toArray.map fun p =>
          (t.canonical[t.base[p]! + 1]!, la)
      let items := normalise (fromKernel ++ fromClosure)
      let target ← if items.isEmpty then pure 0 else t.stateOf items
      let s ← match ((← get).states[target]!).handsOnAs with
        | some a => moveWithin fuel state a
        | none => pure target
      modify fun a => { a with moves := a.moves.insert k s }
      return s

def move (state symbol : Nat) : StateM Automaton Nat :=
  t.moveWithin (t.grammar.symbols.size + 1) state symbol

/-! ## Conflicts -/

/-- `e` ranks the precedence `p` of one of the rules `rules`. -/
def ranks (e : Ranked) (p : Precedence) (rules : List Nat) : Bool :=
  match e with
  | .name n => p == .name n
  | .rule n => rules.any fun r => t.grammar.ruleNames[r]? == some n

/-- Compare by the first ordering that ranks both. -/
def compareRanked (p : Precedence) (ps : List Nat) (q : Precedence) (qs : List Nat) : Ordering :=
  let inList (l : List Ranked) : Option Ordering :=
    let rec go : List Ranked → Bool → Bool → Option Ordering
      | [], _, _ => none
      | e :: es, sawP, sawQ =>
        if t.ranks e p ps then if sawQ then some .lt else go es true sawQ
        else if t.ranks e q qs then if sawP then some .gt else go es sawP true
        else go es sawP sawQ
    go l false false
  (t.grammar.orderings.findSome? inList).getD .eq

/-- Which of two precedences binds tighter. -/
def comparePrecedence (p : Precedence) (ps : List Nat) (q : Precedence) (qs : List Nat) :
    Ordering :=
  match p, q with
  | .number a, .number b => if a ≠ 0 ∨ b ≠ 0 then compare a b else t.compareRanked p ps q qs
  | .number a, .none => if a ≠ 0 then compare a 0 else t.compareRanked p ps q qs
  | .none, .number b => if b ≠ 0 then compare 0 b else t.compareRanked p ps q qs
  | _, _ => t.compareRanked p ps q qs

/-- The reductions that are kept for one token, with what decides against a shift. -/
structure Reductions where
  productions : List Nat := []
  precedence : Precedence := .none
  symbols : List Nat := []
  left : Bool := false
  right : Bool := false
  neither : Bool := false

/-- Of two reductions the one with the higher precedence is kept, of equals both. -/
def Reductions.add (rs : Reductions) (production : Nat) : Reductions :=
  let p := t.grammar.productions[production]!
  let last := p.steps.back?
  let precedence := (last.map (·.precedence)).getD .none
  let assoc := last.bind (·.assoc)
  let note (rs : Reductions) : Reductions :=
    { rs with
      precedence
      symbols := if rs.symbols.contains p.symbol then rs.symbols else rs.symbols ++ [p.symbol]
      left := rs.left || assoc == some .left
      right := rs.right || assoc == some .right
      neither := rs.neither || assoc == none }
  if rs.productions.isEmpty then note { productions := [production] } else
    match t.comparePrecedence precedence [p.symbol] rs.precedence rs.symbols with
    | .gt => note { productions := [production] }
    | .eq => note { rs with productions := rs.productions ++ [production] }
    | .lt => rs

/-- Order complete productions: shorter first, then by symbol. -/
def completeBefore (p q : Nat × TokenSet) : Bool :=
  let a := t.grammar.productions[p.1]!
  let b := t.grammar.productions[q.1]!
  if a.steps.size ≠ b.steps.size then a.steps.size < b.steps.size
  else if a.symbol ≠ b.symbol then a.symbol < b.symbol
  else a.dynamic < b.dynamic

/-- All the symbols are one and the same repetition. -/
def areOneRepetition (symbols : Array Nat) : Bool :=
  match symbols[0]? with
  | some s => (t.grammar.auxiliary[s]?).getD false && symbols.all (· == s)
  | none => false

/-- The actions where a token could be shifted as well as used for a reduction. -/
def resolve (st : State) (token target : Nat) (rs : Reductions) : List Action :=
  let reduces := rs.productions.map Action.reduce
  let shifting := st.kernel.filter fun (item, _) =>
    match t.next item with
    | some s => (t.first[s.symbol]!).has token
    | none => false
  let parties := (shifting.map fun (item, _) => t.symbolOf item) ++
    (st.complete.filter fun (_, la) => la.has token).map fun (p, _) =>
      (t.grammar.productions[p]!).symbol
  if t.areOneRepetition parties then reduces ++ [.shift target true] else
    let orders := shifting.map fun (item, _) =>
      let before := ((t.previous item).map fun s : Step => s.precedence).getD .none
      t.comparePrecedence before [t.symbolOf item] rs.precedence rs.symbols
    let more := orders.contains .gt
    let less := orders.contains .lt
    if more && !less then [.shift target false]
    else if less && !more then reduces
    else if !more && !less && rs.left && !rs.right && !rs.neither then reduces
    else if !more && !less && rs.right && !rs.left && !rs.neither then [.shift target false]
    else reduces ++ [.shift target false]

/-- The actions of a state for a token, the reductions first. -/
def actions (state token : Nat) : StateM Automaton (List Action) := do
  let k := t.key state token
  match (← get).actions[k]? with
  | some as => return as
  | none =>
    let a ← get
    let st := a.states[state]!
    let extra : List Action :=
      if st.valid.has t.grammar.endOfExtra then []
      else match a.extraStarts.find? (·.1 == token) with
        | some (_, s) => [.shift s false]
        | none => if t.grammar.extras.contains token then [.shiftExtra] else []
    let as ← if state = 0 then
        pure (if token = 0 then [.recover] else if !extra.isEmpty then extra
          else if st.valid.has token then [.recover] else [])
      else do
        let target ← if token < t.grammar.tokenCount then t.move state token else pure 0
        let complete := (st.complete.filter fun (_, la) => la.has token).qsort t.completeBefore
        if complete.any fun (p, _) => p = t.root then pure [.accept] else
          let rs := complete.foldl (fun rs (p, _) => Reductions.add t rs p) {}
          if rs.productions.isEmpty then
            pure (if target = 0 then extra else [.shift target false])
          else if target = 0 then pure (rs.productions.map .reduce)
          else pure (t.resolve st token target rs)
    modify fun a => { a with actions := a.actions.insert k as }
    return as

/-- The state after an action: where a token's last action leads, `0` when nowhere. -/
def after (state token : Nat) : StateM Automaton Nat := do
  match (← t.actions state token).getLast? with
  | some (.shift s _) => return s
  | some .shiftExtra => return state
  | _ => return 0

/-- The state after a nonterminal. An extra changes nothing. -/
def goto (state symbol : Nat) : StateM Automaton Nat :=
  if t.grammar.extras.contains symbol then pure state else t.move state symbol

/-- The automaton before any parsing: the error state, the first state and the states of extras. -/
def initial : Automaton :=
  let go : StateM Automaton Unit := do
    let g := t.grammar
    -- extras are numbered after the first state, but tokens of every state depend on them
    let extraItems := g.extras.filter (· ≥ g.tokenCount) |>.flatMap fun s =>
      g.ofSymbol[s]!.toList.filterMap fun p =>
        ((g.productions[p]!).steps[0]?).map fun s =>
          (s.symbol, (t.canonical[t.base[p]! + 1]!, TokenSet.single g.endOfExtra))
    let starts := (extraItems.map (·.1)).eraseDups
    modify fun a => { a with extraStarts := starts.zipIdx.map fun (s, i) => (s, i + 2) }
    let all := (List.range g.tokenCount).foldl (fun v k =>
      if g.freeText.contains k then v else v ||| TokenSet.single k) 0
    let error : State :=
      { kernel := #[], begun := #[], complete := #[], valid := all, wanted := t.wanted all }
    modify fun a => { a with states := #[error] }
    discard <| t.stateOf #[(t.canonical[t.base[t.root]!]!, TokenSet.single 0)]
    for s in starts do
      let items := (extraItems.filter (·.1 == s)).map (·.2)
      discard <| t.stateOf (normalise items.toArray)
  (go.run {}).2

end Tables

end CodeIndex.Grammar
