import CodeIndex.Grammar.Rule
import Std.Data.HashMap
import Std.Data.HashSet

/-!
# From rules to productions

A definition is brought into the form that parsing works on: a numbered alphabet and plain
productions.

- Literals, patterns and `token` rules become the tokens; a rule that is nothing but one token which
  occurs nowhere else *is* that token.
- A repetition becomes an auxiliary nonterminal with the productions `R → R R` and `R → x`; equal
  repetitions share one.
- A choice multiplies productions. Each step of a production carries the annotations around it.
- Inlined nonterminals are substituted.

Symbols are numbered: `0` is the end of the text, then the word token, the other tokens in order of
first appearance, the tokens of the hand-written scanner, the nonterminals in the order of their
rules, and last the auxiliary nonterminals.
-/

namespace CodeIndex.Grammar

open Std (HashMap)

/-! ## Rules over symbols -/

/-- A symbol before the alphabet is numbered. -/
inductive Sym where
  | token (i : Nat)
  | external (i : Nat)
  | rule (i : Nat)
  deriving DecidableEq, Hashable, Repr

/-- The annotations that stand around a part of a rule. -/
structure Marks where
  precedence : Precedence := .none
  assoc : Option Assoc := none
  dynamic : Int := 0
  renamed : Option Alias := none
  field : Option String := none
  deriving DecidableEq, Hashable, Repr

/-- The annotations of `m`, and those of `other` where `m` has none. -/
def Marks.orElse (m other : Marks) : Marks where
  precedence := if m.precedence = .none then other.precedence else m.precedence
  assoc := m.assoc.or other.assoc
  dynamic := if m.dynamic = 0 then other.dynamic else m.dynamic
  renamed := m.renamed.or other.renamed
  field := m.field.or other.field

/-- The right-hand side of a rule over symbols. -/
inductive Expr where
  | blank
  | sym (s : Sym)
  | seq (a b : Expr)
  | choice (a b : Expr)
  | repeat1 (a : Expr)
  | marked (m : Marks) (a : Expr)
  deriving DecidableEq, Hashable, Repr, Inhabited

/-- Annotations written directly around others replace those of the same sort. -/
def Expr.mark (m : Marks) : Expr → Expr
  | marked m' a => marked (m.orElse m') a
  | a => marked m a

/-! ## Tokens -/

/-- The tokens met so far, with the number of places each is used at. -/
structure Tokens where
  rules : Array Rule := #[]
  uses : Array Nat := #[]
  index : HashMap Rule Nat := {}

def Tokens.add (ts : Tokens) (r : Rule) : Nat × Tokens :=
  match ts.index[r]? with
  | some i => (i, { ts with uses := ts.uses.modify i (· + 1) })
  | none =>
    (ts.rules.size, ⟨ts.rules.push r, ts.uses.push 1, ts.index.insert r ts.rules.size⟩)

/-- Replace names by symbols and collect the tokens, from left to right. -/
def Rule.intern (names : HashMap String Sym) : Rule → StateM Tokens Expr
  | blank => pure .blank
  | ref name =>
    pure <| match names[name]? with
      | some s => .sym s
      | none => .blank
  | literal s => do return .sym (.token (← modifyGet (·.add (literal s))))
  | pattern p => do return .sym (.token (← modifyGet (·.add (pattern p))))
  | token a => do return .sym (.token (← modifyGet (·.add a)))
  | immediate a => do return .sym (.token (← modifyGet (·.add (immediate a))))
  | seq a b => do
    let x ← a.intern names
    let y ← b.intern names
    return .seq x y
  | choice a b => do
    let x ← a.intern names
    let y ← b.intern names
    return .choice x y
  | repeat1 a => do return .repeat1 (← a.intern names)
  | prec p assoc a => do return (← a.intern names).mark { precedence := p, assoc }
  | dynamic n a => do return (← a.intern names).mark { dynamic := n }
  | field f a => do return (← a.intern names).mark { field := some f }
  | renamed shown a => do return (← a.intern names).mark { renamed := some shown }

/-! ## Repetitions -/

/-- The auxiliary nonterminals made so far: `base` is the number of the first. -/
structure Repeats where
  base : Nat
  names : Array String := #[]
  bodies : Array Expr := #[]
  index : HashMap Expr Nat := {}

/-- Replace each repetition by its auxiliary nonterminal, inner ones first. -/
def Expr.expandRepeats (owner : String) : Expr → StateM Repeats Expr
  | seq a b => do
    let x ← a.expandRepeats owner
    let y ← b.expandRepeats owner
    return .seq x y
  | choice a b => do
    let x ← a.expandRepeats owner
    let y ← b.expandRepeats owner
    return .choice x y
  | marked m a => do return .marked m (← a.expandRepeats owner)
  | repeat1 a => do
    let x ← a.expandRepeats owner
    let st ← get
    match st.index[x]? with
    | some i => return .sym (.rule i)
    | none =>
      let i := st.base + st.bodies.size
      let self : Expr := .sym (.rule i)
      set { st with
        names := st.names.push owner
        bodies := st.bodies.push (.choice (.seq self self) x)
        index := st.index.insert x i }
      return self
  | e => pure e

/-- A hidden rule that is one repetition becomes that repetition's nonterminal itself. -/
def Expr.expandRule (i : Nat) (name : String) : Expr → StateM Repeats (Expr × Bool)
  | repeat1 a => do
    if name.startsWith "_" then
      let x ← a.expandRepeats name
      let self : Expr := .sym (.rule i)
      return (.choice (.seq self self) x, true)
    else return (← (Expr.repeat1 a).expandRepeats name, false)
  | e => do return (← e.expandRepeats name, false)

/-! ## Productions -/

/-- One symbol of a production with the annotations in force there. -/
structure StepOf (σ : Type) where
  symbol : σ
  precedence : Precedence
  assoc : Option Assoc
  renamed : Option Alias
  field : Option String
  deriving DecidableEq, Hashable, Repr

/-- A production: its steps, and the dynamic precedence of the trees that it builds. -/
structure BodyOf (σ : Type) where
  steps : List (StepOf σ)
  dynamic : Int
  deriving DecidableEq, Hashable, Repr

/-- The choice-free forms of a rule, in order. -/
def Expr.choices : Expr → List Expr
  | choice a b => a.choices ++ b.choices
  | seq a b => a.choices.flatMap fun x => b.choices.map (.seq x)
  | marked m a => a.choices.map (.marked m)
  | e => [e]

/-- The dynamic precedence of a choice-free rule: the one of largest size, the outermost of
equals. -/
def Expr.dynamic : Expr → Int
  | seq a b => if b.dynamic.natAbs > a.dynamic.natAbs then b.dynamic else a.dynamic
  | marked m a => if a.dynamic.natAbs > m.dynamic.natAbs then a.dynamic else m.dynamic
  | _ => 0

/-- Put back the precedence and associativity that held before the marks `m`. -/
def StepOf.leave {σ : Type} (m before : Marks) (s : StepOf σ) : StepOf σ :=
  { s with
    precedence := if m.precedence = .none then s.precedence else before.precedence
    assoc := if m.assoc.isSome then before.assoc else s.assoc }

/-- The steps of a choice-free rule under the annotations `inherited`. Where an annotated part is
not at the end of its rule, its last step binds as the surroundings do. -/
def Expr.steps (inherited : Marks) (atEnd : Bool) : Expr → List (StepOf Sym)
  | sym s =>
    [⟨s, inherited.precedence, inherited.assoc, inherited.renamed, inherited.field⟩]
  | seq a b => a.steps inherited false ++ b.steps inherited atEnd
  | marked m a =>
    let inner := a.steps (m.orElse inherited) atEnd
    if atEnd then inner else
      match inner.getLast? with
      | some last => inner.dropLast ++ [last.leave m inherited]
      | none => inner
  | _ => []

/-- The elements of a list without those that stand before already. -/
def distinct {α : Type} [BEq α] [Hashable α] (xs : List α) : List α :=
  (xs.foldl (fun ((seen, out) : Std.HashSet α × List α) x =>
    if seen.contains x then (seen, out) else (seen.insert x, x :: out)) ({}, [])).2.reverse

/-- The productions of a rule, each once. -/
def Expr.bodies (e : Expr) : List (BodyOf Sym) :=
  distinct (e.choices.map fun x => ⟨x.steps {} true, x.dynamic⟩)

/-! ## Inlining -/

/-- Put the steps of `inner` in the place of the step `hole`. -/
def BodyOf.substitute {σ : Type} (before : List (StepOf σ)) (hole : StepOf σ)
    (after : List (StepOf σ)) (dynamic : Int) (inner : BodyOf σ) : BodyOf σ :=
  let mark (s : StepOf σ) : StepOf σ :=
    { s with renamed := hole.renamed.or s.renamed, field := hole.field.or s.field }
  let bind (s : StepOf σ) : StepOf σ :=
    { s with
      precedence := if s.precedence = .none then hole.precedence else s.precedence
      assoc := s.assoc.or hole.assoc }
  let inserted := inner.steps.map mark
  let inserted := match inserted.getLast? with
    | some last => inserted.dropLast ++ [bind last]
    | none => inserted
  ⟨before ++ inserted ++ after,
    if inner.dynamic.natAbs > dynamic.natAbs then inner.dynamic else dynamic⟩

/-- Substitute inlined symbols until none is left, at most `fuel` deep. -/
def BodyOf.inline {σ : Type} (bodies : σ → Option (List (BodyOf σ))) :
    Nat → BodyOf σ → List (BodyOf σ)
  | 0, b => [b]
  | fuel + 1, b =>
    match b.steps.span fun s => (bodies s.symbol).isNone with
    | (_, []) => [b]
    | (before, hole :: after) =>
      ((bodies hole.symbol).getD []).flatMap fun inner =>
        (BodyOf.substitute before hole after b.dynamic inner).inline bodies fuel

/-! ## The prepared grammar -/

abbrev Step := StepOf Nat

structure Production where
  symbol : Nat
  steps : Array Step
  dynamic : Int
  deriving DecidableEq, Repr, Inhabited

/-- How a symbol shows in a syntax tree. -/
structure SymbolInfo where
  name : String
  named : Bool
  visible : Bool
  deriving Repr, Inhabited

/-- What the lexer knows of a token. -/
structure Token where
  pattern : Pattern
  precedence : Int
  literalness : Int
  immediate : Bool
  deriving Inhabited

/-- A grammar ready for parsing. -/
structure Prepared where
  symbols : Array SymbolInfo
  /-- Symbols below this number are tokens. -/
  tokenCount : Nat
  /-- The tokens that have a pattern. -/
  tokens : Array (Option Token)
  word : Option Nat
  keywords : HashMap String Nat
  /-- The symbols of the hand-written scanner's tokens, in its order. -/
  externals : Array Nat
  extras : List Nat
  /-- Blank text between tokens. -/
  separator : Pattern
  productions : Array Production
  /-- The productions of each symbol. -/
  ofSymbol : Array (Array Nat)
  auxiliary : Array Bool
  start : Nat
  orderings : List (List Ranked)
  /-- The names that the rules were written under. -/
  ruleNames : Array String
  /-- The productions that only hand a tree on: their symbol does not show, and nothing depends on
  it. -/
  transparent : Array Bool
  /-- Tokens left out where any token may come. -/
  freeText : List Nat
  /-- For each hidden nonterminal, the fields that its nodes can hand to the node around them. -/
  innerFields : Array (List String)
  deriving Inhabited

/-- The fields inside hidden nonterminals, by rounds until nothing is added. -/
def innerFieldsOf (productions : Array Production) (hidden : Array Bool) : Array (List String) :=
  let round (sets : Array (List String)) : Array (List String) :=
    productions.foldl (fun sets p =>
      if !hidden[p.symbol]! then sets else
        p.steps.foldl (fun sets s =>
          let more := s.field.toList ++ (sets[s.symbol]?).getD []
          sets.modify p.symbol fun old =>
            more.foldl (fun o f => if o.contains f then o else f :: o) old)
          sets) sets
  let rec go : Nat → Array (List String) → Array (List String)
    | 0, sets => sets
    | n + 1, sets => let sets' := round sets; if sets' = sets then sets else go n sets'
  go hidden.size (Array.replicate hidden.size [])

/-- The fields that come after step `i` of a production, hidden ones included. -/
def Prepared.laterFields (g : Prepared) (steps : Array Step) (i : Nat) : List String :=
  (steps.toList.drop (i + 1)).flatMap fun s : Step =>
    s.field.toList ++ (g.innerFields[s.symbol]?).getD []

namespace Definition

/-- Bring a definition into production form. -/
def prepare (d : Definition) : Prepared := Id.run do
  let ruleNames := d.rules.map (·.1)
  -- names
  let mut names : HashMap String Sym := {}
  for (r, i) in d.externals.zipIdx do
    if let .ref n := r then names := names.insert n (.external i)
  for (n, i) in ruleNames.zipIdx do
    names := names.insert n (.rule i)
  -- tokens
  let (exprs, ts) := (d.rules.mapM fun ((_, r) : String × Rule) => r.intern names).run {}
  let (extraExprs, ts) := (d.extras.mapM fun (r : Rule) =>
    match r with
    | .ref _ => r.intern names
    | _ => pure .blank).run ts
  let (externalExprs, ts) := (d.externals.mapM fun (r : Rule) => r.intern names).run ts
  let separators := d.extras.filter fun (r : Rule) =>
    match r with
    | .ref _ => false
    | r => !ts.index.contains r
  let extraTokens := d.extras.filterMap fun (r : Rule) =>
    match r with
    | .ref _ => none
    | r => ts.index[r]?
  -- rules that are one token
  let mut tokenOfRule : HashMap Nat Nat := {}
  let mut ruleOfToken : HashMap Nat String := {}
  for ((n, e), i) in (ruleNames.zip exprs).zipIdx do
    if let .sym (.token t) := e then
      let isLiteral := match ts.rules[t]! with | .literal _ => true | _ => false
      if i > 0 && ts.uses[t]! == 1 && (!isLiteral || !n.startsWith "_") then
        tokenOfRule := tokenOfRule.insert i t
        ruleOfToken := ruleOfToken.insert t n
  -- repetitions
  let mut st : Repeats := { base := d.rules.length }
  let mut bodies : Array (List (BodyOf Sym)) := #[]
  let mut auxRules : Array Bool := #[]
  for ((n, e), i) in (ruleNames.zip exprs).zipIdx do
    if tokenOfRule.contains i then
      bodies := bodies.push []
      auxRules := auxRules.push false
    else
      let ((e', aux), st') := (e.expandRule i n).run st
      st := st'
      bodies := bodies.push e'.bodies
      auxRules := auxRules.push aux
  for b in st.bodies do
    bodies := bodies.push b.bodies
    auxRules := auxRules.push true
  let ruleCount := bodies.size
  let ruleName (i : Nat) : String := ruleNames[i]?.getD ((st.names[i - d.rules.length]?).getD "")
  let isRepeat (i : Nat) : Bool := i ≥ d.rules.length
  -- the numbered alphabet
  let wordToken : Option Nat := d.word.bind fun w =>
    match names[w]? with
    | some (.rule i) => tokenOfRule[i]?
    | _ => none
  let tokenOrder := wordToken.toList ++ (List.range ts.rules.size).filter (some · != wordToken)
  let mut number : HashMap Sym Nat := {}
  let mut infos : Array SymbolInfo := #[⟨"end", false, false⟩]
  let mut tokens : Array (Option Token) := #[none]
  for t in tokenOrder do
    number := number.insert (.token t) infos.size
    let r := ts.rules[t]!
    let info : SymbolInfo := match ruleOfToken[t]?, r.literalText? with
      | some n, _ => ⟨n, true, !n.startsWith "_"⟩
      | none, some s => ⟨s, false, true⟩
      | none, none => ⟨"", false, false⟩
    infos := infos.push info
    tokens := tokens.push (some ⟨r.toPattern, (match r with
      | .immediate a => a.tokenPrecedence
      | a => a.tokenPrecedence), r.literalness, r.isImmediate⟩)
  for (i, t) in tokenOfRule.toList do
    number := number.insert (.rule i) number[Sym.token t]!
  let mut externals : Array Nat := #[]
  for (e, i) in externalExprs.zipIdx do
    let internal := match e with
      | .sym (.external _) => none
      | .sym s => number[s]?
      | _ => none
    match internal with
    | some k => externals := externals.push k
    | none =>
      let n := match d.externals[i]! with | .ref n => n | _ => ""
      externals := externals.push infos.size
      number := number.insert (.external i) infos.size
      infos := infos.push ⟨n, true, !n.startsWith "_"⟩
      tokens := tokens.push none
  let tokenCount := infos.size
  for i in [0:ruleCount] do
    if !tokenOfRule.contains i then
      number := number.insert (.rule i) infos.size
      let n := ruleName i
      let hidden := isRepeat i || n.startsWith "_" || d.families.contains n || auxRules[i]!
      infos := infos.push ⟨if isRepeat i then n ++ "_repeat" else n, !isRepeat i, !hidden⟩
  let writtenNames := infos.map (·.name)
  -- aliases that belong to the symbol
  let inlinedRules : List Nat := d.inlined.filterMap fun n =>
    match names[n]? with
    | some (Sym.rule i) => some i
    | _ => none
  let toNat (s : Sym) : Nat := (number[s]?).getD 0
  let extraSymbols := extraExprs.filterMap fun e =>
    match e with
    | .sym s => some (toNat s)
    | _ => none
  let extras := extraSymbols ++ extraTokens.map fun t => toNat (.token t)
  let numbered (b : BodyOf Sym) : BodyOf Nat :=
    ⟨b.steps.map fun s => ⟨toNat s.symbol, s.precedence, s.assoc, s.renamed, s.field⟩, b.dynamic⟩
  let flat : Array (List (BodyOf Nat)) := bodies.map (·.map numbered)
  let inlinedNumbers := inlinedRules.map fun i => toNat (.rule i)
  let mut plain : Array Bool := Array.replicate infos.size false
  let mut aliased : Array (List Alias) := Array.replicate infos.size []
  for bs in flat do
    for b in bs do
      for s in b.steps do
        match s.renamed with
        | none => plain := plain.set! s.symbol true
        | some a => aliased := aliased.modify s.symbol (a :: ·)
  let mut usual : Array (Option Alias) := Array.replicate infos.size none
  for s in [0:infos.size] do
    if !plain[s]! && !extras.contains s && !inlinedNumbers.contains s then
      let uses := aliased[s]!.reverse
      let best := uses.foldl (fun (best : Option Alias) a =>
        match best with
        | none => some a
        | some b => if uses.count a > uses.count b then some a else best) none
      if let some a := best then
        infos := infos.set! s ⟨a.name, a.named, true⟩
        usual := usual.set! s (some a)
  -- productions
  let inlinedBodies : HashMap Nat (List (BodyOf Nat)) :=
    inlinedRules.foldl (fun m i => m.insert (toNat (.rule i)) flat[i]!) {}
  let mut productions : Array Production := #[]
  let mut ofSymbol : Array (Array Nat) := Array.replicate infos.size #[]
  let mut auxiliary : Array Bool := Array.replicate infos.size false
  for i in [0:ruleCount] do
    let lhs := toNat (.rule i)
    if !tokenOfRule.contains i && !inlinedRules.contains i then
      auxiliary := auxiliary.set! lhs auxRules[i]!
      let bs := distinct (flat[i]!.flatMap (·.inline (inlinedBodies[·]?) 32))
      for b in bs do
        ofSymbol := ofSymbol.modify lhs (·.push productions.size)
        productions := productions.push ⟨lhs, b.steps.toArray, b.dynamic⟩
  -- keywords
  let mut keywords : HashMap String Nat := {}
  if let some w := wordToken then
    let p := ts.rules[w]!.toPattern
    for t in tokenOrder do
      if let .literal s := ts.rules[t]! then
        if s.toList.all (fun c => c.isAlphanum || c == '_') && p.accepts s.toList then
          keywords := keywords.insert s (toNat (.token t))
  let freeText := d.freeText.filterMap fun (r : Rule) =>
    match r with
    | .ref n => infos.findIdx? (·.name == n)
    | .immediate _ => (ts.index[r]?).map fun t => toNat (.token t)
    | .token r | r => (ts.index[r]?).map fun t => toNat (.token t)
  let hidden := infos.mapIdx fun i info => decide (i ≥ tokenCount) && !info.visible
  let innerFields := innerFieldsOf productions hidden
  -- productions that only hand a tree on
  let unusual (s : StepOf Nat) : Bool := s.renamed.isSome && s.renamed != usual[s.symbol]!
  let mut handsOn : Array Bool := hidden
  for i in [0:ruleCount] do
    if d.families.contains (ruleName i) then handsOn := handsOn.set! (toNat (.rule i)) false
  for s in extras do handsOn := handsOn.set! s false
  for bs in flat do
    for b in bs do
      for s in b.steps do
        if unusual s then handsOn := handsOn.set! s.symbol false
  let transparent := productions.map fun p =>
    handsOn[p.symbol]! && p.dynamic == 0 && p.steps.size == 1 && p.steps.all fun s =>
      !unusual s && s.field.isNone && innerFields[s.symbol]!.isEmpty
  return {
    symbols := infos
    tokenCount
    tokens
    word := wordToken.map fun w => toNat (.token w)
    keywords
    externals
    extras
    separator := .star (.ofAlt (separators.map (·.toPattern)))
    productions
    ofSymbol
    auxiliary
    start := toNat (.rule 0)
    orderings := d.orderings
    ruleNames := writtenNames
    transparent
    freeText
    innerFields }

end Definition

end CodeIndex.Grammar
