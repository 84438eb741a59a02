import CodeIndex.Parsing.Tree

/-!
# The graph-structured stack

Where the grammar leaves several actions open, or an error can be mended in several ways, the parser
follows several *versions* of its stack. Versions share what they have in common: a node of the
stack may be linked to several nodes below it, each link carrying the tree that was pushed between
them. Versions that reach the same state at the same place with equal errors are merged again.
-/

namespace CodeIndex.Parsing

/-- A link to a node below. A link without a tree marks where an error begins. -/
structure Link where
  target : Nat
  tree : Option Tree
  deriving Inhabited

def Link.dynamic (l : Link) : Int := (l.tree.map fun t => t.facts.dynamic).getD 0

/-- A node of the stack: a parser state, with what the trees below it amount to. -/
structure StackNode where
  state : Nat
  here : Cursor
  links : Array Link
  cost : Nat
  progress : Nat
  dynamic : Int
  deriving Inhabited

inductive Status where
  | active
  /-- The token found here fits no action. -/
  | paused (lookahead : Tree)
  | halted
  deriving Inhabited

/-- A state below the top of the stack. -/
structure Below where
  here : Cursor
  depth : Nat
  state : Nat
  deriving Inhabited

/-- One version of the stack. -/
structure Version where
  node : Nat
  status : Status := .active
  progressAtError : Nat := 0
  /-- What the hand-written scanner remembers. -/
  memory : Memory := []
  /-- The states below, as they were when the version met an error. -/
  summary : Option (Array Below) := none
  deriving Inhabited

structure Stack where
  nodes : Array StackNode := #[]
  versions : Array Version := #[]
  deriving Inhabited

/-- At most this many links leave a node. -/
def maxLinks : Nat := 8

/-- At most this many paths are followed down the stack at once. -/
def maxPaths : Nat := 64

namespace Version

def isActive (v : Version) : Bool := match v.status with | .active => true | _ => false

def isPaused (v : Version) : Bool := match v.status with | .paused _ => true | _ => false

def isHalted (v : Version) : Bool := match v.status with | .halted => true | _ => false

end Version

namespace Stack

/-- A stack with one version that holds nothing. -/
def start (state : Nat) (here : Cursor) : Stack where
  nodes := #[⟨state, here, #[], 0, 0, 0⟩]
  versions := #[{ node := 0 }]

def top (s : Stack) (v : Nat) : StackNode := s.nodes[(s.versions[v]!).node]!

def state (s : Stack) (v : Nat) : Nat := (s.top v).state

def here (s : Stack) (v : Nat) : Cursor := (s.top v).here

def isActive (s : Stack) (v : Nat) : Bool := (s.versions[v]!).isActive

def isPaused (s : Stack) (v : Nat) : Bool := (s.versions[v]!).isPaused

def modifyVersion (s : Stack) (v : Nat) (f : Version → Version) : Stack :=
  { s with versions := s.versions.modify v f }

def halt (s : Stack) (v : Nat) : Stack := s.modifyVersion v ({ · with status := .halted })

def remove (s : Stack) (v : Nat) : Stack := { s with versions := s.versions.eraseIdxIfInBounds v }

/-- Put version `from_` in the place of version `to_`. -/
def renumber (s : Stack) (from_ to_ : Nat) : Stack :=
  if from_ = to_ then s else
    let a := s.versions[from_]!
    let b := s.versions[to_]!
    let a := if a.summary.isNone then { a with summary := b.summary } else a
    { s with versions := (s.versions.set! to_ a).eraseIdxIfInBounds from_ }

def swap (s : Stack) (i j : Nat) : Stack :=
  { s with versions := s.versions.swapIfInBounds i j }

/-- A new version like `v`; its number is the number of versions before. -/
def copy (s : Stack) (v : Nat) : Stack :=
  { s with versions := s.versions.push { s.versions[v]! with summary := none } }

/-- Push a tree, or the mark of an error. -/
def push (s : Stack) (v : Nat) (tree : Option Tree) (state : Nat) : Stack :=
  let below := (s.versions[v]!).node
  let b := s.nodes[below]!
  let n : StackNode := match tree with
    | some t =>
      { state, here := t.facts.stop, links := #[⟨below, tree⟩]
        cost := b.cost + t.cost, progress := b.progress + t.progress
        dynamic := b.dynamic + t.facts.dynamic }
    | none =>
      { state, here := b.here, links := #[⟨below, none⟩]
        cost := b.cost, progress := b.progress, dynamic := b.dynamic }
  let k := s.nodes.size
  let s := { s with nodes := s.nodes.push n }
  s.modifyVersion v fun h =>
    { h with node := k, progressAtError := if tree.isNone then n.progress else h.progressAtError }

/-- The cost of the errors of a version; an unfinished error counts as one. -/
def cost (s : Stack) (v : Nat) : Nat :=
  let h := s.versions[v]!
  let n := s.nodes[h.node]!
  let open_ := n.state = 0 && (match n.links[0]? with | some l => l.tree.isNone | none => false)
  n.cost + (if h.isPaused || open_ then Cost.recovery else 0)

/-- How far a version has come since its last error. -/
def progressSinceError (s : Stack) (v : Nat) : Nat :=
  (s.top v).progress - (s.versions[v]!).progressAtError

/-- A version whose node count fell below the mark of its last error is marked anew. -/
def settle (s : Stack) (v : Nat) : Stack :=
  let p := (s.top v).progress
  if p < (s.versions[v]!).progressAtError then
    s.modifyVersion v ({ · with progressAtError := p })
  else s

/-- Some text was read since the last error. -/
def hasAdvancedSinceError (s : Stack) (v : Nat) : Bool :=
  let mark := (s.versions[v]!).progressAtError
  let rec go : Nat → Nat → Bool
    | 0, _ => false
    | fuel + 1, k =>
      let n := s.nodes[k]!
      match (n.links[0]? : Option Link) with
      | some ⟨target, some t⟩ =>
        if t.totalBytes > 0 then true
        else if n.progress > mark && t.cost = 0 then go fuel target
        else false
      | _ => false
  (s.top v).cost = 0 || go s.nodes.size (s.versions[v]!).node

/-! ## Merging -/

def linksAlike (a b : Link) : Bool :=
  match a.tree, b.tree with
  | some x, some y => x.alike y
  | none, none => true
  | _, _ => false

/-- What becomes of a new link beside those that a node has. -/
inductive Joining where
  /-- Link number `i` leads to the same node: the tree with the higher dynamic precedence stays. -/
  | same (i : Nat)
  /-- The new link's node is merged into the node of an old one. -/
  | into (target : Nat)
  | separate

/-- Compare a new link with those that a node has, in order. -/
def joining (nodes : Array StackNode) (link : Link) : Nat → List Link → Joining
  | _, [] => .separate
  | i, l :: ls =>
    let below := nodes[link.target]!
    let other := nodes[l.target]!
    if linksAlike l link && l.target = link.target then .same i
    else if linksAlike l link && other.state = below.state && other.here.byte = below.here.byte &&
        other.cost = below.cost then .into l.target
    else joining nodes link (i + 1) ls

/-- Let node `k` also stand on what `link` leads to. -/
def addLink : Nat → Nat → Link → Array StackNode → Array StackNode
  | 0, _, _, nodes => nodes
  | fuel + 1, k, link, nodes =>
    if link.target = k then nodes else
    let self := nodes[k]!
    let below := nodes[link.target]!
    let dynamic := below.dynamic + link.dynamic
    match joining nodes link 0 self.links.toList with
    | .same i =>
      if link.dynamic > (self.links[i]!).dynamic then
        nodes.set! k
          { self with links := self.links.modify i ({ · with tree := link.tree }), dynamic }
      else nodes
    | .into target =>
      let nodes := below.links.foldl (fun ns m => addLink fuel target m ns) nodes
      nodes.modify k fun self => { self with dynamic := max self.dynamic dynamic }
    | .separate =>
      if self.links.size ≥ maxLinks then nodes else
        let progress := below.progress + (link.tree.map (·.progress)).getD 0
        nodes.set! k
          { self with
            links := self.links.push link
            progress := max self.progress progress
            dynamic := max self.dynamic dynamic }

def canMerge (s : Stack) (i j : Nat) : Bool :=
  match s.versions[i]?, s.versions[j]? with
  | some a, some b =>
    let m := s.nodes[a.node]!
    let n := s.nodes[b.node]!
    a.isActive && b.isActive && m.state = n.state && m.here.byte = n.here.byte &&
      m.cost = n.cost && a.memory = b.memory
  | _, _ => false

/-- Merge version `j` into version `i` where they agree. -/
def merge? (s : Stack) (i j : Nat) : Option Stack :=
  if !s.canMerge i j then none else
    let a := s.versions[i]!
    let b := s.versions[j]!
    let links := (s.nodes[b.node]!).links
    let fuel := s.nodes.size + 1
    let nodes := links.foldl (fun ns l => addLink fuel a.node l ns) s.nodes
    let s := { s with nodes }
    let top := s.nodes[a.node]!
    let s := if top.state = 0 then
        s.modifyVersion i ({ · with progressAtError := top.progress })
      else s
    some (s.remove j)

/-! ## Walking down the stack -/

/-- A path down the stack: the trees passed, left to right, and how many of them count. -/
structure Path where
  node : Nat
  trees : List Tree
  count : Nat
  deriving Inhabited

/-- What to do at a node: take the path so far, stop following it, or both. -/
structure Verdict where
  take : Bool
  stop : Bool

/-- Follow a link. Extras do not count. -/
def Path.follow (p : Path) (l : Link) : Path :=
  match l.tree with
  | some t => ⟨l.target, t :: p.trees, if t.facts.extra then p.count else p.count + 1⟩
  | none => ⟨l.target, p.trees, p.count + 1⟩

/-- One step along every path. Taken paths are collected in order. -/
def walkRound {σ : Type} (s : Stack) (decide : σ → Path → σ × Verdict)
    (st : σ) (paths : Array Path) : σ × Array Path × Array Path := Id.run do
  let mut st := st
  let mut kept : Array Path := #[]
  let mut added : Array Path := #[]
  let mut taken : Array Path := #[]
  let mut left := paths.size
  for p in paths do
    let links := (s.nodes[p.node]!).links
    let (st', verdict) := decide st p
    st := st'
    left := left - 1
    if verdict.take then taken := taken.push p
    if !(verdict.stop || links.isEmpty) then
      for l in links.toList.drop 1 do
        if kept.size + 1 + left + added.size < maxPaths then added := added.push (p.follow l)
      kept := kept.push (p.follow links[0]!)
  return (st, kept ++ added, taken)

/-- Follow all paths down from a version. -/
def walk {σ : Type} (s : Stack) (v : Nat) (decide : σ → Path → σ × Verdict) (st : σ) :
    σ × Array Path :=
  let rec go : Nat → σ → Array Path → Array Path → σ × Array Path
    | 0, st, _, taken => (st, taken)
    | fuel + 1, st, paths, taken =>
      if paths.isEmpty then (st, taken) else
        let (st, paths, more) := s.walkRound decide st paths
        go fuel st paths (taken ++ more)
  go (s.nodes.size + 2) st #[⟨(s.versions[v]!).node, [], 0⟩] #[]

/-- Trees taken from the top of the stack, and the version that stands where they began. -/
structure Slice where
  trees : List Tree
  version : Nat
  deriving Inhabited

/-- Make a version for each node that the paths end at. -/
def slices (s : Stack) (v : Nat) (paths : Array Path) : Stack × Array Slice :=
  paths.foldl (fun ((s, out) : Stack × Array Slice) p =>
    match out.toList.reverse.zipIdx.find? fun (sl, _) =>
        (s.versions[sl.version]!).node = p.node with
    | some (sl, k) =>
      let at_ := out.size - 1 - k
      let new : Slice := ⟨p.trees, sl.version⟩
      (s, (out.toList.take (at_ + 1) ++ new :: out.toList.drop (at_ + 1)).toArray)
    | none =>
      let h := s.versions[v]!
      let new : Version :=
        { node := p.node, progressAtError := h.progressAtError, memory := h.memory }
      ({ s with versions := s.versions.push new }, out.push ⟨p.trees, s.versions.size⟩))
    (s, #[])

/-- Take `n` trees, not counting extras, off a version along every path. -/
def pop (s : Stack) (v n : Nat) : Stack × Array Slice :=
  let decide (_ : Unit) (p : Path) : Unit × Verdict := ((), ⟨p.count = n, p.count = n⟩)
  s.slices v (s.walk v decide ()).2

/-- Take everything off a version. -/
def popAll (s : Stack) (v : Nat) : Stack × Array Slice :=
  let decide (_ : Unit) (p : Path) : Unit × Verdict :=
    ((), ⟨(s.nodes[p.node]!).links.isEmpty, false⟩)
  s.slices v (s.walk v decide ()).2

/-- Take an error off the top of a version. -/
def popError (s : Stack) (v : Nat) : Stack × List Tree :=
  let links := (s.top v).links
  if !links.any (fun l => (l.tree.map (·.isError)).getD false) then (s, []) else
    let decide (found : Bool) (p : Path) : Bool × Verdict :=
      match p.trees.getLast? with
      | none => (found, ⟨false, false⟩)
      | some t => if !found && t.isError then (true, ⟨true, true⟩) else (found, ⟨false, true⟩)
    let (_, paths) := s.walk v decide false
    let (s, out) := s.slices v paths
    match out[0]? with
    | some sl => (s.renumber sl.version v, sl.trees)
    | none => (s, [])

/-- Record the states below the top of a version. -/
def recordSummary (s : Stack) (v : Nat) (maxDepth : Nat) : Stack :=
  let decide (seen : Array Below) (p : Path) : Array Below × Verdict :=
    let n := s.nodes[p.node]!
    if p.count > maxDepth then (seen, ⟨false, true⟩)
    else if seen.any fun b => b.depth = p.count && b.state = n.state then (seen, ⟨false, false⟩)
    else (seen.push ⟨n.here, p.count, n.state⟩, ⟨false, false⟩)
  let (seen, _) := s.walk v decide #[]
  s.modifyVersion v ({ · with summary := some seen })

end Stack

end CodeIndex.Parsing
