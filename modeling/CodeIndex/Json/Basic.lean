/-!
# JSON values

An object keeps its members in the order in which they are written, repeated keys included; of
several members with one key the last counts. Whole numbers are kept exactly where 64 bits hold
them; all other numbers are doubles.
-/

namespace CodeIndex

inductive Json where
  | null
  | bool (b : Bool)
  /-- A whole number from -2^63 to 2^64 - 1. -/
  | int (n : Int)
  | real (x : Float)
  /-- A number that is too large for a double. -/
  | huge
  | str (s : String)
  | arr (items : List Json)
  | obj (members : List (String × Json))
  deriving Inhabited

namespace Json

instance : Coe String Json := ⟨str⟩
instance : Coe Bool Json := ⟨bool⟩
instance : Coe Nat Json := ⟨fun n => int n⟩

def ofList {α : Type} (f : α → Json) (xs : List α) : Json := arr (xs.map f)

/-! ## Looking into values -/

/-- The member of an object with the given key. -/
def get? (key : String) : Json → Option Json
  | obj ms => ms.reverse.lookup key
  | _ => none

/-- What is reached by a chain of keys. -/
def path? : List String → Json → Option Json
  | [], j => some j
  | key :: keys, j => (j.get? key).bind (path? keys)

def str? : Json → Option String
  | str s => some s
  | _ => none

def bool? : Json → Option Bool
  | bool b => some b
  | _ => none

def items? : Json → Option (List Json)
  | arr xs => some xs
  | _ => none

/-- A whole number that is not negative. -/
def nat? : Json → Option Nat
  | int n => if 0 ≤ n then some n.toNat else none
  | _ => none

/-- A whole number that fits in 64 bits with its sign. -/
def int? : Json → Option Int
  | int n => if n < (Nat.pow 2 63 : Nat) then some n else none
  | _ => none

/-! ## The values that a reader accepts -/

mutual

/-- How deep arrays and objects are nested. -/
def depth : Json → Nat
  | arr xs => depthItems xs + 1
  | obj ms => depthMembers ms + 1
  | _ => 0

def depthItems : List Json → Nat
  | [] => 0
  | x :: xs => max x.depth (depthItems xs)

def depthMembers : List (String × Json) → Nat
  | [] => 0
  | (_, x) :: ms => max x.depth (depthMembers ms)

end

mutual

/-- Every number in the value has a double near it. -/
def isFinite : Json → Bool
  | huge => false
  | arr xs => itemsFinite xs
  | obj ms => membersFinite ms
  | _ => true

def itemsFinite : List Json → Bool
  | [] => true
  | x :: xs => x.isFinite && itemsFinite xs

def membersFinite : List (String × Json) → Bool
  | [] => true
  | (_, x) :: ms => x.isFinite && membersFinite ms

end

/-- Values nested deeper than this are refused. -/
def maxDepth : Nat := 127

/-- The value can be taken up whole. -/
def isAcceptable (j : Json) : Bool := j.isFinite && j.depth ≤ maxDepth

/-! ## Normal form -/

/-- Put a member in its place among members in order of their keys; it replaces one with its key. -/
def insertMember (key : String) (value : Json) : List (String × Json) → List (String × Json)
  | [] => [(key, value)]
  | (k, v) :: rest =>
    if key < k then (key, value) :: (k, v) :: rest
    else if key = k then (key, value) :: rest
    else (k, v) :: insertMember key value rest

/-- Members in order of their keys, the last of each key alone. -/
def sortMembers (ms : List (String × Json)) : List (String × Json) :=
  ms.foldl (fun out m => insertMember m.1 m.2 out) []

mutual

/-- The value with the members of all its objects sorted, the last of each key alone. -/
def normal : Json → Json
  | arr xs => arr (normalItems xs)
  | obj ms => obj (sortMembers (normalMembers ms))
  | j => j

def normalItems : List Json → List Json
  | [] => []
  | x :: xs => x.normal :: normalItems xs

def normalMembers : List (String × Json) → List (String × Json)
  | [] => []
  | (k, x) :: ms => (k, x.normal) :: normalMembers ms

end

end Json

end CodeIndex
