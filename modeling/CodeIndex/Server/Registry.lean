import CodeIndex.Json.Printer
import Std.Data.TreeMap

/-!
# Requests that can be cancelled

Each request under way has a token, by which its work can be called off. Requests are told apart by
the text of their ids, so that the number one and the text "1" are two ids.
-/

namespace CodeIndex

open Std (TreeMap)

/-- A token, by its place among all that were ever given out. -/
abbrev CancelToken := Nat

structure CancelRegistry where
  /-- Of each token, whether it is cancelled. -/
  cancelled : Array Bool := #[]
  /-- The tokens of the requests under way, by the texts of their ids. -/
  current : TreeMap String CancelToken := {}

namespace CancelRegistry

/-- The text that tells an id from others. -/
def key (id : Json) : String := id.normal.compact

/-- The token of a request; a request that is not under way gets a new one. -/
def register (r : CancelRegistry) (id : Json) : CancelToken × CancelRegistry :=
  match r.current[key id]? with
  | some t => (t, r)
  | none =>
    (r.cancelled.size,
      ⟨r.cancelled.push false, r.current.insert (key id) r.cancelled.size⟩)

/-- Call off a request, if it is under way. -/
def cancel (r : CancelRegistry) (id : Json) : Bool × CancelRegistry :=
  match r.current[key id]? with
  | some t => (true, { r with cancelled := r.cancelled.set! t true })
  | none => (false, r)

/-- The request has been answered. -/
def finish (r : CancelRegistry) (id : Json) : CancelRegistry :=
  { r with current := r.current.erase (key id) }

def isCancelled (r : CancelRegistry) (t : CancelToken) : Bool := r.cancelled[t]?.getD false

end CancelRegistry

end CodeIndex
