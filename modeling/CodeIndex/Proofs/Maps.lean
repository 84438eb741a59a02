import Std.Data.TreeMap.Lemmas
import Mathlib.Tactic.Common

/-!
# Maps with text for keys

What a lookup finds after a change of the map: at the key of the change it finds the change, and at
any other key what was there before.
-/

namespace CodeIndex

open Std (TreeMap)

variable {β : Type} (t : TreeMap String β) (key k : String)

theorem lookup_insert (b : β) : (t.insert key b)[k]? = if k = key then some b else t[k]? := by
  simp only [TreeMap.getElem?_insert, Std.LawfulEqCmp.compare_eq_iff_eq, eq_comm (a := k)]

theorem lookup_erase : (t.erase key)[k]? = if k = key then none else t[k]? := by
  simp only [TreeMap.getElem?_erase, Std.LawfulEqCmp.compare_eq_iff_eq, eq_comm (a := k)]

theorem lookup_alter (f : Option β → Option β) :
    (t.alter key f)[k]? = if k = key then f t[k]? else t[k]? := by
  rw [TreeMap.getElem?_alter]
  by_cases h : k = key
  · subst h
    simp
  · simp only [Std.LawfulEqCmp.compare_eq_iff_eq, Ne.symm h, h, if_false]

end CodeIndex
