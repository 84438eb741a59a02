import CodeIndex.Index.Snapshot
import CodeIndex.Proofs.Maps
import Mathlib.Data.List.Dedup

/-!
# Entries by name

What the operations on a table do to the list of entries that each name has. A table is *tight* when
no name stands in it without entries; every operation keeps tables tight.

Main results: `entries_addAll`, `entries_dropAll`, `Tight.addAll`, `Tight.dropAll`.
-/

namespace CodeIndex.EntryTable

variable {t : EntryTable} {uri name : String}

/-- No name stands in the table without entries. -/
def Tight (t : EntryTable) : Prop := ∀ name : String, t[name]? ≠ some #[]

@[simp] theorem entries_empty : entries {} name = [] := by simp [entries]

theorem tight_empty : Tight {} := fun name => by simp

/-! ## Adding entries -/

theorem entries_add (e : Entry) :
    (t.add e).entries name = t.entries name ++ if name = e.name then [e] else [] := by
  unfold entries add
  rw [lookup_alter]
  by_cases h : name = e.name <;> simp [h]

theorem entries_addAll (es : List Entry) :
    (t.addAll es).entries name = t.entries name ++ es.filter (·.name = name) := by
  induction es generalizing t with
  | nil => simp [addAll]
  | cons e es ih =>
    rw [addAll, List.foldl_cons, ← addAll, ih, entries_add, List.append_assoc, List.filter_cons]
    by_cases h : name = e.name
    · simp [h]
    · simp [h, Ne.symm h]

theorem Tight.add (h : t.Tight) (e : Entry) : (t.add e).Tight := by
  intro name
  rw [EntryTable.add, lookup_alter]
  split
  · simp
  · exact h name

theorem Tight.addAll (h : t.Tight) (es : List Entry) : (t.addAll es).Tight := by
  induction es generalizing t with
  | nil => exact h
  | cons e es ih => exact ih (h.add e)

/-! ## Dropping a file's entries -/

theorem entries_dropName (n : String) :
    (dropName uri t n).entries name =
      if name = n then (t.entries name).filter (·.location.uri ≠ uri) else t.entries name := by
  unfold entries dropName
  rw [lookup_alter]
  by_cases h : name = n
  · rw [if_pos h, if_pos h]
    cases t[name]? with
    | none => simp
    | some es =>
      simp only [Option.bind_some, Option.getD_some]
      split <;> simp_all
  · rw [if_neg h, if_neg h]

theorem entries_dropNames (names : List String) :
    (names.foldl (dropName uri) t).entries name =
      if name ∈ names then (t.entries name).filter (·.location.uri ≠ uri) else t.entries name := by
  induction names generalizing t with
  | nil => simp
  | cons n names ih =>
    rw [List.foldl_cons, ih, entries_dropName]
    by_cases h : name = n <;> simp [h]

/-- The entries of a name after a file's entries were dropped, when these all stand under the given
names. -/
theorem entries_dropAll {es : List Entry}
    (all : ∀ e ∈ t.entries name, e.location.uri = uri → name ∈ es.map (·.name)) :
    (t.dropAll uri es).entries name = (t.entries name).filter (·.location.uri ≠ uri) := by
  rw [dropAll, entries_dropNames]
  simp only [List.mem_eraseDups]
  split
  · rfl
  · rename_i absent
    refine (List.filter_eq_self.2 fun e he => ?_).symm
    simpa using fun h => absent (all e he h)

theorem Tight.dropName (h : t.Tight) (uri n : String) : (EntryTable.dropName uri t n).Tight := by
  intro name
  rw [EntryTable.dropName, lookup_alter]
  split
  · cases t[name]? with
    | none => simp
    | some es =>
      simp only [Option.bind_some]
      split <;> simp_all
  · exact h name

theorem Tight.dropAll (h : t.Tight) (uri : String) (es : List Entry) :
    (t.dropAll uri es).Tight := by
  rw [EntryTable.dropAll]
  generalize (es.map (·.name)).eraseDups = names
  induction names generalizing t with
  | nil => exact h
  | cons n names ih => exact ih (h.dropName uri n)

end CodeIndex.EntryTable
