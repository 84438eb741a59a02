import CodeIndex.Proofs.Symbol.Forest
import CodeIndex.Proofs.Symbol.Labels
import CodeIndex.Proofs.Symbol.Walk
import CodeIndex.Symbol.Named
import Mathlib.Tactic.Common

/-!
# Named definitions and the outline

A symbol search and an outline read the same captures, each in a single pass with the open
definitions at hand. The outline takes names for captures like others and gives them to their
definitions afterwards; the search never opens a name and pairs it with the capture right before.

**Theorem (`matchingSymbols_eq_outline`).** Where each definition is at once followed by its name
and nothing lies in a name (`NamesFollow`), the search finds just the symbols of the outline that
match, in the order of the outline, each with its kind, its range and the name of its parent.

The proof goes along the captures, a definition together with its name in one step. In between,
the open definitions all have names, and what the search will still find is read off the forest of
the captures to come (`reported`): the trees at its front that the innermost definition contains
come under this one, the next ones under the next.
-/

namespace CodeIndex

open Syntax (Capture)

/-! ## Labels of names -/

namespace Label

theorem toList_append_name (label : String) :
    (label ++ ".name").toList = label.toList ++ nameSuffix := by
  simp [nameSuffix]

theorem isName_append_nameSuffix (label : List Char) : isName (label ++ nameSuffix) = true := by
  simp [isName]

/-- `label` is `owner` followed by a dot and more. -/
def Extends (label owner : List Char) : Prop := ∃ more, label = owner ++ '.' :: more

theorem extends_iff {label owner : List Char} :
    extends_ label owner = true ↔ Extends label owner := by
  unfold extends_ dropPrefix? Extends
  constructor
  · intro h
    split at h
    · rename_i more found
      split at found
      · rename_i start
        obtain ⟨rest, rfl⟩ := List.isPrefixOf_iff_prefix.1 start
        rw [List.drop_left, Option.some_inj] at found
        exact ⟨more, found ▸ rfl⟩
      · cases found
    · cases h
  · rintro ⟨more, rfl⟩
    simp

instance (label owner : List Char) : Decidable (Extends label owner) :=
  decidable_of_iff _ extends_iff

theorem extends_append_nameSuffix (label : List Char) : Extends (label ++ nameSuffix) label :=
  ⟨"name".toList, by simp [nameSuffix]⟩

theorem kind_append_nameSuffix {label : List Char} (plain : isName label = false) :
    kind (label ++ nameSuffix) = kind label := by
  have last : ¬ nameSuffix <:+ label := fun h =>
    Bool.false_ne_true (plain.symm.trans (List.isSuffixOf_iff_suffix.2 h))
  rw [kind, usageKind?, kindWord_append_nameSuffix last]
  rfl

end Label

/-! ## Symbols under their parents -/

namespace Symbol

mutual

/-- The symbol and those below it, parents first, each with the name of its parent. -/
def walkUnder (parent : Option String) : Symbol → List (Option String × Symbol)
  | mk n k r s cs => (parent, mk n k r s cs) :: walkAllUnder (some n) cs

def walkAllUnder (parent : Option String) : List Symbol → List (Option String × Symbol)
  | [] => []
  | s :: ss => walkUnder parent s ++ walkAllUnder parent ss

end

mutual

theorem map_snd_walkUnder (parent : Option String) (s : Symbol) :
    (walkUnder parent s).map (·.2) = walk s := by
  cases s with
  | mk n k r s cs => rw [walkUnder, List.map_cons, map_snd_walkAllUnder, walk_mk]

/-- But for the names of the parents, this is the walk of the outline. -/
theorem map_snd_walkAllUnder (parent : Option String) (ss : List Symbol) :
    (walkAllUnder parent ss).map (·.2) = walkAll ss := by
  cases ss with
  | nil => rfl
  | cons s ss =>
    rw [walkAllUnder, List.map_append, map_snd_walkUnder, map_snd_walkAllUnder, walkAll_cons]

end

end Symbol

/-- A symbol of an outline as a symbol search reports it. -/
def NamedSymbol.ofOutline (uri : String) (found : Option String × Symbol) : NamedSymbol :=
  ⟨found.2.name, found.2.kind, found.1, ⟨uri, found.2.range⟩⟩

/-! ## Captures with their names -/

/-- Each definition is at once followed by its name, which lies in it, and what follows a name does
not lie in the name. Further names may follow. -/
def NamesFollow : List Capture → Prop
  | [] => True
  | c :: cs =>
    (Label.isName c.label.toList = false →
        ∃ n ∈ cs.head?, n.label = c.label ++ ".name" ∧ c.span.Contains n.span) ∧
      (Label.isName c.label.toList = true → ∀ next ∈ cs.head?, ¬ c.span.Contains next.span) ∧
      NamesFollow cs

instance decidableNamesFollow : (cs : List Capture) → Decidable (NamesFollow cs)
  | [] => isTrue trivial
  | _ :: cs =>
    have := decidableNamesFollow cs
    inferInstanceAs (Decidable (_ ∧ _ ∧ _))

namespace Forest

theorem cons_of_apart {c : Capture} {cs : List Capture}
    (apart : ∀ next ∈ cs.head?, ¬ c.span.Contains next.span) :
    cons c (ofCaptures cs) = .mk c [] :: ofCaptures cs := by
  cases cs with
  | nil => rfl
  | cons next cs =>
    have out : ¬ c.span.Contains next.span := apart next rfl
    rw [ofCaptures_cons]
    simp [cons, CaptureTree.capture, out]

theorem cons_of_inside {c n : Capture} (inside : c.span.Contains n.span) (f : Forest) :
    cons c (.mk n [] :: f) =
      .mk c (.mk n [] :: f.takeWhile fun t => c.span.Contains t.capture.span) ::
        f.dropWhile fun t => c.span.Contains t.capture.span := by
  simp [cons, CaptureTree.capture, inside]

end Forest

/-! ## One capture in a search -/

section

variable {uri : String} {c owner : Capture} {ds : List OpenDefinition} {fresh : Bool}
  {cs : List Capture}

theorem namedFrom_open (plain : Label.isName c.label.toList = false) :
    namedFrom uri ds fresh (c :: cs) =
      namedFrom uri ({ capture := c } :: enclosing c.span ds) true cs := by
  simp [namedFrom, plain]

theorem namedFrom_owned (name : Label.isName c.label.toList = true)
    (inside : owner.span.Contains c.span)
    (extend : Label.Extends c.label.toList owner.label.toList) :
    namedFrom uri ({ capture := owner } :: ds) true (c :: cs) =
      ⟨c.text, Label.kind c.label.toList, ds.findSome? (·.name), ⟨uri, owner.span⟩⟩ ::
        namedFrom uri (⟨owner, some c.text⟩ :: ds) false cs := by
  have stays : enclosing c.span ({ capture := owner } :: ds) = { capture := owner } :: ds := by
    simp [enclosing, inside]
  simp [namedFrom, name, stays, Label.extends_iff.2 extend]

theorem namedFrom_unowned (name : Label.isName c.label.toList = true)
    (unowned : fresh = true → ∀ d ∈ ds.head?, d.capture.span.Contains c.span →
      ¬ Label.Extends c.label.toList d.capture.label.toList) :
    namedFrom uri ds fresh (c :: cs) =
      ⟨c.text, Label.kind c.label.toList, (enclosing c.span ds).findSome? (·.name),
          ⟨uri, c.span⟩⟩ ::
        namedFrom uri (enclosing c.span ds) false cs := by
  rw [namedFrom]
  cases found : enclosing c.span ds with
  | nil => simp [name]
  | cons d outer =>
    have apart : ¬ (fresh && (d :: outer).length = ds.length &&
        Label.extends_ c.label.toList d.capture.label.toList) = true := by
      simp only [Bool.and_eq_true, decide_eq_true_eq, Label.extends_iff]
      rintro ⟨⟨met, all⟩, extend⟩
      -- nothing was closed, so the innermost definition is the one right before
      have suffix : d :: outer <:+ ds := found ▸ List.dropWhile_suffix _
      have same : d :: outer = ds := suffix.eq_of_length all
      have inside := List.head?_dropWhile_not
        (fun d : OpenDefinition => !d.capture.span.Contains c.span) ds
      rw [← enclosing, found] at inside
      exact unowned met d (same ▸ rfl) (by simpa using inside) extend
    simp only [name, Bool.not_true, Bool.false_eq_true, if_false]
    rw [if_neg apart]

end

/-! ## What a search finds -/

variable {uri : String} {c n : Capture} {ds : List OpenDefinition} {cs : List Capture}

/-- What a search reports of trees under a parent with the given name. -/
def reports (uri : String) (parent : Option String) (f : Forest) : List NamedSymbol :=
  (Symbol.walkAllUnder parent (Symbol.ofTrees f)).map (.ofOutline uri)

theorem reports_cons (parent : Option String) (t : CaptureTree) (f : Forest) :
    reports uri parent (t :: f) = reports uri parent [t] ++ reports uri parent f := by
  simp [reports, Symbol.ofTrees, Symbol.walkAllUnder]

theorem reports_name (parent : Option String) :
    reports uri parent [.mk c []] =
      [⟨c.text, Label.kind c.label.toList, parent, ⟨uri, c.span⟩⟩] := by
  simp [reports, Symbol.ofTrees, Symbol.ofTree, Symbol.ofChildren, Symbol.walkAllUnder,
    Symbol.walkUnder, NamedSymbol.ofOutline, Symbol.name, Symbol.kind, Symbol.range]

theorem reports_definition (parent : Option String) (f : Forest)
    (label : n.label = c.label ++ ".name") :
    reports uri parent [.mk c (.mk n [] :: f)] =
      ⟨n.text, Label.kind c.label.toList, parent, ⟨uri, c.span⟩⟩ ::
        reports uri (some n.text) f := by
  have names : Symbol.isNameOf c.label (.mk n []) = true := by
    simp [Symbol.isNameOf, CaptureTree.capture, label]
  simp [reports, Symbol.ofTrees, Symbol.ofTree, Symbol.ofChildren, names, Symbol.walkAllUnder,
    Symbol.walkUnder, NamedSymbol.ofOutline, Symbol.name, Symbol.kind, Symbol.range,
    CaptureTree.capture]

/-- What a search reports of trees that come after the open definitions: each goes under the
innermost definition that contains it and all trees before it. -/
def reported (uri : String) : List OpenDefinition → Forest → List NamedSymbol
  | [], f => reports uri none f
  | d :: ds, f =>
    let inside (t : CaptureTree) : Bool := d.capture.span.Contains t.capture.span
    reports uri d.name (f.takeWhile inside) ++ reported uri ds (f.dropWhile inside)

theorem reported_nil (ds : List OpenDefinition) : reported uri ds [] = [] := by
  induction ds with
  | nil => rfl
  | cons d ds ih => simp [reported, reports, Symbol.ofTrees, Symbol.walkAllUnder, ih]

/-- A tree closes the definitions that do not contain it and goes under the next one. -/
theorem reported_cons (ds : List OpenDefinition) (t : CaptureTree) (f : Forest) :
    reported uri ds (t :: f) =
      reports uri ((enclosing t.capture.span ds).head?.bind (·.name)) [t] ++
        reported uri (enclosing t.capture.span ds) f := by
  induction ds with
  | nil => exact reports_cons none t f
  | cons d ds ih =>
    by_cases inside : d.capture.span.Contains t.capture.span
    · have stays : enclosing t.capture.span (d :: ds) = d :: ds := by simp [enclosing, inside]
      rw [stays]
      simp only [reported, List.takeWhile_cons, List.dropWhile_cons, inside, decide_true, if_true]
      rw [reports_cons, List.append_assoc]
      rfl
    · have closed : enclosing t.capture.span (d :: ds) = enclosing t.capture.span ds := by
        simp [enclosing, inside]
      rw [closed, ← ih]
      simp [reported, reports, inside, Symbol.ofTrees, Symbol.walkAllUnder]

/-! ### A name by itself -/

theorem reported_name (apart : ∀ next ∈ cs.head?, ¬ c.span.Contains next.span) :
    reported uri ds (Forest.ofCaptures (c :: cs)) =
      ⟨c.text, Label.kind c.label.toList, (enclosing c.span ds).head?.bind (·.name),
          ⟨uri, c.span⟩⟩ ::
        reported uri (enclosing c.span ds) (Forest.ofCaptures cs) := by
  rw [Forest.ofCaptures_cons, Forest.cons_of_apart apart, reported_cons, CaptureTree.capture,
    reports_name]
  rfl

/-! ### A definition with its name -/

theorem reported_definition (label : n.label = c.label ++ ".name")
    (inside : c.span.Contains n.span) (apart : ∀ next ∈ cs.head?, ¬ n.span.Contains next.span) :
    reported uri ds (Forest.ofCaptures (c :: n :: cs)) =
      ⟨n.text, Label.kind c.label.toList, (enclosing c.span ds).head?.bind (·.name),
          ⟨uri, c.span⟩⟩ ::
        reported uri (⟨c, some n.text⟩ :: enclosing c.span ds) (Forest.ofCaptures cs) := by
  rw [Forest.ofCaptures_cons, Forest.ofCaptures_cons]
  -- the name comes first below its definition, with nothing below it
  rw [Forest.cons_of_apart apart, Forest.cons_of_inside inside, reported_cons,
    CaptureTree.capture, reports_definition _ _ label, List.cons_append]
  rfl

theorem namedFrom_definition (plain : Label.isName c.label.toList = false)
    (label : n.label = c.label ++ ".name") (inside : c.span.Contains n.span) :
    namedFrom uri ds false (c :: n :: cs) =
      ⟨n.text, Label.kind c.label.toList, (enclosing c.span ds).findSome? (·.name),
          ⟨uri, c.span⟩⟩ ::
        namedFrom uri (⟨c, some n.text⟩ :: enclosing c.span ds) false cs := by
  have letters : n.label.toList = c.label.toList ++ Label.nameSuffix := by
    rw [label, Label.toList_append_name]
  have name : Label.isName n.label.toList = true := by
    rw [letters, Label.isName_append_nameSuffix]
  have extend : Label.Extends n.label.toList c.label.toList := by
    rw [letters]
    exact Label.extends_append_nameSuffix _
  rw [namedFrom_open plain, namedFrom_owned name inside extend, letters,
    Label.kind_append_nameSuffix plain]

/-! ### All captures -/

/-- Among definitions that have names, the innermost gives the container. -/
theorem findSome?_name (named : ∀ d ∈ ds, d.name.isSome) :
    ds.findSome? (·.name) = ds.head?.bind (·.name) := by
  cases ds with
  | nil => rfl
  | cons d ds =>
    obtain ⟨name, hd⟩ := Option.isSome_iff_exists.1 (named d List.mem_cons_self)
    simp [hd]

theorem named_enclosing (named : ∀ d ∈ ds, d.name.isSome) (s : Span) :
    ∀ d ∈ enclosing s ds, d.name.isSome :=
  fun d hd => named d ((List.dropWhile_sublist _).subset hd)

/-- From any point on, a search finds what the forest of the captures to come holds. -/
theorem namedFrom_eq_reported : ∀ (cs : List Capture) (ds : List OpenDefinition),
    NamesFollow cs → (∀ d ∈ ds, d.name.isSome) →
      namedFrom uri ds false cs = reported uri ds (Forest.ofCaptures cs)
  | [], ds, _, _ => by rw [Forest.ofCaptures_nil, reported_nil, namedFrom]
  | c :: cs, ds, ⟨follows, apart, rest⟩, named => by
    have around := named_enclosing named c.span
    cases name : Label.isName c.label.toList with
    | true =>
      rw [namedFrom_unowned name (by simp), reported_name (apart name), findSome?_name around,
        namedFrom_eq_reported cs _ rest around]
    | false =>
      obtain ⟨n, hn, label, inside⟩ := follows name
      cases cs with
      | nil => cases hn
      | cons n' after =>
        obtain rfl : n' = n := Option.some.inj hn
        have named' : Label.isName n'.label.toList = true := by
          rw [label, Label.toList_append_name, Label.isName_append_nameSuffix]
        have opened : ∀ d ∈ (⟨c, some n'.text⟩ : OpenDefinition) :: enclosing c.span ds,
            d.name.isSome := List.forall_mem_cons.2 ⟨rfl, around⟩
        rw [namedFrom_definition name label inside,
          reported_definition label inside (rest.2.1 named'), findSome?_name around,
          namedFrom_eq_reported after _ rest.2.2 opened]

/-- **A search finds the symbols of the outline that match,** in the order of the outline, each with
its kind, its range and the name of its parent. -/
theorem matchingSymbols_eq_outline (uri query : String) {cs : List Capture}
    (follow : NamesFollow cs) :
    matchingSymbols uri query cs =
      ((Symbol.walkAllUnder none (outline cs)).filter fun (_, s) =>
          Fuzzy.fuzzyMatch query s.name).map
        (fun (container, s) => ⟨s.name, s.kind, container, ⟨uri, s.range⟩⟩) ∧
    (Symbol.walkAllUnder none (outline cs)).map (·.2) = Symbol.walkAll (outline cs) := by
  refine ⟨?_, Symbol.map_snd_walkAllUnder none _⟩
  rw [matchingSymbols, namedSymbols, namedFrom_eq_reported cs [] follow (by simp), reported,
    reports, List.filter_map]
  rfl

/-- A method in a class that has a second name. -/
theorem matchingSymbols_eq_outline_class :
    let capture (label : String) (start stop : Nat) (text : String) : Capture :=
      ⟨label, ⟨⟨0, start⟩, ⟨0, stop⟩⟩, text⟩
    let cs := [capture "definition.class" 0 40 "class foo ...",
      capture "definition.class.name" 6 9 "foo", capture "definition.class.name" 10 13 "baz",
      capture "definition.method" 14 30 "bar() ...", capture "definition.method.name" 16 19 "bar"]
    NamesFollow cs ∧ matchingSymbols "file:///m.ts" "b" cs = [
      ⟨"baz", .class, some "foo", ⟨"file:///m.ts", ⟨⟨0, 10⟩, ⟨0, 13⟩⟩⟩⟩,
      ⟨"bar", .method, some "foo", ⟨"file:///m.ts", ⟨⟨0, 14⟩, ⟨0, 30⟩⟩⟩⟩] := by
  intro capture cs
  have follow : NamesFollow cs := by decide +kernel
  refine ⟨follow, ?_⟩
  rw [(matchingSymbols_eq_outline "file:///m.ts" "b" follow).1]
  decide +kernel

end CodeIndex
