import CodeIndex.Proofs.Symbol.Named
import CodeIndex.Proofs.Symbol.Nesting
import Mathlib.Order.Fin.Basic

/-!
# Owners and containers

A symbol search goes through the captures once. It keeps the definitions that are still open and
writes down names as it meets them. Where the captures are in document order, what it reports of a
name can be told from the name's position alone.

**Theorem (`matchingSymbols_eq_map`).** One symbol is reported for each name that matches. It is
located at the definition right before the name if that one owns it (`Owns`), and else at the name.
Its container is the name of the innermost definition around it that owns a name, its owner left out
(`containerOf`). The definitions around it are all those before it that contain it (`Encloses`).

The proof follows a walk through the positions. Those behind it, the last first, determine the open
definitions: they are the ones that contain the last capture (`openAt`). What contains a capture
contains all captures between (`Arranged.contains_between`), so at the next capture the search
closes just those that do not contain that one, and none that is closed would be needed later.
-/

namespace CodeIndex

open Syntax (Capture)

/-! ## Owners and containers by position -/

section

variable (cs : List Capture)

/-- The definition at `j` comes before the capture at `i` and contains it. -/
def Encloses (j i : Fin cs.length) : Prop :=
  j < i ∧ Label.isName cs[j].label.toList = false ∧ cs[j].span.Contains cs[i].span

instance (j i : Fin cs.length) : Decidable (Encloses cs j i) :=
  inferInstanceAs (Decidable (_ ∧ _ ∧ _))

/-- The definition at `j` owns the name at `i`: it encloses it and comes right before it, and the
label of the name extends its own. -/
def Owns (j i : Fin cs.length) : Prop :=
  Encloses cs j i ∧ j.val + 1 = i ∧ Label.isName cs[i].label.toList = true ∧
    Label.Extends cs[i].label.toList cs[j].label.toList

instance (j i : Fin cs.length) : Decidable (Owns cs j i) :=
  inferInstanceAs (Decidable (_ ∧ _ ∧ _ ∧ _))

/-- The definition that owns the name at `i`. -/
def ownerOf (i : Fin cs.length) : Option (Fin cs.length) :=
  (List.finRange cs.length).find? fun j => Owns cs j i

/-- The name that the definition at `j` owns. -/
def ownedName (j : Fin cs.length) : Option String :=
  ((List.finRange cs.length).find? fun i => Owns cs j i).map (cs[·].text)

/-- The name of the innermost definition around the capture at `i` that owns a name, its owner left
out. As definitions around a capture are nested in one another, the innermost is the last. -/
def containerOf (i : Fin cs.length) : Option String :=
  ((List.finRange cs.length).reverse.filter fun j => Encloses cs j i ∧ ¬ Owns cs j i).findSome?
    (ownedName cs)

/-- The name at `i` as a symbol: located at its owner, or at itself if it has none. -/
def symbolAt (uri : String) (i : Fin cs.length) : NamedSymbol :=
  ⟨cs[i].text, Label.kind cs[i].label.toList, containerOf cs i,
    ⟨uri, ((ownerOf cs i).map (cs[·].span)).getD cs[i].span⟩⟩

end

/-! ## Positions -/

section

variable {n : Nat} {before rest : List (Fin n)} {i : Fin n}

theorem mem_behind (walk : before.reverse ++ i :: rest = List.finRange n) (j : Fin n) :
    j ∈ before ↔ j < i := by
  have ascending := walk ▸ List.pairwise_lt_finRange n
  obtain ⟨-, ahead, order⟩ := List.pairwise_append.1 ascending
  constructor
  · exact fun hj => order j (List.mem_reverse.2 hj) i List.mem_cons_self
  · intro hj
    rcases List.mem_append.1 (walk ▸ List.mem_finRange j) with behind | ahead'
    · exact List.mem_reverse.1 behind
    · rcases List.mem_cons.1 ahead' with rfl | later
      · exact absurd hj (lt_irrefl _)
      · exact absurd (List.rel_of_pairwise_cons ahead later) (lt_asymm hj)

theorem descending_behind (walk : before.reverse ++ i :: rest = List.finRange n) :
    before.Pairwise (· > ·) := by
  have ascending := walk ▸ List.pairwise_lt_finRange n
  exact List.pairwise_reverse.1 (List.pairwise_append.1 ascending).1

theorem head?_behind (walk : before.reverse ++ i :: rest = List.finRange n) (k : Fin n) :
    before.head? = some k ↔ k.val + 1 = i := by
  have members := mem_behind walk
  have order := descending_behind walk
  cases before with
  | nil =>
    have first : ¬ k < i := fun hk => by simpa using (members k).2 hk
    simp only [List.head?_nil, reduceCtorEq, false_iff]
    exact fun next => first (Fin.lt_def.2 (by omega))
  | cons a l =>
    have last : a < i := (members a).1 List.mem_cons_self
    have greatest : ∀ j, j < i → j ≤ a := fun j hj => by
      rcases List.mem_cons.1 ((members j).2 hj) with rfl | hj
      · exact le_refl _
      · exact le_of_lt (List.rel_of_pairwise_cons order hj)
    rw [List.head?_cons, Option.some_inj]
    constructor
    · rintro rfl
      have bound := greatest ⟨i.val - 1, by omega⟩
      simp only [Fin.lt_def, Fin.le_def] at bound last
      omega
    · intro next
      have bound := greatest k (Fin.lt_def.2 (by omega))
      simp only [Fin.lt_def, Fin.le_def] at bound last
      exact Fin.ext (by omega)

theorem filter_reverse_finRange (walk : before.reverse ++ i :: rest = List.finRange n)
    {p : Fin n → Bool} (earlier : ∀ j, p j → j < i) :
    (List.finRange n).reverse.filter p = before.filter p := by
  have ascending := walk ▸ List.pairwise_lt_finRange n
  have ahead := (List.pairwise_append.1 ascending).2.1
  have none : (rest.reverse ++ [i]).filter p = [] := by
    refine List.filter_eq_nil_iff.2 fun j hj met => ?_
    have before := earlier j met
    rw [List.mem_append, List.mem_reverse, List.mem_singleton] at hj
    rcases hj with later | rfl
    · exact lt_asymm before (List.rel_of_pairwise_cons ahead later)
    · exact lt_irrefl _ before
  rw [← walk, List.reverse_append, List.reverse_reverse, List.reverse_cons, List.filter_append,
    none, List.nil_append]

theorem find?_finRange {p : Fin n → Bool} (found : p i) (unique : ∀ j, p j → j = i) :
    (List.finRange n).find? p = some i := by
  cases h : (List.finRange n).find? p with
  | none => exact absurd found (List.find?_eq_none.1 h i (List.mem_finRange i))
  | some j => rw [unique j (List.find?_some h)]

end

/-- Where a test holds of all behind the first that it holds of, dropping and choosing are one. -/
theorem dropWhile_not_eq_filter {α : Type} {p : α → Bool} {l : List α}
    (lasting : l.Pairwise fun a b => p a → p b) : l.dropWhile (!p ·) = l.filter p := by
  induction l with
  | nil => rfl
  | cons a l ih =>
    obtain ⟨first, lasting⟩ := List.pairwise_cons.1 lasting
    cases met : p a with
    | false => simpa [met] using ih lasting
    | true =>
      have all : l.filter p = l := List.filter_eq_self.2 fun b hb => first b hb met
      simp [met, all]

/-! ## The open definitions -/

section

variable {cs : List Capture}

/-- A definition that contains a capture contains all captures between. -/
theorem Arranged.contains_between (h : Arranged cs) {j k i : Fin cs.length} (hjk : j ≤ k)
    (hki : k ≤ i) (inside : cs[j].span.Contains cs[i].span) : cs[j].span.Contains cs[k].span := by
  rcases eq_or_lt_of_le hjk with rfl | hjk
  · exact Span.contains_refl _
  rcases eq_or_lt_of_le hki with rfl | hki
  · exact inside
  have placed := List.pairwise_iff_getElem.1 h.contains_or_before j k j.2 k.2 hjk
  refine placed.resolve_right fun before => ?_
  have order := start_le_of_before (List.pairwise_iff_getElem.1 h.ordered k i k.2 i.2 hki)
  have after : cs[j].span.Before cs[i].span := Position.le_trans before order
  exact after.not_contains (h.nonempty _ (List.getElem_mem i.2)) inside

variable (cs)

/-- The definition at `j`, called by the name that it owns. -/
def called (j : Fin cs.length) : OpenDefinition := ⟨cs[j], ownedName cs j⟩

/-- The open definition at `j` where the positions behind are `before`. The last one has not met its
name. -/
def opened (before : List (Fin cs.length)) (j : Fin cs.length) : OpenDefinition :=
  if before.head? = some j then { capture := cs[j] } else called cs j

/-- The definitions that are open where the positions behind are `before`: those that contain the
last capture, which may be one of them. -/
def openAt (before : List (Fin cs.length)) : List OpenDefinition :=
  (before.filter fun j => Label.isName cs[j].label.toList = false ∧
    ∀ k ∈ before.head?, cs[j].span.Contains cs[k].span).map (opened cs before)

/-- The last capture is a definition. -/
def metDefinition (before : List (Fin cs.length)) : Bool :=
  before.head?.any fun k => !Label.isName cs[k].label.toList

variable {cs} {before rest : List (Fin cs.length)} {i : Fin cs.length}

theorem capture_opened (j : Fin cs.length) : (opened cs before j).capture = cs[j] := by
  unfold opened called
  split <;> rfl

/-- At the next capture those stay open that contain it. What contains it contains all since. -/
theorem enclosing_openAt (h : Arranged cs)
    (walk : before.reverse ++ i :: rest = List.finRange cs.length) :
    enclosing cs[i].span (openAt cs before) =
      (before.filter fun j => Encloses cs j i).map (opened cs before) := by
  have order := descending_behind walk
  have behind : ∀ j ∈ before, j < i := fun j => (mem_behind walk j).1
  have last : ∀ j ∈ before, ∀ k ∈ before.head?, j ≤ k ∧ k < i := fun j hj k hk => by
    have next := (head?_behind walk k).1 hk
    have earlier := behind j hj
    simp only [Fin.lt_def, Fin.le_def] at *
    omega
  have outside : (fun d : OpenDefinition => !decide (d.capture.span.Contains cs[i].span)) ∘
      opened cs before = fun j => !decide (cs[j].span.Contains cs[i].span) := by
    funext j
    rw [Function.comp_apply, capture_opened]
  rw [enclosing, openAt, List.dropWhile_map, outside, dropWhile_not_eq_filter, List.filter_filter]
  · refine congrArg (List.map _) (List.filter_congr fun j hj => ?_)
    have between : cs[j].span.Contains cs[i].span →
        ∀ k ∈ before.head?, cs[j].span.Contains cs[k].span := fun inside k hk =>
      h.contains_between (last j hj k hk).1 (le_of_lt (last j hj k hk).2) inside
    rw [← Bool.decide_and, decide_eq_decide]
    constructor
    · rintro ⟨inside, plain, -⟩
      exact ⟨behind j hj, plain, inside⟩
    · rintro ⟨-, plain, inside⟩
      exact ⟨inside, plain, between inside⟩
  · -- of two open definitions the outer one contains the inner one
    refine (order.filter _).imp_of_mem fun {a b} ha hb later inside => ?_
    obtain ⟨ha, -⟩ := List.mem_filter.1 ha
    obtain ⟨-, hb⟩ := List.mem_filter.1 hb
    obtain ⟨k, hk⟩ := Option.isSome_iff_exists.1 (List.isSome_head?.2 (List.ne_nil_of_mem ha))
    have around := (of_decide_eq_true hb).2 k hk
    have nested := h.contains_between (le_of_lt later) (last a ha k hk).1 around
    exact decide_eq_true (nested.trans (of_decide_eq_true inside))

/-! ### Owners -/

theorem Owns.unique_owner {j k : Fin cs.length} (h : Owns cs j i) (h' : Owns cs k i) : j = k := by
  have next := h.2.1
  have next' := h'.2.1
  omega

theorem Owns.unique_name {j i' : Fin cs.length} (h : Owns cs j i) (h' : Owns cs j i') : i' = i := by
  have next := h.2.1
  have next' := h'.2.1
  omega

theorem ownerOf_eq {j : Fin cs.length} (h : Owns cs j i) : ownerOf cs i = some j :=
  find?_finRange (decide_eq_true h) fun _ h' => (of_decide_eq_true h' : Owns cs _ i).unique_owner h

theorem ownerOf_eq_none (h : ∀ j, ¬ Owns cs j i) : ownerOf cs i = none :=
  List.find?_eq_none.2 fun j _ => by simpa using h j

theorem ownedName_eq {j : Fin cs.length} (h : Owns cs j i) : ownedName cs j = some cs[i].text := by
  rw [ownedName, find?_finRange (decide_eq_true h) fun _ h' => h.unique_name (of_decide_eq_true h'),
    Option.map_some]

theorem ownedName_eq_none {j : Fin cs.length} (h : ∀ i, ¬ Owns cs j i) : ownedName cs j = none := by
  rw [ownedName, Option.map_eq_none_iff]
  exact List.find?_eq_none.2 fun i _ => by simpa using h i

/-! ### One more capture -/

theorem opened_of_unowned (walk : before.reverse ++ i :: rest = List.finRange cs.length)
    (unowned : ∀ j, ¬ Owns cs j i) : opened cs before = called cs := by
  funext j
  unfold opened
  split
  · rename_i last
    have none : ownedName cs j = none := ownedName_eq_none fun i' h => by
      have next := (head?_behind walk j).1 last
      obtain rfl : i' = i := Fin.ext (h.2.1.symm.trans next)
      exact unowned j h
    rw [called, none]
  · rfl

theorem containerOf_eq (walk : before.reverse ++ i :: rest = List.finRange cs.length) :
    containerOf cs i =
      (before.filter fun j => Encloses cs j i ∧ ¬ Owns cs j i).findSome? (ownedName cs) := by
  rw [containerOf, filter_reverse_finRange walk]
  exact fun j hj => (of_decide_eq_true hj).1.1

theorem openAt_cons (walk : before.reverse ++ i :: rest = List.finRange cs.length) :
    openAt cs (i :: before) =
      (if Label.isName cs[i].label.toList then [] else [{ capture := cs[i] }]) ++
        (before.filter fun j => Encloses cs j i).map (called cs) := by
  have behind : ∀ j ∈ before, j < i := fun j => (mem_behind walk j).1
  have others : before.filter (fun j => Label.isName cs[j].label.toList = false ∧
      ∀ k ∈ (i :: before).head?, cs[j].span.Contains cs[k].span) =
        before.filter fun j => Encloses cs j i :=
    List.filter_congr fun j hj => by simp [Encloses, behind j hj]
  have names : (before.filter fun j => Encloses cs j i).map (opened cs (i :: before)) =
      (before.filter fun j => Encloses cs j i).map (called cs) :=
    List.map_congr_left fun j hj => by
      have apart : i ≠ j := (behind j (List.mem_filter.1 hj).1).ne'
      exact if_neg fun same => apart (Option.some.inj same)
  rw [openAt, List.filter_cons, others]
  cases name : Label.isName cs[i].label.toList with
  | true => simp [names]
  | false => simp [names, opened, Span.contains_refl]

theorem metDefinition_cons :
    metDefinition cs (i :: before) = !Label.isName cs[i].label.toList := rfl

/-- The position right before, with what is open there if it is a definition. -/
theorem openAt_of_next {k : Fin cs.length}
    (walk : before.reverse ++ i :: rest = List.finRange cs.length) (next : k.val + 1 = i)
    (plain : Label.isName cs[k].label.toList = false) :
    ∃ earlier, before = k :: earlier ∧
      openAt cs before =
        { capture := cs[k] } :: (earlier.filter fun j => Encloses cs j k).map (called cs) := by
  have last := (head?_behind walk k).2 next
  cases before with
  | nil => cases last
  | cons k' earlier =>
    obtain rfl : k' = k := Option.some.inj last
    rw [List.reverse_cons, List.append_assoc, List.singleton_append] at walk
    exact ⟨earlier, rfl, by rw [openAt_cons walk, plain]; rfl⟩

theorem namedFrom_definition_at (h : Arranged cs) (uri : String) (tail : List Capture)
    (walk : before.reverse ++ i :: rest = List.finRange cs.length)
    (plain : Label.isName cs[i].label.toList = false) :
    namedFrom uri (openAt cs before) (metDefinition cs before) (cs[i] :: tail) =
      namedFrom uri (openAt cs (i :: before)) (metDefinition cs (i :: before)) tail := by
  have unowned : ∀ j, ¬ Owns cs j i := fun j owns =>
    Bool.false_ne_true (plain.symm.trans owns.2.2.1)
  rw [namedFrom_open plain, enclosing_openAt h walk, opened_of_unowned walk unowned,
    openAt_cons walk, metDefinition_cons, plain]
  rfl

theorem namedFrom_unowned_at (h : Arranged cs) (uri : String) (tail : List Capture)
    (walk : before.reverse ++ i :: rest = List.finRange cs.length)
    (name : Label.isName cs[i].label.toList = true) (unowned : ∀ j, ¬ Owns cs j i) :
    namedFrom uri (openAt cs before) (metDefinition cs before) (cs[i] :: tail) =
      symbolAt cs uri i ::
        namedFrom uri (openAt cs (i :: before)) (metDefinition cs (i :: before)) tail := by
  have apart : metDefinition cs before = true → ∀ d ∈ (openAt cs before).head?,
      d.capture.span.Contains cs[i].span →
        ¬ Label.Extends cs[i].label.toList d.capture.label.toList := by
    intro met d innermost inside extend
    obtain ⟨k, last, plain⟩ := (Option.any_eq_true ..).1 met
    rw [Bool.not_eq_true'] at plain
    have next := (head?_behind walk k).1 last
    obtain ⟨earlier, -, around⟩ := openAt_of_next walk next plain
    obtain rfl : { capture := cs[k] } = d := by simpa [around] using innermost
    exact unowned k ⟨⟨Fin.lt_def.2 (by omega), plain, inside⟩, next, name, extend⟩
  have container : containerOf cs i =
      ((before.filter fun j => Encloses cs j i).map (called cs)).findSome? (·.name) := by
    rw [containerOf_eq walk, List.findSome?_map]
    simp only [unowned, not_false_eq_true, and_true]
    rfl
  rw [namedFrom_unowned name apart, enclosing_openAt h walk, opened_of_unowned walk unowned,
    openAt_cons walk, metDefinition_cons, name, symbolAt, container, ownerOf_eq_none unowned]
  rfl

theorem namedFrom_owned_at (h : Arranged cs) (uri : String) (tail : List Capture)
    (walk : before.reverse ++ i :: rest = List.finRange cs.length) {k : Fin cs.length}
    (owns : Owns cs k i) :
    namedFrom uri (openAt cs before) (metDefinition cs before) (cs[i] :: tail) =
      symbolAt cs uri i ::
        namedFrom uri (openAt cs (i :: before)) (metDefinition cs (i :: before)) tail := by
  have reported := ownerOf_eq owns
  have owned := ownedName_eq owns
  obtain ⟨⟨behind, plain, inside⟩, next, name, extend⟩ := id owns
  obtain ⟨earlier, rfl, around⟩ := openAt_of_next walk next plain
  have lower : ∀ j ∈ earlier, j < k := fun j hj =>
    List.rel_of_pairwise_cons (descending_behind walk) hj
  -- what encloses the owner encloses its name, and the other way round
  have same :
      earlier.filter (fun j => Encloses cs j k) = earlier.filter (fun j => Encloses cs j i) :=
    List.filter_congr fun j hj => decide_eq_decide.2
      ⟨fun ⟨_, plain, outside⟩ => ⟨(lower j hj).trans behind, plain, outside.trans inside⟩,
        fun ⟨_, plain, outside⟩ => ⟨lower j hj, plain,
          h.contains_between (le_of_lt (lower j hj)) (le_of_lt behind) outside⟩⟩
  have container : containerOf cs i =
      ((earlier.filter fun j => Encloses cs j i).map (called cs)).findSome? (·.name) := by
    have others : earlier.filter (fun j => Encloses cs j i ∧ ¬ Owns cs j i) =
        earlier.filter fun j => Encloses cs j i :=
      List.filter_congr fun j hj => decide_eq_decide.2
        (and_iff_left fun owns' => (lower j hj).ne (owns'.unique_owner owns))
    rw [containerOf_eq walk, List.filter_cons_of_neg (by simpa using fun _ => owns), others,
      List.findSome?_map]
    rfl
  have outward : (k :: earlier).filter (fun j => Encloses cs j i) =
      k :: earlier.filter fun j => Encloses cs j i :=
    List.filter_cons_of_pos (decide_eq_true ⟨behind, plain, inside⟩)
  rw [around, metDefinition_cons, plain, Bool.not_false, namedFrom_owned name inside extend, same,
    openAt_cons walk, outward, metDefinition_cons, name, symbolAt, container, reported,
    List.map_cons, called, owned]
  rfl

end

/-! ## All captures -/

/-- From any point on, a search finds the symbols at the positions of the names to come. -/
theorem namedFrom_eq_map {cs : List Capture} (h : Arranged cs) (uri : String)
    (rest before : List (Fin cs.length)) (walk : before.reverse ++ rest = List.finRange cs.length) :
    namedFrom uri (openAt cs before) (metDefinition cs before) (rest.map (cs[·])) =
      (rest.filter fun i => Label.isName cs[i].label.toList).map (symbolAt cs uri) := by
  induction rest generalizing before with
  | nil => rw [List.map_nil, namedFrom, List.filter_nil, List.map_nil]
  | cons i rest ih =>
    have further : (i :: before).reverse ++ rest = List.finRange cs.length := by
      rw [List.reverse_cons, List.append_assoc, List.singleton_append, walk]
    rw [List.map_cons, List.filter_cons]
    cases name : Label.isName cs[i].label.toList with
    | false => rw [namedFrom_definition_at h uri _ walk name, ih _ further]; rfl
    | true =>
      have found : namedFrom uri (openAt cs before) (metDefinition cs before)
          (cs[i] :: rest.map (cs[·])) = symbolAt cs uri i ::
            namedFrom uri (openAt cs (i :: before)) (metDefinition cs (i :: before))
              (rest.map (cs[·])) := by
        by_cases owned : ∃ k, Owns cs k i
        · exact namedFrom_owned_at h uri _ walk owned.choose_spec
        · exact namedFrom_unowned_at h uri _ walk name (not_exists.1 owned)
      rw [found, ih _ further]
      rfl

/-- **A search reports each name that matches, in order.** It is located at its owner, or at itself
if it has none, and its container is the name of the last definition around it, its owner left out,
that owns a name (`symbolAt`). Of two definitions around a capture the later lies in the earlier, so
the last is the innermost. The query tells which names are reported, and has no part in what is
reported of them. -/
theorem matchingSymbols_eq_map {cs : List Capture} (arranged : Arranged cs) (uri query : String) :
    matchingSymbols uri query cs =
        ((List.finRange cs.length).filter fun i =>
          Label.isName cs[i].label.toList && Fuzzy.fuzzyMatch query cs[i].text).map
            (symbolAt cs uri) ∧
      ∀ i j k, Encloses cs j i → Encloses cs k i → j ≤ k → cs[j].span.Contains cs[k].span := by
  constructor
  · have listed : (List.finRange cs.length).map (cs[·]) = cs := List.map_getElem_finRange cs
    have all := namedFrom_eq_map arranged uri (List.finRange cs.length) [] rfl
    rw [listed] at all
    rw [matchingSymbols, namedSymbols, show namedFrom uri [] false cs = _ from all, List.filter_map,
      List.filter_filter]
    exact congrArg (List.map _) (List.filter_congr fun i _ => Bool.and_comm _ _)
  · intro i j k outer inner earlier
    exact arranged.contains_between earlier (le_of_lt inner.1) outer.2.2

/-- A method with two names in an object without a name, in a class. The first name has an owner and
skips the object; the second has none, and the method is its container. -/
theorem matchingSymbols_eq_map_object :
    let capture (label : String) (start stop : Nat) (text : String) : Capture :=
      ⟨label, ⟨⟨0, start⟩, ⟨0, stop⟩⟩, text⟩
    let cs := [capture "definition.class" 0 40 "class foo ...",
      capture "definition.class.name" 6 9 "foo", capture "definition.object" 12 38 "object",
      capture "definition.method" 14 30 "bar() ...", capture "definition.method.name" 16 19 "bar",
      capture "definition.method.name" 20 23 "baz"]
    Arranged cs ∧ matchingSymbols "file:///m.ts" "b" cs = [
      ⟨"bar", .method, some "foo", ⟨"file:///m.ts", ⟨⟨0, 14⟩, ⟨0, 30⟩⟩⟩⟩,
      ⟨"baz", .method, some "bar", ⟨"file:///m.ts", ⟨⟨0, 20⟩, ⟨0, 23⟩⟩⟩⟩] := by
  intro capture cs
  have arranged : Arranged cs := ⟨by decide +kernel, by decide +kernel, by decide +kernel⟩
  refine ⟨arranged, ?_⟩
  rw [(matchingSymbols_eq_map arranged "file:///m.ts" "b").1]
  decide +kernel

end CodeIndex
