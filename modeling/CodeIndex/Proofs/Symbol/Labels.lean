import CodeIndex.Proofs.Unicode.Case
import CodeIndex.Symbol.Kind
import Mathlib.Data.List.Basic

/-!
# Labels and the kinds they give

A label gives a kind by one word. In front of the word there may be a role, and behind it the suffix
of a name.

**Theorem (`labels_agree`).** The label of a name gives the kind that the label of its definition
gives. A word without a dot gives the kind that it names, in any case, alone or behind a role. What
gives no kind for a usage gives a variable for a definition.

The suffix and the role are dropped once each, and a role that stands alone names nothing. So a word
like `name` or `usage` may fall away with what stands around it. It does not matter, for no kind is
called so (`ofWord?_of_lost`).
-/

namespace CodeIndex.Label

open SymbolKind (lowerAscii ofWord?)

variable {label w w' r : List Char} {k : SymbolKind}

/-! ## Words -/

theorem ofWord?_congr (same : lowerAscii w' = lowerAscii w) : ofWord? w' = ofWord? w := by
  simp only [ofWord?, same]

theorem dot_mem_lowerAscii (w : List Char) : '.' ∈ lowerAscii w ↔ '.' ∈ w := by
  have kept : ∀ c : Char, c.toLower = '.' ↔ c = '.' := fun c => by
    by_cases capital : c.val ≥ 'A'.val ∧ c.val ≤ 'Z'.val
    · have low : 65 ≤ c.toNat := UInt32.le_iff_toNat_le.1 capital.1
      have code := Unicode.toNat_toLower capital
      have dot : '.'.toNat = 46 := rfl
      constructor <;> intro h
      · rw [h] at code
        omega
      · rw [h] at low
        omega
    · rw [show c.toLower = c from dif_neg capital]
  simp [lowerAscii, kept]

/-- What may fall away in a label is the word of no kind. -/
theorem ofWord?_of_lost (lost : w = [] ∨ w = "name".toList ∨ w ∈ roles) : ofWord? w = none := by
  have none_of : ∀ w ∈ [] :: "name".toList :: roles, ofWord? w = none := by decide
  exact none_of w (by simpa using lost)

theorem ofWord?_eq_some_iff : ofWord? w = some k ↔ lowerAscii w = k.word := by
  have known : ∀ k, k ∈ SymbolKind.all := fun k => by cases k <;> decide
  have apart : ∀ k ∈ SymbolKind.all, SymbolKind.all.find? (·.word = k.word) = some k := by decide
  constructor
  · intro found
    have spelled := List.find?_some found
    exact (of_decide_eq_true spelled).symm
  · intro spelled
    rw [ofWord?, spelled]
    exact apart k (known k)

/-! ## Suffixes and roles -/

theorem dropSuffix_append (s t : List Char) : dropSuffix (s ++ t) t = s := by simp [dropSuffix]

theorem dropSuffix_of_not_suffix {s t : List Char} (h : ¬ t <:+ s) : dropSuffix s t = s := by
  simp [dropSuffix, h]

/-- What follows the suffix of a name falls away before anything else is looked at. -/
theorem kindWord_append_nameSuffix (plain : ¬ nameSuffix <:+ label) :
    kindWord (label ++ nameSuffix) = kindWord label := by
  simp only [kindWord, dropSuffix_append, dropSuffix_of_not_suffix plain]

theorem not_nameSuffix_of_plain (plain : '.' ∉ w) : ¬ nameSuffix <:+ w :=
  fun h => plain (h.subset (by decide))

/-- Behind a role, only the word `name` makes the suffix of a name. -/
theorem nameSuffix_suffix_iff (hr : '.' ∉ r) (plain : '.' ∉ w) :
    nameSuffix <:+ r ++ '.' :: w ↔ w = "name".toList := by
  constructor
  · rintro ⟨front, h⟩
    exact ((List.append_cons_inj_of_notMem hr plain).1 h.symm).2.2
  · rintro rfl
    exact List.suffix_append r nameSuffix

theorem undotted_role (hr : r ∈ roles) : '.' ∉ r := by
  have : ∀ r ∈ roles, '.' ∉ r := by decide
  exact this r hr

theorem dropPrefix?_of_plain (plain : '.' ∉ w) (r : List Char) :
    dropPrefix? w (r ++ ['.']) = none := by
  have : ¬ r ++ ['.'] <+: w := fun h => plain (h.subset (by simp))
  simp [dropPrefix?, this]

theorem takeWhile_dotted (plain : '.' ∉ w) (more : List Char) :
    (w ++ '.' :: more).takeWhile (· ≠ '.') = w := by
  have all : ∀ c ∈ w, decide (c ≠ '.') = true := fun c hc => by
    simpa using ne_of_mem_of_not_mem hc plain
  rw [List.takeWhile_append_of_pos all, List.takeWhile_cons_of_neg (by simp), List.append_nil]

/-- Of two roles, only the one that the label begins with can be dropped. -/
theorem dropPrefix?_role {r' : List Char} (hr : '.' ∉ r) (hr' : '.' ∉ r') (w : List Char) :
    dropPrefix? (r ++ '.' :: w) (r' ++ ['.']) = if r' = r then some w else none := by
  by_cases same : r' = r
  · subst same
    simp [dropPrefix?]
  · have : ¬ r' ++ ['.'] <+: r ++ '.' :: w := by
      rintro ⟨rest, h⟩
      have front := congrArg (List.takeWhile (· ≠ '.')) h
      rw [List.append_assoc, List.singleton_append, takeWhile_dotted hr', takeWhile_dotted hr]
        at front
      exact same front
    simp [dropPrefix?, this, same]

theorem rest_of_role (hr : r ∈ roles) (w : List Char) :
    (roles.findSome? fun r' => dropPrefix? (r ++ '.' :: w) (r' ++ ['.'])).getD (r ++ '.' :: w) =
      w := by
  have dropped : ∀ r' ∈ roles, dropPrefix? (r ++ '.' :: w) (r' ++ ['.']) =
      if r' = r then some w else none := fun r' hr' =>
    dropPrefix?_role (undotted_role hr) (undotted_role hr') w
  cases found : roles.findSome? fun r' => dropPrefix? (r ++ '.' :: w) (r' ++ ['.']) with
  | none =>
    have := List.findSome?_eq_none_iff.1 found r hr
    rw [dropped r hr, if_pos rfl] at this
    cases this
  | some rest =>
    obtain ⟨r', hr', this⟩ := List.exists_of_findSome?_eq_some found
    rw [dropped r' hr'] at this
    exact ((Option.ite_none_right_eq_some.1 this).2).symm ▸ rfl

theorem rest_of_plain (plain : '.' ∉ w) :
    (roles.findSome? fun r => dropPrefix? w (r ++ ['.'])).getD w = w := by
  simp only [dropPrefix?_of_plain plain, roles, List.findSome?_cons, List.findSome?_nil,
    Option.getD_none]

/-! ## The kind of a word -/

/-- A label whose word is `w`, or has fallen away as the word of no kind. -/
theorem usageKind?_of_kindWord
    (h : kindWord label = w ∨ kindWord label = [] ∧ ofWord? w = none) :
    usageKind? label = ofWord? w := by
  rcases h with h | ⟨h, none⟩
  · rw [usageKind?, h]
  · rw [usageKind?, h, none]
    exact ofWord?_of_lost (Or.inl rfl)

theorem usageKind?_of_plain (plain : '.' ∉ w) : usageKind? w = ofWord? w := by
  apply usageKind?_of_kindWord
  simp only [kindWord, dropSuffix_of_not_suffix (not_nameSuffix_of_plain plain),
    rest_of_plain plain]
  by_cases role : w ∈ roles
  · exact Or.inr ⟨by simp [role], ofWord?_of_lost (Or.inr (Or.inr role))⟩
  · exact Or.inl (by simp [role])

theorem usageKind?_of_role (hr : r ∈ roles) (plain : '.' ∉ w) :
    usageKind? (r ++ '.' :: w) = ofWord? w := by
  apply usageKind?_of_kindWord
  by_cases name : w = "name".toList
  · -- the word is taken for the suffix of a name, and the role is left alone
    subst name
    have bare : dropSuffix (r ++ '.' :: "name".toList) nameSuffix = r :=
      dropSuffix_append r nameSuffix
    refine Or.inr ⟨?_, ofWord?_of_lost (Or.inr (Or.inl rfl))⟩
    simp only [kindWord, bare, rest_of_plain (undotted_role hr)]
    simp [hr]
  · have whole : dropSuffix (r ++ '.' :: w) nameSuffix = r ++ '.' :: w :=
      dropSuffix_of_not_suffix (mt (nameSuffix_suffix_iff (undotted_role hr) plain).1 name)
    simp only [kindWord, whole, rest_of_role hr]
    by_cases role : w ∈ roles
    · exact Or.inr ⟨by simp [role], ofWord?_of_lost (Or.inr (Or.inr role))⟩
    · exact Or.inl (by simp [role])

/-- **A name is of the kind of its definition; a word gives the kind that it spells in any case,
alone or behind a role; and a definition whose label tells no kind is a variable.** -/
theorem labels_agree :
    (∀ label, ¬ ".name".toList <:+ label →
      kind (label ++ ".name".toList) = kind label ∧
        usageKind? (label ++ ".name".toList) = usageKind? label) ∧
    (∀ w w', '.' ∉ w → lowerAscii w' = lowerAscii w →
      usageKind? w' = usageKind? w ∧
        usageKind? ("definition.".toList ++ w') = usageKind? w ∧
        usageKind? ("usage.".toList ++ w') = usageKind? w ∧
        ∀ k, usageKind? w = some k ↔ lowerAscii w = k.word) ∧
    ∀ label, kind label = (usageKind? label).getD .variable := by
  refine ⟨fun label plain => ?_, fun w w' plain same => ?_, fun label => rfl⟩
  · have word := kindWord_append_nameSuffix plain
    have usage : usageKind? (label ++ ".name".toList) = usageKind? label := congrArg ofWord? word
    exact ⟨by rw [kind, usage, kind], usage⟩
  · have plain' : '.' ∉ w' := by rwa [← dot_mem_lowerAscii, same, dot_mem_lowerAscii]
    have given := ofWord?_congr same
    rw [usageKind?_of_plain plain]
    refine ⟨(usageKind?_of_plain plain').trans given, ?_, ?_, fun k => ofWord?_eq_some_iff⟩
    · exact (usageKind?_of_role (r := "definition".toList) (by decide) plain').trans given
    · exact (usageKind?_of_role (r := "usage".toList) (by decide) plain').trans given

/-- A class and its name, and a word that is written in another case. -/
theorem labels_agree_class :
    ¬ ".name".toList <:+ "definition.class".toList ∧
      kind ("definition.class".toList ++ ".name".toList) = .class ∧
      '.' ∉ "typeParameter".toList ∧
      lowerAscii "TYPEPARAMETER".toList = lowerAscii "typeParameter".toList ∧
      usageKind? ("usage.".toList ++ "TYPEPARAMETER".toList) = some .typeParameter := by
  have plain : ¬ ".name".toList <:+ "definition.class".toList := by decide
  have undotted : '.' ∉ "typeParameter".toList := by decide
  have same : lowerAscii "TYPEPARAMETER".toList = lowerAscii "typeParameter".toList := by decide
  obtain ⟨-, -, behind, spelled⟩ := labels_agree.2.1 _ _ undotted same
  refine ⟨plain, (labels_agree.1 _ plain).1.trans (by decide), undotted, same, behind.trans ?_⟩
  exact (spelled .typeParameter).2 (by decide)

/-- Where the suffix of a name is all that stands behind a role, the role names nothing either. -/
example : kindWord "definition.name".toList = [] ∧ kindWord "name".toList = "name".toList := by
  decide

end CodeIndex.Label
