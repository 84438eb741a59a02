import CodeIndex.Json.Printer
import CodeIndex.Proofs.Json.Texts

/-!
# What is written can be read

A value is written on one line. If its numbers are whole and fit in 64 bits, what is written is one
of the texts of the value.

**Theorem (`read?_compact`).** What is written of an exact value is read as this value.
-/

namespace CodeIndex.Json

/-- There are no numbers in the value but whole ones that fit in 64 bits. -/
inductive Exact : Json → Prop
  | null : Exact null
  | bool (b : Bool) : Exact (bool b)
  | int {n : Int} (low : -(Nat.pow 2 63 : Nat) ≤ n) (high : n < (Nat.pow 2 64 : Nat)) :
    Exact (int n)
  | str (s : String) : Exact (str s)
  | arr {xs : List Json} (items : ∀ x ∈ xs, Exact x) : Exact (arr xs)
  | obj {ms : List (String × Json)} (members : ∀ m ∈ ms, Exact m.2) : Exact (obj ms)

/-! ## Strings -/

theorem charsAs_escape (c : Char) {s cs : List Char} (tail : CharsAs s cs) :
    CharsAs (c :: s) (escape c ++ cs) := by
  unfold escape
  split
  case h_8 no_quote no_backslash _ _ _ _ _ =>
    split
    · rename_i control
      have digits : ∀ n < 0x20, hex4? '0' '0' (hexChar (n / 16)) (hexChar (n % 16)) = some n := by
        decide
      have no_half : ∀ n < 0x20, isHighHalf n = false ∧ isLowHalf n = false := by decide
      have no_half := no_half _ control
      have code := CharsAs.code (digits c.toNat control) no_half.1 no_half.2 tail
      rwa [Char.ofNat_toNat] at code
    · rename_i shown
      exact .plain (Nat.le_of_not_lt shown) no_quote no_backslash tail
  all_goals exact .short rfl tail

theorem charsAs_flatMap_escape (s : List Char) : CharsAs s (s.flatMap escape) := by
  induction s with
  | nil => exact .nil
  | cons c s ih => exact charsAs_escape c ih

theorem quotedAs_quote (s : String) : QuotedAs s (quote s).toList :=
  ⟨_, String.toList_ofList, charsAs_flatMap_escape s.toList⟩

/-! ## Whole numbers -/

theorem digits_toDigits (n : Nat) : Digits (Nat.toDigits 10 n) := by
  refine ⟨Nat.toDigits_ne_nil, fun d hd => ?_⟩
  have digit := Nat.isDigit_of_mem_toDigits (by decide) (by decide) hd
  simpa [isDigit, Char.isDigit, Char.le_def] using digit

theorem ofDigits_toDigits (n : Nat) : ofDigits (digitsOf (Nat.toDigits 10 n)) = n := by
  have same := Nat.ofDigitChars_ten_toDigits (n := n)
  rw [Nat.ofDigitChars_eq_foldl] at same
  rw [ofDigits, digitsOf, List.foldl_map]
  simpa [Nat.mul_comm] using same

theorem head?_toDigits {n : Nat} (positive : 0 < n) : (Nat.toDigits 10 n).head? ≠ some '0' := by
  induction n using Nat.base_induction 10 (by decide) with
  | single m small =>
    rw [Nat.toDigits_of_lt_base small]
    have digit : ∀ m < 10, 0 < m → m.digitChar ≠ '0' := by decide
    simpa using digit m small positive
  | digit m k small more ih =>
    obtain ⟨d, ds, digits⟩ := List.exists_cons_of_ne_nil (Nat.toDigits_ne_nil (n := m) (b := 10))
    rw [← Nat.toDigits_append_toDigits (by decide) more small, digits]
    rw [digits] at ih
    exact ih more

theorem wholeDigits_toDigits (n : Nat) : WholeDigits (Nat.toDigits 10 n) := by
  rcases Nat.eq_zero_or_pos n with rfl | positive
  · exact .inl (Nat.toDigits_zero 10)
  · exact .inr ⟨digits_toDigits n, head?_toDigits positive⟩

theorem numberAs_repr {n : Int} (low : -(Nat.pow 2 63 : Nat) ≤ n)
    (high : n < (Nat.pow 2 64 : Nat)) :
    NumberAs (int n) n.repr.toList := by
  rw [Int.repr_eq_if]
  by_cases positive : 0 ≤ n
  · refine ⟨false, _, [], none, [], [], wholeDigits_toDigits n.toNat, .none, .none, ?_, ?_⟩
    · simp [positive]
    · have fits : n.toNat < Nat.pow 2 64 := by
        simp only [Nat.pow_eq] at low high ⊢
        omega
      simp only [ofParts, ofDigits_toDigits, fits]
      simp [digitsOf, Int.max_eq_left positive]
  · refine ⟨true, _, [], none, [], [], wholeDigits_toDigits (-n).toNat, .none, .none, ?_, ?_⟩
    · simp [positive]
    · have fits : 0 < (-n).toNat ∧ (-n).toNat ≤ Nat.pow 2 63 := by
        simp only [Nat.pow_eq] at low high ⊢
        omega
      simp only [ofParts, ofDigits_toDigits, fits]
      simp [digitsOf, Int.max_eq_left (show 0 ≤ -n by omega)]

/-! ## Values -/

/-- The value is written as one of its texts, behind what is written already. -/
def Written (j : Json) : Prop :=
  ∀ out, ∃ text, (j.addTo out).toList = out.toList ++ text ∧ SpelledAs j text

/-- Texts with commas between them, or before each of them if there are others in front. -/
def listed (first : Bool) (texts : List (List Char)) : List Char :=
  if first then [','].intercalate texts else texts.flatMap fun text => ',' :: text

theorem listed_cons (first : Bool) (text : List Char) (texts : List (List Char)) :
    listed first (text :: texts) =
      (if first then [] else [',']) ++ (text ++ listed false texts) := by
  cases first with
  | false => simp [listed]
  | true =>
    simp only [listed, reduceIte, List.nil_append]
    induction texts generalizing text with
    | nil => simp
    | cons next texts ih => simp [List.intercalate_cons_cons, ih]

theorem addItems_written {xs : List Json} (written : ∀ x ∈ xs, Written x) (out : String)
    (first : Bool) :
    ∃ texts, ItemsAs xs texts ∧
      (addItems out first xs).toList = out.toList ++ listed first texts := by
  induction xs generalizing out first with
  | nil => exact ⟨[], by rw [ItemsAs], by cases first <;> simp [addItems, listed]⟩
  | cons x xs ih =>
    obtain ⟨text, shown, spelled⟩ := written x (by simp) (if first then out else out ++ ",")
    obtain ⟨texts, items, rest⟩ := ih (fun y hy => written y (List.mem_cons_of_mem x hy))
      (x.addTo (if first then out else out ++ ",")) false
    refine ⟨text :: texts, ?_, ?_⟩
    · rw [ItemsAs]
      exact ⟨text, texts, rfl, Spaced.of spelled, items⟩
    · rw [addItems, rest, shown, listed_cons]
      cases first <;> simp

theorem addMembers_written {ms : List (String × Json)} (written : ∀ m ∈ ms, Written m.2)
    (out : String) (first : Bool) :
    ∃ texts, MembersAs ms texts ∧
      (addMembers out first ms).toList = out.toList ++ listed first texts := by
  induction ms generalizing out first with
  | nil => exact ⟨[], by rw [MembersAs], by cases first <;> simp [addMembers, listed]⟩
  | cons m ms ih =>
    obtain ⟨key, x⟩ := m
    obtain ⟨text, shown, spelled⟩ :=
      written (key, x) (by simp) ((if first then out else out ++ ",") ++ quote key ++ ":")
    obtain ⟨texts, members, rest⟩ := ih (fun m hm => written m (List.mem_cons_of_mem _ hm))
      (x.addTo ((if first then out else out ++ ",") ++ quote key ++ ":")) false
    refine ⟨((quote key).toList ++ ':' :: text) :: texts, ?_, ?_⟩
    · rw [MembersAs]
      exact ⟨_, text, texts, rfl, Spaced.of (quotedAs_quote key), Spaced.of spelled, members⟩
    · rw [addMembers, rest, shown, listed_cons]
      cases first <;> simp

theorem written_of_scalar {j : Json} (scalar : ∀ out, j.addTo out = out ++ scalarText j)
    (spelled : SpelledAs j (scalarText j).toList) : Written j := by
  intro out
  exact ⟨_, by rw [scalar, String.toList_append], spelled⟩

theorem written_of_exact {j : Json} (exact : Exact j) : Written j := by
  induction exact with
  | null => exact written_of_scalar (fun out => rfl) (by rw [SpelledAs]; rfl)
  | bool b =>
    refine written_of_scalar (fun out => rfl) ?_
    cases b <;> rw [SpelledAs] <;> rfl
  | int low high =>
    refine written_of_scalar (fun out => rfl) ?_
    rw [SpelledAs]
    exact numberAs_repr low high
  | str s =>
    refine written_of_scalar (fun out => rfl) ?_
    rw [SpelledAs]
    exact quotedAs_quote s
  | @arr xs _ written =>
    intro out
    obtain ⟨texts, items, shown⟩ := addItems_written written (out ++ "[") true
    refine ⟨'[' :: ([','].intercalate texts ++ [']']), ?_, ?_⟩
    · rw [addTo, String.toList_append, shown]
      simp [listed]
    · rw [SpelledAs]
      exact ⟨[], texts, blank_nil, items, rfl⟩
  | @obj ms _ written =>
    intro out
    obtain ⟨texts, members, shown⟩ := addMembers_written written (out ++ "\x7b") true
    refine ⟨'\x7b' :: ([','].intercalate texts ++ ['\x7d']), ?_, ?_⟩
    · rw [addTo, String.toList_append, shown]
      simp [listed]
    · rw [SpelledAs]
      exact ⟨[], texts, blank_nil, members, rfl⟩

/-- **What is written is a text of the value.** -/
theorem spelledAs_compact {j : Json} (exact : Exact j) : SpelledAs j j.compact.toList := by
  obtain ⟨text, shown, spelled⟩ := written_of_exact exact ""
  rw [compact, shown]
  simpa using spelled

/-- **What is written is read back.** -/
theorem read?_compact {j : Json} (exact : Exact j) : read? j.compact = some j :=
  read?_of_spelled (.of (spelledAs_compact exact))

end CodeIndex.Json
