/-!
# Positions and spans

A position is a line and a column, both counted from zero; columns count bytes. A span is the range
between two positions. Nothing asks that a span's start comes before its end.
-/

namespace CodeIndex

structure Position where
  line : Nat
  character : Nat
  deriving DecidableEq, Repr, Inhabited, Hashable

namespace Position

/-- Positions are ordered by line, then by column. -/
protected def Le (a b : Position) : Prop :=
  a.line < b.line ∨ (a.line = b.line ∧ a.character ≤ b.character)

protected def Lt (a b : Position) : Prop :=
  a.line < b.line ∨ (a.line = b.line ∧ a.character < b.character)

instance : LE Position := ⟨Position.Le⟩
instance : LT Position := ⟨Position.Lt⟩

theorem le_def {a b : Position} :
    a ≤ b ↔ a.line < b.line ∨ (a.line = b.line ∧ a.character ≤ b.character) := Iff.rfl

theorem lt_def {a b : Position} :
    a < b ↔ a.line < b.line ∨ (a.line = b.line ∧ a.character < b.character) := Iff.rfl

instance (a b : Position) : Decidable (a ≤ b) :=
  inferInstanceAs (Decidable (a.line < b.line ∨ (a.line = b.line ∧ a.character ≤ b.character)))

instance (a b : Position) : Decidable (a < b) :=
  inferInstanceAs (Decidable (a.line < b.line ∨ (a.line = b.line ∧ a.character < b.character)))

theorem le_refl (a : Position) : a ≤ a := by rw [le_def]; omega

theorem le_trans {a b c : Position} (h : a ≤ b) (h' : b ≤ c) : a ≤ c := by
  rw [le_def] at *; omega

theorem le_total (a b : Position) : a ≤ b ∨ b ≤ a := by
  rw [le_def, le_def]; omega

theorem le_antisymm {a b : Position} (h : a ≤ b) (h' : b ≤ a) : a = b := by
  cases a; cases b
  rw [le_def] at *
  simp only [mk.injEq]
  simp only at h h'
  omega

theorem not_le {a b : Position} : ¬ a ≤ b ↔ b < a := by
  rw [le_def, lt_def]; omega

theorem not_lt {a b : Position} : ¬ a < b ↔ b ≤ a := by
  rw [le_def, lt_def]; omega

theorem lt_of_lt_of_le {a b c : Position} (h : a < b) (h' : b ≤ c) : a < c := by
  rw [lt_def] at *; rw [le_def] at h'; omega

theorem lt_of_le_of_lt {a b c : Position} (h : a ≤ b) (h' : b < c) : a < c := by
  rw [lt_def] at *; rw [le_def] at h; omega

theorem le_of_lt {a b : Position} (h : a < b) : a ≤ b := by
  rw [lt_def] at h; rw [le_def]; omega

theorem lt_irrefl (a : Position) : ¬ a < a := by rw [lt_def]; omega

end Position

structure Span where
  start : Position
  stop : Position
  deriving DecidableEq, Repr, Inhabited, Hashable

namespace Span

/-- `a` contains `b`; equal spans contain each other. -/
def Contains (a b : Span) : Prop := a.start ≤ b.start ∧ b.stop ≤ a.stop

/-- The position lies in the span. Both ends count, so that a cursor right after a word still hits
it. -/
def ContainsPosition (a : Span) (p : Position) : Prop := a.start ≤ p ∧ p ≤ a.stop

/-- The spans share some text, and neither contains the other. -/
def PartiallyOverlaps (a b : Span) : Prop :=
  (a.start < b.stop ∧ b.start < a.stop) ∧ ¬ a.Contains b ∧ ¬ b.Contains a

instance (a b : Span) : Decidable (a.Contains b) :=
  inferInstanceAs (Decidable (_ ∧ _))

instance (a : Span) (p : Position) : Decidable (a.ContainsPosition p) :=
  inferInstanceAs (Decidable (_ ∧ _))

instance (a b : Span) : Decidable (a.PartiallyOverlaps b) :=
  inferInstanceAs (Decidable (_ ∧ _))

theorem eq_of_ends {a b : Span} (start : a.start = b.start) (stop : a.stop = b.stop) : a = b := by
  cases a; cases b
  simp only at start stop
  rw [start, stop]

theorem contains_refl (a : Span) : a.Contains a := ⟨Position.le_refl _, Position.le_refl _⟩

theorem Contains.trans {a b c : Span} (h : a.Contains b) (h' : b.Contains c) : a.Contains c :=
  ⟨Position.le_trans h.1 h'.1, Position.le_trans h'.2 h.2⟩

end Span

end CodeIndex
