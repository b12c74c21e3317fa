/-!
Places in a source text. Rows and columns count from zero, and places are ordered row first.
-/
namespace SourceOutline

/-- A place in a text: a row and an octet column, both from zero. -/
structure Position where
  row : Nat
  column : Nat
deriving DecidableEq, Repr, Inhabited

namespace Position

/-- Row first, then column. -/
instance : LE Position where
  le a b := a.row < b.row ∨ (a.row = b.row ∧ a.column ≤ b.column)

theorem le_def {a b : Position} :
    a ≤ b ↔ a.row < b.row ∨ (a.row = b.row ∧ a.column ≤ b.column) := Iff.rfl

instance (a b : Position) : Decidable (a ≤ b) := decidable_of_iff _ le_def.symm

theorem le_refl (a : Position) : a ≤ a := Or.inr ⟨rfl, Nat.le_refl _⟩

theorem le_trans {a b c : Position} (hab : a ≤ b) (hbc : b ≤ c) : a ≤ c := by
  simp only [le_def] at *
  omega

theorem row_le_of_le {a b : Position} (h : a ≤ b) : a.row ≤ b.row := by
  simp only [le_def] at h
  omega

end Position

/-- The part of a text between two places. -/
structure Span where
  start : Position
  stop : Position
deriving DecidableEq, Repr, Inhabited

end SourceOutline
