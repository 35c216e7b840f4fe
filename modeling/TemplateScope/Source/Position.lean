/-!
# Source positions

A position in template source is a line and a column. Positions are ordered by line, and by
column within a line: `le_iff` and `lt_iff` say this in terms of the coordinates.
-/

namespace TemplateScope

/-- A line counted from one and a column counted from zero. No source text has a line zero, so
line zero is free to mark what comes from no source. -/
structure Position where
  line : Nat
  column : Nat
deriving DecidableEq, Repr

namespace Position

/-- The line decides, and the column decides between positions of one line. -/
instance : Ord Position :=
  ⟨compareLex (compareOn line) (compareOn column)⟩

instance : LT Position := ltOfOrd
instance : LE Position := leOfOrd

theorem compare_def (p q : Position) :
    compare p q = (compare p.line q.line).then (compare p.column q.column) :=
  rfl

instance : Std.TransOrd Position :=
  inferInstanceAs (Std.TransCmp (compareLex (compareOn line) (compareOn column)))

instance : Std.LawfulEqOrd Position where
  eq_of_compare {p q} h := by
    rw [compare_def, Ordering.then_eq_eq, Nat.compare_eq_eq, Nat.compare_eq_eq] at h
    cases p
    cases q
    simp_all

theorem lt_iff {p q : Position} :
    p < q ↔ p.line < q.line ∨ p.line = q.line ∧ p.column < q.column := by
  change compare p q = .lt ↔ _
  rw [compare_def, Ordering.then_eq_lt, Nat.compare_eq_lt, Nat.compare_eq_eq, Nat.compare_eq_lt]

theorem le_iff {p q : Position} :
    p ≤ q ↔ p.line < q.line ∨ p.line = q.line ∧ p.column ≤ q.column := by
  change (compare p q).isLE ↔ _
  rw [compare_def, Ordering.isLE_then_iff_or, Nat.compare_eq_lt, Nat.compare_eq_eq,
    Nat.isLE_compare]

theorem le_refl (p : Position) : p ≤ p :=
  le_iff.2 (.inr ⟨rfl, Nat.le_refl _⟩)

def display (p : Position) : String :=
  s!"L{p.line}:C{p.column}"

def short (p : Position) : String :=
  s!"{p.line}:{p.column}"

end Position

end TemplateScope
