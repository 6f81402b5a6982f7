import Beamline.Scalar

/-!
Closed ranges of numbers. A number that does not compare, as `NaN`, lies in no range.
-/

namespace Beamline

structure Limits (α : Type) where
  min : α
  max : α
  deriving DecidableEq, Repr

namespace Limits

variable {α : Type} [Scalar α]

def unbounded : Limits α := ⟨Scalar.negInfinity, Scalar.infinity⟩

def contains (l : Limits α) (x : α) : Bool := l.min ≤ x && x ≤ l.max

def isOrdered (l : Limits α) : Bool := l.min ≤ l.max

theorem contains_iff {l : Limits α} {x : α} :
    l.contains x = true ↔ l.min ≤ x ∧ x ≤ l.max := by
  simp [contains]

theorem isOrdered_iff {l : Limits α} : l.isOrdered = true ↔ l.min ≤ l.max := by
  simp [isOrdered]

end Limits
end Beamline
