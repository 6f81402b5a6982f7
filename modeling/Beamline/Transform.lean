import Beamline.Error

/-!
Maps between one derived number, a wavelength say, and the positions of several axes, which play
named roles. `forward` gives a position for each role; `inverse` recovers the number from the
position of the primary role alone, and is not finite where there is none.
-/

namespace Beamline

structure Transform (α : Type) where
  roles : List String
  primary : Nat
  forward : α → Except (TransformError α) (List α)
  inverse : α → α

/-- The angle in degrees whose sine is `x`, for the numbers that are one. -/
def arcsin? {α : Type} [Scalar α] [Angles α] (x : α) : Option α :=
  if Scalar.abs x ≤ 1 then some (Angles.arcsin x) else none

end Beamline
