/-!
The numbers positions are made of. Devices, limits, transforms and composites are written over
any such type: the program runs on binary64, and laws that hold of exact arithmetic only can be
stated over an exact one. Comparisons, like those of binary64, may fail both ways.
-/

namespace Beamline

class Scalar (α : Type) extends Add α, Sub α, Mul α, Div α, LE α, LT α where
  decideLE : DecidableLE α
  decideLT : DecidableLT α
  abs : α → α
  ofNat : Nat → α
  /-- Stands for a position that is not there. -/
  nan : α
  infinity : α
  negInfinity : α
  isNaN : α → Bool
  isFinite : α → Bool
  /-- A span of nanoseconds in seconds. -/
  seconds : Nat → α
  /-- A span of seconds in nanoseconds, if it is one: not negative, not too long. -/
  nanoseconds? : α → Option Nat
  /-- The draw `k` of `2 ^ 53` equally likely ones, as a number below one. -/
  draw : Nat → α
  /-- Text with the fewest digits. -/
  text : α → String
  /-- Text with a fixed count of digits after the point. -/
  fixed : Nat → α → String

instance Scalar.toDecidableLE {α : Type} [Scalar α] : DecidableLE α := Scalar.decideLE

instance Scalar.toDecidableLT {α : Type} [Scalar α] : DecidableLT α := Scalar.decideLT

instance (priority := low) Scalar.toOfNat {α : Type} [Scalar α] (n : Nat) : OfNat α n := ⟨Scalar.ofNat n⟩

/-- Trigonometry in degrees. -/
class Angles (α : Type) where
  arcsin : α → α
  sin : α → α
  cos : α → α
  tan : α → α

end Beamline
