import Beamline.Scalar
import Beamline.Decimal.Layout
import Beamline.Decimal.Reading

/-!
Binary64 as the numbers of the program. Angles turn into radians and back by one multiplication
with a constant, so the last bit of a setpoint is the same wherever it is computed.
-/

namespace Beamline

def positiveInfinity : Float := Float.ofBits 0x7ff0000000000000

def negativeInfinity : Float := Float.ofBits 0xfff0000000000000

def notANumber : Float := Float.ofBits 0x7ff8000000000000

/-- Spans of `2 ^ 64` seconds and more are not kept. -/
def spanOfSeconds (x : Float) : Option Nat :=
  match Decimal.Binary.ofFloat x with
  | .finite p =>
    let span := p.scaled (tenTo 9)
    if (p.negative && p.mantissa != 0) || decide (twoTo 64 * tenTo 9 ≤ span) then none
    else some span
  | _ => none

/-- Whole seconds and the nanoseconds left over are converted apart. -/
def secondsOfSpan (span : Nat) : Float :=
  Decimal.nearest (span / tenTo 9) 0 + Decimal.nearest (span % tenTo 9) 0 / 1e9

instance : Scalar Float where
  decideLE := inferInstance
  decideLT := inferInstance
  abs := Float.abs
  ofNat := Float.ofNat
  nan := notANumber
  infinity := positiveInfinity
  negInfinity := negativeInfinity
  isNaN := Float.isNaN
  isFinite := Float.isFinite
  seconds := secondsOfSpan
  nanoseconds? := spanOfSeconds
  draw k := Float.ofNat k / Float.ofNat (twoTo 53)
  text := Decimal.plain
  fixed := Decimal.fixed

def degreesPerRadian : Float := 57.29577951308232

def radiansPerDegree : Float := 0.017453292519943295

instance : Angles Float where
  arcsin x := Float.asin x * degreesPerRadian
  sin x := Float.sin (x * radiansPerDegree)
  cos x := Float.cos (x * radiansPerDegree)
  tan x := Float.tan (x * radiansPerDegree)

end Beamline
