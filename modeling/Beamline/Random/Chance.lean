import Beamline.Random.ChaCha
import Beamline.Scalar

/-!
Failures by chance. A seed and the count of draws made so far fix all that follows; a rate that
leaves nothing to chance draws nothing.
-/

namespace Beamline.Random

structure Source where
  seed : UInt64
  drawn : Nat
  deriving DecidableEq, Repr

namespace Source

variable {α : Type} [Scalar α]

def ofSeed (seed : UInt64) : Source := ⟨seed, 0⟩

/-- The next draw, a number below one. -/
def peek (s : Source) : α := Scalar.draw (draw s.seed s.drawn)

/-- Whether something of this rate happens. A rate that does not compare, as `NaN`, draws and
never happens. -/
def happens (s : Source) (rate : α) : Bool × Source :=
  if rate ≤ 0 then (false, s)
  else if 1 ≤ rate then (true, s)
  else (decide ((s.peek : α) < rate), { s with drawn := s.drawn + 1 })

/-- The answers to a list of rates, asked one after another. -/
def happensEach (s : Source) : List α → List Bool
  | [] => []
  | rate :: rest =>
    let (b, s) := s.happens rate
    b :: s.happensEach rest

theorem happens_never (s : Source) {rate : α} (h : rate ≤ 0) : s.happens rate = (false, s) := by
  simp [happens, h]

end Source
end Beamline.Random
