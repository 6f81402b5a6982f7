import Beamline.Clock

/-!
What simulated motors and switches have in common: whether they take their time, and how long.
-/

namespace Beamline

/-- Instant devices reach a target when they are started. -/
inductive Pacing where
  | instant
  | realistic
  deriving DecidableEq, Repr

/-- Milliseconds to settle after a move, to change a state, and to wait for either at most. -/
structure Timing where
  settlingMs : Nat
  switchMs : Nat
  waitTimeoutMs : Nat
  deriving DecidableEq, Repr

namespace Timing

def patient : Timing := ⟨0, 0, 60000⟩

def motor : Timing := ⟨50, 0, 60000⟩

def switch : Timing := ⟨0, 200, 10000⟩

def settling (t : Timing) : Nat := ofMs t.settlingMs

def switching (t : Timing) : Nat := ofMs t.switchMs

def waitTimeout (t : Timing) : Nat := ofMs t.waitTimeoutMs

end Timing

end Beamline
