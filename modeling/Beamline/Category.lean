/-!
Kinds of devices, as listings show them.
-/

namespace Beamline

inductive Category where
  | motor
  | switch
  | detector
  | composite
  | other
  deriving DecidableEq, Repr

def Category.label : Category → String
  | motor => "Motors"
  | switch => "Switches"
  | detector => "Detectors"
  | composite => "Composite Devices"
  | other => "Other"

end Beamline
