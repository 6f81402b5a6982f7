import Beamline.Action
import Beamline.Category
import Beamline.Error
import Beamline.Status

/-!
A device that answers what it was told to answer, for trying out what depends on it.
-/

namespace Beamline

structure StandIn (α : Type) where
  name : String
  unit : String
  category : Category
  value : Value α
  /-- Whether a start stores its target as the value. -/
  keeps : Bool
  report : Status
  readError : Option (DeviceError α)
  startError : Option (DeviceError α)
  stopError : Option (DeviceError α)
  waitError : Option (DeviceError α)
  /-- The answer to every question whether a target is allowed. -/
  deny : Option (DeviceError α)

namespace StandIn

variable {α : Type}

/-- The outcome of an operation with this error set for it. -/
def outcome (error : Option (DeviceError α)) : Except (DeviceError α) Unit :=
  match error with
  | some e => .error e
  | none => .ok ()

def isAllowed (d : StandIn α) (_ : Value α) : Except (DeviceError α) Unit := outcome d.deny

def read : Action (StandIn α) (DeviceError α) (Value α) := fun d =>
  ((outcome d.readError).map fun _ => d.value, d)

def start (target : Value α) : Action (StandIn α) (DeviceError α) Unit := fun d =>
  match outcome d.startError with
  | .error e => (.error e, d)
  | .ok () => (.ok (), if d.keeps then { d with value := target } else d)

def stop : Action (StandIn α) (DeviceError α) Unit := fun d => (outcome d.stopError, d)

def wait : Action (StandIn α) (DeviceError α) Unit := fun d => (outcome d.waitError, d)

end StandIn
end Beamline
