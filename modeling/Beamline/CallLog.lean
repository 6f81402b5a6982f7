import Beamline.Value

/-!
Which device was asked to do what, in the order of asking. A start is recorded with its target.
-/

namespace Beamline

inductive Operation where
  | read
  | start
  | stop
  | wait
  | status
  deriving DecidableEq, Repr

def Operation.name : Operation → String
  | read => "read"
  | start => "start"
  | stop => "stop"
  | wait => "wait"
  | status => "status"

structure Call (α : Type) where
  device : String
  operation : Operation
  value : Option (Value α)
  deriving DecidableEq, Repr

/-- The calls so far, the first one in front. -/
abbrev CallLog (α : Type) := List (Call α)

namespace CallLog

variable {α : Type}

def ofOperation (log : CallLog α) (operation : Operation) : CallLog α :=
  log.filter fun c => c.operation == operation

/-- Devices and targets of the starts. -/
def starts (log : CallLog α) : List (String × Value α) :=
  (log.ofOperation .start).map fun c => (c.device, c.value.getD .null)

def devicesFor (log : CallLog α) (operation : Operation) : List String :=
  (log.ofOperation operation).map (·.device)

end CallLog
end Beamline
