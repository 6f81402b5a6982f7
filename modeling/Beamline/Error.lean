import Beamline.Value
import Beamline.Limits
import Beamline.Text.Quoted

/-!
Everything that can go wrong with a device, kept as causes. The wording stands in one `message`
per kind of cause, so a caller can tell failures apart without reading texts.
-/

namespace Beamline

/-! ## Targets a transform cannot map -/

inductive Unreachable where
  | notPositive
  | firstCrystal
  | secondCrystal
  | braggCutoff
  | aboveRange
  | other (text : String)
  deriving DecidableEq, Repr

def Unreachable.message : Unreachable → String
  | notPositive => "wavelength must be positive"
  | firstCrystal => "beyond the first crystal's cutoff"
  | secondCrystal => "beyond the second crystal's cutoff"
  | braggCutoff => "beyond the Bragg cutoff 2d"
  | aboveRange => "above the fixture's range"
  | other text => text

structure TransformError (α : Type) where
  value : α
  reason : Unreachable
  deriving DecidableEq, Repr

variable {α : Type}

def TransformError.message [Scalar α] (e : TransformError α) : String :=
  Scalar.text e.value ++ " is not reachable: " ++ e.reason.message

/-! ## Axes that disagree -/

inductive Disagreement (α : Type) where
  | undetermined
  | unreachable (e : TransformError α)
  | setpointCount (given roles : Nat)
  | deviates (actual expected tolerance : α)
  | other (text : String)
  deriving DecidableEq, Repr

def Disagreement.message [Scalar α] : Disagreement α → String
  | undetermined => "can not determine value"
  | unreachable e => e.message
  | setpointCount given roles =>
    "transform gave " ++ toString given ++ " setpoints for " ++ toString roles ++ " roles"
  | deviates actual expected tolerance =>
    "is at " ++ Scalar.fixed 4 actual ++ ", should be at " ++ Scalar.fixed 4 expected ++ " +/- "
      ++ Scalar.text tolerance
  | other text => text

/-- The role that keeps a reading from having a value, and what was compared there. -/
structure PositionError (α : Type) where
  device : String
  role : String
  derived : α
  actual : α
  expected : α
  tolerance : α
  detail : Disagreement α
  deriving DecidableEq, Repr

namespace PositionError

variable [Scalar α]

def deviation (e : PositionError α) : α := Scalar.abs (e.actual - e.expected)

/-- The primary role stands where no value can be derived from it. -/
def undetermined (device role : String) (actual : α) : PositionError α :=
  ⟨device, role, Scalar.nan, actual, Scalar.nan, 0, .undetermined⟩

def message (e : PositionError α) : String :=
  if Scalar.isNaN e.derived then
    e.device ++ ": " ++ e.detail.message ++ " from " ++ e.role ++ " at " ++ Scalar.fixed 3 e.actual
  else
    e.device ++ ": " ++ e.role ++ " is too far away for " ++ Scalar.fixed 4 e.derived ++ " ("
      ++ e.detail.message ++ ")"

end PositionError

/-! ## Devices that fail -/

inductive DriverErrorKind where
  | starting
  | configuration
  | communication
  | hardware
  | timeout
  | invalidParameter
  | unknown
  deriving DecidableEq, Repr

def DriverErrorKind.label : DriverErrorKind → String
  | starting => "initialization"
  | configuration => "configuration"
  | communication => "communication"
  | hardware => "hardware"
  | timeout => "timeout"
  | invalidParameter => "invalid_parameter"
  | unknown => "unknown"

/-- Text of a span of `n` milliseconds in the largest unit that leaves a whole part. -/
def spanText (n : Nat) : String :=
  if n = 0 then "0ns"
  else if n < 1000 then toString n ++ "ms"
  else
    let rest := n % 1000
    let places := if rest % 100 = 0 then 1 else if rest % 10 = 0 then 2 else 3
    let digits := (toString (1000 + rest)).toList.drop 1
    if rest = 0 then toString (n / 1000) ++ "s"
    else toString (n / 1000) ++ "." ++ String.ofList (digits.take places) ++ "s"

inductive DriverFault where
  | afterOperations (count : Nat)
  | timedOut (operation : String)
  | communicationLost
  | hardware (code : Nat)
  | random (operation : String)
  | stillMoving (timeoutMs : Nat)
  | notSwitched
  | other (kind : DriverErrorKind) (text : String)
  deriving DecidableEq, Repr

namespace DriverFault

def kind : DriverFault → DriverErrorKind
  | afterOperations _ => .hardware
  | timedOut _ => .timeout
  | communicationLost => .communication
  | hardware _ => .hardware
  | random _ => .hardware
  | stillMoving _ => .timeout
  | notSwitched => .timeout
  | other k _ => k

def message : DriverFault → String
  | afterOperations count => "Injected failure after " ++ toString count ++ " operations"
  | timedOut operation => "Operation '" ++ operation ++ "' timed out"
  | communicationLost => "Communication lost"
  | hardware code => "Hardware fault: " ++ toString code
  | random operation => "Random failure on operation '" ++ operation ++ "'"
  | stillMoving timeoutMs => "still moving after " ++ spanText timeoutMs
  | notSwitched => "switch did not reach its target state"
  | other _ text => text

end DriverFault

structure DriverError where
  device : String
  fault : DriverFault
  deriving DecidableEq, Repr

def DriverError.message (e : DriverError) : String :=
  "Device '" ++ e.device ++ "' " ++ e.fault.kind.label ++ " error: " ++ e.fault.message

/-! ## Values that are refused -/

inductive Refusal (α : Type) where
  | notAPosition (v : Value α)
  | notAState (v : Value α) (states : List String)
  | noGate
  | notATarget (v : Value α)
  | unreachable (e : TransformError α)
  | interlock (device : String) (reads : Value α) (required : String)
  | noPosition (v : Value α)
  | other (text : String)
  deriving DecidableEq, Repr

def Refusal.message [Scalar α] : Refusal α → String
  | notAPosition v => "expected a finite position, got " ++ v.text
  | notAState v states => v.text ++ " is not one of " ++ Text.quotedList states
  | noGate => "cannot park a device without a gate"
  | notATarget v => "expected a number or None, got " ++ v.text
  | unreachable e => e.message
  | interlock device reads required =>
    device ++ " reads " ++ reads.text ++ ", " ++ required ++ " is required"
  | noPosition v => "expected a position, got " ++ v.text
  | other text => text

/-! ## Devices that cannot be built -/

inductive Misfit (α : Type) where
  | noRoles (device : String)
  | toleranceCount (device : String) (given : Nat) (roles : List String)
  | primaryRange (device : String) (index : Nat)
  | tolerance (device role : String) (value : α)
  | setpointCount (device : String) (given axes : Nat)
  | axisCount (device : String) (given : Nat) (roles : List String)
  | axisRole (device role expected : String)
  | limits (device : String) (range : Limits α)
  | gateStates (device state : String)
  | parameter (name : String) (value : α)
  | offset
  | unknownPlane (crystal plane : String)
  | noSpacing
  | noCrystal (device : String)
  | unresolved (name : String)
  | taken (name : String)
  | other (text : String)
  deriving DecidableEq, Repr

/-- The ends of a range in brackets. -/
def Limits.text [Scalar α] (l : Limits α) : String :=
  "[" ++ Scalar.text l.min ++ ", " ++ Scalar.text l.max ++ "]"

def Misfit.message [Scalar α] : Misfit α → String
  | noRoles device => device ++ ": transform has no roles"
  | toleranceCount device given roles =>
    device ++ ": " ++ toString given ++ " tolerances given for " ++ toString roles.length
      ++ " roles (" ++ String.intercalate ", " roles ++ ")"
  | primaryRange device index =>
    device ++ ": primary role index " ++ toString index ++ " out of range"
  | tolerance device role value =>
    device ++ ": tolerance of " ++ role ++ " must be a non-negative number, got "
      ++ Scalar.text value
  | setpointCount device given axes =>
    device ++ ": transform gave " ++ toString given ++ " setpoints for " ++ toString axes ++ " axes"
  | axisCount device given roles =>
    device ++ ": " ++ toString given ++ " axes attached but the transform drives "
      ++ toString roles.length ++ " (" ++ String.intercalate ", " roles ++ ")"
  | axisRole device role expected =>
    device ++ ": axis '" ++ role ++ "' attached where role '" ++ expected ++ "' is expected"
  | limits device range => device ++ ": limits " ++ range.text ++ " are not ordered"
  | gateStates device state =>
    device ++ ": gate states must differ, both are '" ++ state ++ "'"
  | parameter name value => name ++ " must be a positive number, got " ++ Scalar.text value
  | offset => "omega_offset must be finite"
  | unknownPlane crystal plane =>
    "the '" ++ plane ++ "' plane is not allowed for '" ++ crystal ++ "' crystal"
  | noSpacing => "either d_spacing or crystal and plane must be given"
  | noCrystal device =>
    device ++ ": a crystal changer is attached but no crystal is configured"
  | unresolved name => "attached device '" ++ name ++ "' is not configured"
  | taken name => "device '" ++ name ++ "' is already registered"
  | other text => text

/-! ## All of them -/

inductive DeviceError (α : Type) where
  | position (e : PositionError α)
  | configuration (why : Misfit α)
  | limits (device : String) (value : α) (range : Limits α)
  | invalidValue (device : String) (why : Refusal α)
  | driver (e : DriverError)
  | notFound (name : String)
  /-- A panic: the time that a move takes is not a duration. -/
  | endlessTravel (device : String)
  | other (text : String)
  deriving DecidableEq, Repr

namespace DeviceError

def message [Scalar α] : DeviceError α → String
  | position e => "Position error: " ++ e.message
  | configuration why => "Configuration error: " ++ why.message
  | limits device value range =>
    device ++ ": target " ++ Scalar.text value ++ " is outside of limits " ++ range.text
  | invalidValue device why => device ++ ": invalid value: " ++ why.message
  | driver e => e.message
  | notFound name => "Device not found: " ++ name
  | endlessTravel device => device ++ ": the travel time is out of range"
  | other text => text

/-- The role at fault, if axes disagree. -/
def positionRole : DeviceError α → Option String
  | position e => some e.role
  | _ => none

def isPosition : DeviceError α → Bool
  | position _ => true
  | _ => false

def isConfiguration : DeviceError α → Bool
  | configuration _ => true
  | _ => false

end DeviceError

/-- Refuse a value outside of the limits in the name of `device`. -/
def Limits.check [Scalar α] (l : Limits α) (device : String) (x : α) :
    Except (DeviceError α) Unit :=
  if l.contains x then .ok () else .error (.limits device x l)

end Beamline
