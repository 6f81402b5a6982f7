import Beamline.Setup.Schema
import Beamline.Text.Json

/-!
What can be wrong with a setup before anything is built: fields out of range, names declared
twice, attachments that are unknown where they are used, limits out of order, a gate whose states
are the same. All that is found is reported, in the order of declaration.
-/

namespace Beamline

/-! ## Fields out of range -/

inductive RangeRule where
  | positive
  | notNegative
  | notEmpty
  | short
  deriving DecidableEq, Repr

def RangeRule.message : RangeRule → String
  | positive => "The number must be `> 0.0`."
  | notNegative => "The number must be `>= 0.0`."
  | notEmpty => "The length of the value must be `>= 1`."
  | short => "The length of the value must be `<= 100`."

structure FieldFault where
  property : String
  rule : RangeRule
  deriving DecidableEq, Repr

def FieldFault.unless (ok : Bool) (property : String) (rule : RangeRule) : List FieldFault :=
  if ok then [] else [⟨property, rule⟩]

def positiveField (property : String) (x : Float) : List FieldFault :=
  FieldFault.unless (decide (0 < x)) property .positive

/-- Tolerances are all reported under one name. -/
def toleranceField (x : Float) : List FieldFault :=
  FieldFault.unless (decide (0 ≤ x)) "default_tolerance" .notNegative

def nameField (property : String) (name : String) : List FieldFault :=
  FieldFault.unless (!name.isEmpty) property .notEmpty

def DeviceConfig.fieldFaults (d : DeviceConfig) : List FieldFault :=
  nameField "name" d.name ++ FieldFault.unless (decide (d.name.length ≤ 100)) "name" .short
    ++ nameField "driver" d.driver

/-- Faults of a composite's own fields, and of the names of its attached devices. -/
structure CompositeFaults where
  own : List FieldFault
  attached : List FieldFault
  deriving DecidableEq, Repr

def DoubleCrystalConfig.fieldFaults (c : DoubleCrystalConfig) : CompositeFaults where
  own := positiveField "dvalue1" c.dvalue1 ++ positiveField "dvalue2" c.dvalue2
    ++ positiveField "distance" c.distance ++ toleranceField c.tolphi ++ toleranceField c.toltrans
  attached := nameField "inout" c.attached.inout ++ nameField "phi1" c.attached.phi1
    ++ nameField "phi2" c.attached.phi2 ++ nameField "translation" c.attached.stage

def BraggConfig.fieldFaults (c : BraggConfig) : CompositeFaults where
  own := toleranceField c.tolTthm ++ toleranceField c.tolOmgm
  attached := nameField "tthm" c.attached.tthm ++ nameField "omgm" c.attached.omgm

def CompositeKind.fieldFaults : CompositeKind → CompositeFaults
  | doubleCrystal c => c.fieldFaults
  | bragg c => c.fieldFaults

def CompositeFaults.isEmpty (f : CompositeFaults) : Bool := f.own.isEmpty && f.attached.isEmpty

/-! ## Reports of them -/

namespace Report

def object (members : List (String × String)) : String :=
  "\x7b" ++ String.intercalate "," (members.map fun m => Text.jsonQuoted m.1 ++ ":" ++ m.2) ++ "\x7d"

def array (items : List String) : String := "[" ++ String.intercalate "," items ++ "]"

/-- The rules broken under one property. -/
def leaf (rules : List RangeRule) : String :=
  object [("errors", array (rules.map fun r => Text.jsonQuoted r.message))]

def properties (members : List (String × String)) : String :=
  object [("errors", array []), ("properties", object members)]

def items (members : List (Nat × String)) : String :=
  object [("errors", array []), ("items", object (members.map fun m => (toString m.1, m.2)))]

/-- Put neighbouring faults of the same property together. -/
def grouped : List FieldFault → List (String × List RangeRule)
  | [] => []
  | f :: fs =>
    match grouped fs with
    | [] => [(f.property, [f.rule])]
    | g :: gs =>
      if g.1 = f.property then (f.property, f.rule :: g.2) :: gs
      else (f.property, [f.rule]) :: g :: gs

def members (fs : List FieldFault) : List (String × String) :=
  (grouped fs).map fun g => (g.1, leaf g.2)

end Report

def CompositeFaults.report (f : CompositeFaults) : String :=
  let attached := if f.attached.isEmpty then []
    else [("attached", Report.properties (Report.members f.attached))]
  Report.properties (Report.members f.own ++ attached)

/-- Devices with fields out of range, by their place in the list. -/
def Setup.deviceFaults (s : Setup) : List (Nat × List FieldFault) :=
  (s.devices.mapIdx fun i d => (i, d.fieldFaults)).filter fun e => !e.2.isEmpty

def deviceReport (faults : List (Nat × List FieldFault)) : String :=
  Report.properties
    [("devices", Report.items (faults.map fun e => (e.1, Report.properties (Report.members e.2))))]

/-! ## Rules that need the whole setup -/

inductive SetupFault where
  | duplicateName (name : String)
  | unknownAttachment (composite device : String)
  | repeatedAttachment (composite device : String)
  | unorderedLimits (name : String) (range : Limits Float)
  | invalidFields (name : String) (faults : CompositeFaults)
  | equalStates (name : String)
  deriving DecidableEq

def SetupFault.message : SetupFault → String
  | duplicateName name => "name '" ++ name ++ "' is declared more than once"
  | unknownAttachment composite device =>
    "composite '" ++ composite ++ "' attaches unknown device '" ++ device ++ "'"
  | repeatedAttachment composite device =>
    "composite '" ++ composite ++ "' attaches '" ++ device ++ "' more than once"
  | unorderedLimits name range => "'" ++ name ++ "': limits " ++ range.text ++ " are not ordered"
  | invalidFields name faults => "'" ++ name ++ "': " ++ faults.report
  | equalStates name => "'" ++ name ++ "': active_state and parked_state must differ"

/-- A fault for each name that was seen before. -/
def duplicateFaults (seen : List String) : List String → List SetupFault
  | [] => []
  | name :: names =>
    (if name ∈ seen then [.duplicateName name] else []) ++ duplicateFaults (name :: seen) names

/-- Faults of attached names, those attached already being `seen`. -/
def attachmentFaults (composite : String) (known : List String) (seen : List String) :
    List String → List SetupFault
  | [] => []
  | name :: names =>
    (if name ∈ known then [] else [.unknownAttachment composite name])
      ++ (if name ∈ seen then [.repeatedAttachment composite name] else [])
      ++ attachmentFaults composite known (name :: seen) names

/-- Faults of one composite, where the `known` names are declared before it. -/
def CompositeConfig.faults (c : CompositeConfig) (known : List String) : List SetupFault :=
  let fields := c.kind.fieldFaults
  let range := c.kind.limits
  (if fields.isEmpty then [] else [.invalidFields c.name fields])
    ++ (if range.isOrdered then [] else [.unorderedLimits c.name range])
    ++ (match c.kind with
      | .doubleCrystal d => if d.activeState = d.parkedState then [.equalStates c.name] else []
      | .bragg _ => [])
    ++ attachmentFaults c.name known [] c.kind.attachedNames

def compositeFaults (known : List String) : List CompositeConfig → List SetupFault
  | [] => []
  | c :: cs => c.faults known ++ compositeFaults (c.name :: known) cs

def Setup.faults (s : Setup) : List SetupFault :=
  duplicateFaults [] s.names ++ compositeFaults (s.devices.map (·.name)) s.composites

end Beamline
