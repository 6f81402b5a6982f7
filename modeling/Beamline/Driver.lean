import Beamline.Device
import Beamline.Toml.Access

/-!
Drivers build devices from settings. Each one can check settings without building anything. The
simulated ones accept no fields they do not know.
-/

namespace Beamline

inductive SettingsError where
  | malformed
  | speed (x : Float)
  | limits (range : Limits Float)
  | noStates
  | initial (state : String) (states : List String)
  deriving DecidableEq

/-- Settings of the wrong shape are told by a fixed word. -/
def SettingsError.message : SettingsError → String
  | malformed => "<toml>"
  | speed x => "speed must be positive, got " ++ Scalar.text x
  | limits range => "limits " ++ range.text ++ " are not ordered"
  | noStates => "a switch needs at least one state"
  | initial state states =>
    "initial state '" ++ state ++ "' is not one of " ++ Text.quotedList states

structure Driver where
  /-- The name that setups use. -/
  id : String
  title : String
  category : Category
  validate : Toml → Except SettingsError Unit
  build : String → Toml → Except SettingsError (Device Float)

open Toml

def Pacing.ofToml? (v : Toml) : Option Pacing :=
  match v.choice? with
  | some "instant" => some .instant
  | some "realistic" => some .realistic
  | _ => none

/-! ## Motors -/

structure MotorSettings where
  position : Float
  speed : Float
  unit : String
  limits : Option (Limits Float)
  pacing : Pacing
  deriving DecidableEq

namespace MotorSettings

def standard : MotorSettings := ⟨0, 5, "mm", none, .instant⟩

def fieldNames : List String := ["initial_position", "speed", "unit", "limits", "mode"]

def ofToml? (v : Toml) : Option MotorSettings :=
  if v.hasOnly fieldNames then do
    let field ← v.record? .rejected fieldNames
    return {
      position := ← defaulted field "initial_position" number? standard.position
      speed := ← defaulted field "speed" number? standard.speed
      unit := ← defaulted field "unit" wording? standard.unit
      limits := ← Toml.optional field "limits" (limits? .rejected)
      pacing := ← defaulted field "mode" Pacing.ofToml? standard.pacing }
  else none

/-- A speed that does not compare with zero passes. -/
def check (s : MotorSettings) : Except SettingsError Unit :=
  if s.speed ≤ 0 then .error (.speed s.speed)
  else match s.limits with
    | some range => if range.isOrdered then .ok () else .error (.limits range)
    | none => .ok ()

def motor (s : MotorSettings) (name : String) : Motor Float :=
  { Motor.make name with
    position := s.position, speed := s.speed, unit := s.unit, limits := s.limits
    pacing := s.pacing }

end MotorSettings

def motorDriver : Driver where
  id := "mock_motor"
  title := "Mock Motor"
  category := .motor
  validate v := match MotorSettings.ofToml? v with
    | some s => s.check
    | none => .error .malformed
  build name v := match MotorSettings.ofToml? v with
    | some s => .ok (.motor (s.motor name))
    | none => .error .malformed

/-! ## Switches -/

structure SwitchSettings where
  states : List String
  initial : Option String
  pacing : Pacing
  deriving DecidableEq

namespace SwitchSettings

def standard : SwitchSettings := ⟨Switch.defaultStates, none, .instant⟩

def fieldNames : List String := ["states", "initial", "mode"]

def ofToml? (v : Toml) : Option SwitchSettings :=
  if v.hasOnly fieldNames then do
    let field ← v.record? .rejected fieldNames
    return {
      states := ← defaulted field "states" wordings? standard.states
      initial := ← Toml.optional field "initial" wording?
      pacing := ← defaulted field "mode" Pacing.ofToml? standard.pacing }
  else none

def check (s : SwitchSettings) : Except SettingsError Unit :=
  if s.states = [] then .error .noStates
  else match s.initial with
    | some state => if state ∈ s.states then .ok () else .error (.initial state s.states)
    | none => .ok ()

def switch (s : SwitchSettings) (name : String) : Switch Float :=
  { Switch.make name s.states s.initial with pacing := s.pacing }

end SwitchSettings

def switchDriver : Driver where
  id := "mock_switch"
  title := "Mock Switch"
  category := .switch
  validate v := match SwitchSettings.ofToml? v with
    | some s => s.check
    | none => .error .malformed
  build name v := match SwitchSettings.ofToml? v with
    | some s => .ok (.switch (s.switch name))
    | none => .error .malformed

/-- The drivers of simulated devices. -/
def simulatedDrivers : List Driver := [motorDriver, switchDriver]

end Beamline
