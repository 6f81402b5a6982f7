import Beamline.Action
import Beamline.Error
import Beamline.Random.Chance

/-!
Faults a simulated device is made to show. A fault that sticks wins over scenarios, scenarios
over chance. Scenarios are gone through in order, and the first that fires decides; a lost
connection and a hardware fault then stick until `reset`.
-/

namespace Beamline

inductive Scenario where
  /-- Fail every `operation` but the first `count`. -/
  | failAfter (operation : String) (count : Nat)
  | timeout (operation : String)
  | communicationLoss
  | hardwareFault (code : Nat)
  deriving DecidableEq, Repr

inductive StickyFault where
  | communicationLost
  | hardware (code : Nat)
  deriving DecidableEq, Repr

def StickyFault.fault : StickyFault → DriverFault
  | communicationLost => .communicationLost
  | hardware code => .hardware code

/-- How often each operation was counted. -/
abbrev Counts := String → Nat

/-- Count an operation once more, in the 32 bits that a counter has. -/
def Counts.bump (counts : Counts) (operation : String) : Counts := fun other =>
  if other = operation then (counts operation + 1) % twoTo 32 else counts other

inductive Verdict where
  | pass
  | once (fault : DriverFault)
  | stick (fault : StickyFault)
  deriving DecidableEq, Repr

/-- What the scenarios say about one more `operation`. Each entry that counts the operation
counts it once more. -/
def Scenario.consult (operation : String) : List Scenario → Counts → Verdict × Counts
  | [], counts => (.pass, counts)
  | failAfter op count :: rest, counts =>
    if op = operation then
      let counts := counts.bump operation
      if counts operation ≤ count then consult operation rest counts
      else (.once (.afterOperations count), counts)
    else consult operation rest counts
  | timeout op :: rest, counts =>
    if op = operation then (.once (.timedOut operation), counts)
    else consult operation rest counts
  | communicationLoss :: _, counts => (.stick .communicationLost, counts)
  | hardwareFault code :: _, counts => (.stick (.hardware code), counts)

structure Faults (α : Type) where
  /-- Failure rates by operation; `*` stands for every operation without one of its own. -/
  rates : List (String × α)
  scenarios : List Scenario
  source : Random.Source
  counts : Counts
  sticky : Option StickyFault

namespace Faults

variable {α : Type} [Scalar α]

def make (rates : List (String × α)) (scenarios : List Scenario) (seed : UInt64) : Faults α :=
  ⟨rates, scenarios, .ofSeed seed, fun _ => 0, none⟩

def none : Faults α := make [] [] 0

/-- One rate for every operation. -/
def random (rate : α) (seed : UInt64) : Faults α := make [("*", rate)] [] seed

def ofScenarios (scenarios : List Scenario) : Faults α := make [] scenarios 0

def ofRates (rates : List (String × α)) : Faults α := make rates [] 0

def rate (f : Faults α) (operation : String) : α :=
  ((f.rates.lookup operation).or (f.rates.lookup "*")).getD 0

/-- Decide whether this `operation` of `device` fails. -/
def check (device operation : String) : Action (Faults α) DriverError Unit := fun f =>
  match f.sticky with
  | some s => (.error ⟨device, s.fault⟩, f)
  | Option.none =>
    match Scenario.consult operation f.scenarios f.counts with
    | (.once fault, counts) => (.error ⟨device, fault⟩, { f with counts })
    | (.stick s, counts) => (.error ⟨device, s.fault⟩, { f with counts, sticky := some s })
    | (.pass, counts) =>
      let (fails, source) := f.source.happens (f.rate operation)
      let f := { f with counts, source }
      (if fails then .error ⟨device, .random operation⟩ else .ok (), f)

/-- The fault that sticks, if one does. -/
def fault (f : Faults α) (device : String) : Option DriverError :=
  f.sticky.map fun s => ⟨device, s.fault⟩

/-- Forget counts and what sticks. Draws made by chance stay made. -/
def reset (f : Faults α) : Faults α := { f with counts := fun _ => 0, sticky := Option.none }

theorem check_of_sticky {f : Faults α} {s : StickyFault} (h : f.sticky = some s)
    (device operation : String) : check device operation f = (.error ⟨device, s.fault⟩, f) := by
  simp [check, h]

end Faults
end Beamline
