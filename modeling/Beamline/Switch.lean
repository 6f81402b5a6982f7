import Beamline.CallLog
import Beamline.Clock
import Beamline.Faults
import Beamline.Simulated
import Beamline.Status

/-!
A simulated device with a fixed set of named states, such as an in/out drive or a crystal changer.
While it changes between states it is busy and reads as undefined.
-/

namespace Beamline

/-- The reading of a switch that is in none of its states. -/
def undefinedState : String := "<undefined>"

structure Switch (α : Type) where
  name : String
  states : List String
  pacing : Pacing
  timing : Timing
  faults : Faults α
  current : Option String
  /-- The state to come and when it is reached. -/
  pending : Option (String × Nat)

namespace Switch

variable {α : Type} [Scalar α]

def defaultStates : List String := ["in", "out"]

/-- An instant switch in the state `initial`, or else in its first one. -/
def make (name : String) (states : List String) (initial : Option String) : Switch α where
  name
  states
  pacing := .instant
  timing := .switch
  faults := .none
  current := initial.or states.head?
  pending := none

def isSwitching (s : Switch α) (now : Nat) : Bool :=
  match s.pending with
  | some (_, done) => decide (now < done)
  | none => false

/-- Take note of a change that is over. -/
def advance (s : Switch α) (now : Nat) : Switch α :=
  match s.pending with
  | some (state, done) => if done ≤ now then { s with current := some state, pending := none } else s
  | none => s

def currentAt (s : Switch α) (now : Nat) : Option String := (s.advance now).current

/-- Put the switch into a state by hand, or between its states. -/
def place (s : Switch α) (state : Option String) : Switch α :=
  { s with current := state, pending := none }

def isAllowed (s : Switch α) (target : Value α) : Except (DeviceError α) Unit :=
  match target with
  | .state name =>
    if name ∈ s.states then .ok ()
    else .error (.invalidValue s.name (.notAState target s.states))
  | _ => .error (.invalidValue s.name (.notAState target s.states))

/-- Fail here if `operation` is to fail by injection. -/
def guard (operation : Operation) : Action (Switch α) (DeviceError α) Unit := fun s =>
  match Faults.check s.name operation.name s.faults with
  | (.ok (), faults) => (.ok (), { s with faults })
  | (.error e, faults) => (.error (.driver e), { s with faults })

def readingAt (s : Switch α) (now : Nat) : String :=
  if s.isSwitching now then undefinedState else (s.currentAt now).getD undefinedState

def read (now : Nat) : Action (Switch α) (DeviceError α) (Value α) := do
  guard .read
  Action.change fun s => s.advance now
  let s ← Action.look
  pure (.state (s.readingAt now))

/-- Set off for a state; an instant switch is there at once. -/
def depart (now : Nat) (state : String) (s : Switch α) : Switch α :=
  match s.pacing with
  | .instant => { s with current := some state, pending := none }
  | .realistic => { s with current := none, pending := some (state, now + s.timing.switching) }

/-- Start for `target`, and answer its name. -/
def start (now : Nat) (target : Value α) : Action (Switch α) (DeviceError α) String := do
  guard .start
  let s ← Action.look
  Action.settle (s.isAllowed target)
  let state := target.state?.getD ""
  Action.change (depart now state)
  pure state

/-- A change of state cannot be stopped. -/
def stop : Action (Switch α) (DeviceError α) Unit := pure ()

/-- The end of a wait, by the result of `await`. -/
def afterWait (s : Switch α) : Bool × Clock → Except (DeviceError α) Unit × Switch α × Clock
  | (true, clock) => (.ok (), s.advance clock.now, clock)
  | (false, clock) => (.error (.driver ⟨s.name, .notSwitched⟩), s, clock)

/-- Wait until a change is over, no longer than the timeout. The clock is looked at for the deadline
first. -/
def wait (pace : Pace) : Action (Switch α × Clock) (DeviceError α) Unit := fun (s, clock) =>
  match guard .wait s with
  | (.error e, s) => (.error e, s, clock)
  | (.ok (), s) =>
    s.afterWait
      ((clock.look pace).await pace s.isSwitching (clock.now + s.timing.waitTimeout))

/-- A fault that sticks is reported, and never an error. -/
def status (s : Switch α) (now : Nat) : Status :=
  match s.faults.fault s.name with
  | some e => ⟨.error, e.fault.message⟩
  | none =>
    if s.isSwitching now then ⟨.busy, "switching"⟩
    else match s.currentAt now with
      | some _ => .idle
      | none => ⟨.error, "position is " ++ undefinedState⟩

end Switch
end Beamline
