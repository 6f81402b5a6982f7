import Beamline.Device

/-!
A laboratory: devices by number, one clock, the calls made of them and what was noted. The controls
of depth `d` operate every device whose attachments nest no deeper than `d`, through those of depth
`d - 1`; a composite is added after the devices attached to it, so the count of devices is deep
enough.
Calls of composites are not recorded, only what they ask of others.
-/

namespace Beamline

structure Lab (α : Type) [Scalar α] where
  devices : List (Device α)
  clock : Clock
  calls : CallLog α
  events : List Event

namespace Lab

variable {α ε β : Type} [Scalar α]

def empty : Lab α := ⟨[], .start, [], []⟩

def device? (lab : Lab α) (i : DeviceId) : Option (Device α) := lab.devices[i]?

def put (i : DeviceId) (d : Device α) (lab : Lab α) : Lab α :=
  { lab with devices := lab.devices.set i d }

/-- Add a device and answer its number. -/
def add (d : Device α) (lab : Lab α) : DeviceId × Lab α :=
  (lab.devices.length, { lab with devices := lab.devices ++ [d] })

def noted (e : Event) (lab : Lab α) : Lab α := { lab with events := lab.events ++ [e] }

def noteAll (es : List Event) (lab : Lab α) : Lab α := { lab with events := lab.events ++ es }

/-- Some time goes by. -/
def tick (pace : Pace) (lab : Lab α) : Lab α := { lab with clock := lab.clock.pass pace 0 }

def sleep (pace : Pace) (span : Nat) (lab : Lab α) : Lab α :=
  { lab with clock := lab.clock.pass pace span }

/-- Record a call and answer when it is made. -/
def call (pace : Pace) (device : String) (operation : Operation) (value : Option (Value α)) :
    Action (Lab α) ε Nat := fun lab =>
  let lab := lab.tick pace
  (.ok lab.clock.now, { lab with calls := lab.calls ++ [⟨device, operation, value⟩] })

/-- Operate the motor that has number `i`. -/
def onMotor (i : DeviceId) (m : Motor α) (x : Action (Motor α) ε β) : Action (Lab α) ε β :=
  fun lab =>
    let (r, m) := x m
    (r, lab.put i (.motor m))

def onSwitch (i : DeviceId) (s : Switch α) (x : Action (Switch α) ε β) : Action (Lab α) ε β :=
  fun lab =>
    let (r, s) := x s
    (r, lab.put i (.switch s))

def onStandIn (i : DeviceId) (d : StandIn α) (x : Action (StandIn α) ε β) :
    Action (Lab α) ε β := fun lab =>
  let (r, d) := x d
  (r, lab.put i (.standIn d))

def motorRead (pace : Pace) (i : DeviceId) (m : Motor α) (maxAge : Nat) :
    Action (Lab α) (DeviceError α) (Value α) := do
  let now ← call pace m.name .read none
  onMotor i m (Motor.read now maxAge)

def switchRead (pace : Pace) (i : DeviceId) (s : Switch α) :
    Action (Lab α) (DeviceError α) (Value α) := do
  let now ← call pace s.name .read none
  onSwitch i s (Switch.read now)

def standInRead (pace : Pace) (i : DeviceId) (d : StandIn α) :
    Action (Lab α) (DeviceError α) (Value α) := do
  let _ ← call pace d.name .read none
  onStandIn i d StandIn.read

def say (level : Level) (device text : String) : Action (Lab α) ε Unit :=
  Action.change (noted ⟨level, some device, text⟩)

def motorStart (pace : Pace) (i : DeviceId) (m : Motor α) (target : Value α) :
    Action (Lab α) (DeviceError α) Unit := do
  let now ← call pace m.name .start (some target)
  let origin ← onMotor i m (Motor.start now target)
  say .debug m.name ("moving from " ++ Scalar.fixed 3 origin ++ " to "
    ++ Scalar.fixed 3 (target.scalar?.getD origin) ++ " " ++ m.unit)

def switchStart (pace : Pace) (i : DeviceId) (s : Switch α) (target : Value α) :
    Action (Lab α) (DeviceError α) Unit := do
  let now ← call pace s.name .start (some target)
  let state ← onSwitch i s (Switch.start now target)
  say .debug s.name ("switching to " ++ state)

def standInStart (pace : Pace) (i : DeviceId) (d : StandIn α) (target : Value α) :
    Action (Lab α) (DeviceError α) Unit := do
  let _ ← call pace d.name .start (some target)
  onStandIn i d (StandIn.start target)

def motorStop (pace : Pace) (i : DeviceId) (m : Motor α) :
    Action (Lab α) (DeviceError α) Unit := do
  let now ← call pace m.name .stop none
  let at? ← onMotor i m (Motor.stop now)
  match at? with
  | some x => say .debug m.name ("stopped at " ++ Scalar.fixed 3 x ++ " " ++ m.unit)
  | none => pure ()

def switchStop (pace : Pace) (i : DeviceId) (s : Switch α) :
    Action (Lab α) (DeviceError α) Unit := do
  let _ ← call pace s.name .stop none
  onSwitch i s Switch.stop

def standInStop (pace : Pace) (i : DeviceId) (d : StandIn α) :
    Action (Lab α) (DeviceError α) Unit := do
  let _ ← call pace d.name .stop none
  onStandIn i d StandIn.stop

def motorWait (pace : Pace) (i : DeviceId) (m : Motor α) :
    Action (Lab α) (DeviceError α) Unit := do
  let _ ← call pace m.name .wait none
  fun lab =>
    let (r, m, clock) := Motor.wait pace (m, lab.clock)
    (r, { lab.put i (.motor m) with clock })

def switchWait (pace : Pace) (i : DeviceId) (s : Switch α) :
    Action (Lab α) (DeviceError α) Unit := do
  let _ ← call pace s.name .wait none
  fun lab =>
    let (r, s, clock) := Switch.wait pace (s, lab.clock)
    (r, { lab.put i (.switch s) with clock })

def standInWait (pace : Pace) (i : DeviceId) (d : StandIn α) :
    Action (Lab α) (DeviceError α) Unit := do
  let _ ← call pace d.name .wait none
  onStandIn i d StandIn.wait

/-- A status never fails; it takes note of what is over. -/
def motorStatus (pace : Pace) (i : DeviceId) (m : Motor α) (lab : Lab α) : Status × Lab α :=
  let lab := ((call pace m.name .status none : Action (Lab α) Empty Nat) lab).2
  (m.status lab.clock.now, lab.put i (.motor (m.advance lab.clock.now)))

def switchStatus (pace : Pace) (i : DeviceId) (s : Switch α) (lab : Lab α) : Status × Lab α :=
  let lab := ((call pace s.name .status none : Action (Lab α) Empty Nat) lab).2
  (s.status lab.clock.now, lab.put i (.switch (s.advance lab.clock.now)))

def standInStatus (pace : Pace) (d : StandIn α) (lab : Lab α) : Status × Lab α :=
  (d.report, ((call pace d.name .status none : Action (Lab α) Empty Nat) lab).2)

/-- The answer for a number that no device has, or whose attachments nest too deep. -/
def missing : DeviceError α := .notFound "device"

def nameOf (lab : Lab α) (i : DeviceId) : String := ((lab.device? i).map Device.name).getD ""

def formatOf (lab : Lab α) (i : DeviceId) (v : Value α) : String :=
  match lab.device? i with
  | some d => d.format v
  | none => v.text

/-- Operate devices whose attachments nest less than `depth` deep. -/
def controlsTo (pace : Pace) : (depth : Nat) → Controls DeviceId (Lab α) α
  | 0 => {
      name := nameOf
      format := formatOf
      isAllowed := fun _ _ _ => .error missing
      read := fun _ _ => Action.fail missing
      start := fun _ _ => Action.fail missing
      stop := fun _ => Action.fail missing
      wait := fun _ => Action.fail missing
      status := fun _ _ lab => (⟨.unknown, (missing : DeviceError α).message⟩, lab)
      note := noted }
  | depth + 1 =>
    let below := controlsTo pace depth
    { name := nameOf
      format := formatOf
      isAllowed := fun lab i v =>
        match lab.device? i with
        | none => .error missing
        | some (.motor m) => m.isAllowed v
        | some (.switch s) => s.isAllowed v
        | some (.standIn d) => d.isAllowed v
        | some (.composite c) => c.isAllowed below lab v
      read := fun i maxAge lab =>
        match lab.device? i with
        | none => (.error missing, lab)
        | some (.motor m) => motorRead pace i m maxAge lab
        | some (.switch s) => switchRead pace i s lab
        | some (.standIn d) => standInRead pace i d lab
        | some (.composite c) => c.read below maxAge lab
      start := fun i v lab =>
        match lab.device? i with
        | none => (.error missing, lab)
        | some (.motor m) => motorStart pace i m v lab
        | some (.switch s) => switchStart pace i s v lab
        | some (.standIn d) => standInStart pace i d v lab
        | some (.composite c) =>
          match c.moveTo below v lab with
          | (.error e, lab) => (.error e, lab)
          | (.ok c, lab) => (.ok (), lab.put i (.composite c))
      stop := fun i lab =>
        match lab.device? i with
        | none => (.error missing, lab)
        | some (.motor m) => motorStop pace i m lab
        | some (.switch s) => switchStop pace i s lab
        | some (.standIn d) => standInStop pace i d lab
        | some (.composite c) => c.stop below lab
      wait := fun i lab =>
        match lab.device? i with
        | none => (.error missing, lab)
        | some (.motor m) => motorWait pace i m lab
        | some (.switch s) => switchWait pace i s lab
        | some (.standIn d) => standInWait pace i d lab
        | some (.composite c) => c.wait below lab
      status := fun i maxAge lab =>
        match lab.device? i with
        | none => (⟨.unknown, (missing : DeviceError α).message⟩, lab)
        | some (.motor m) => motorStatus pace i m lab
        | some (.switch s) => switchStatus pace i s lab
        | some (.standIn d) => standInStatus pace d lab
        | some (.composite c) => c.status below maxAge lab
      note := noted }

theorem controlsTo_name {pace : Pace} {depth : Nat} :
    (controlsTo pace depth).name = (nameOf : Lab α → DeviceId → String) := by
  cases depth <;> simp only [controlsTo]

theorem controlsTo_note {pace : Pace} {depth : Nat} :
    (controlsTo pace depth).note = (noted : Event → Lab α → Lab α) := by
  cases depth <;> simp only [controlsTo]

/-- Operate any device of the laboratory. -/
def controls (lab : Lab α) (pace : Pace) : Controls DeviceId (Lab α) α :=
  controlsTo pace lab.devices.length

/-! ## Simulated devices looked at from outside -/

/-- Look at motor `i`, which first takes note of a move that is over. -/
def lookMotor (pace : Pace) (i : DeviceId) (look : Motor α → Nat → β) (lab : Lab α) :
    Option β × Lab α :=
  let lab := lab.tick pace
  match lab.device? i with
  | some (.motor m) =>
    (some (look m lab.clock.now), lab.put i (.motor (m.advance lab.clock.now)))
  | _ => (none, lab)

def lookSwitch (pace : Pace) (i : DeviceId) (look : Switch α → Nat → β) (lab : Lab α) :
    Option β × Lab α :=
  let lab := lab.tick pace
  match lab.device? i with
  | some (.switch s) =>
    (some (look s lab.clock.now), lab.put i (.switch (s.advance lab.clock.now)))
  | _ => (none, lab)

/-- Change a simulated device by hand. -/
def adjustMotor (i : DeviceId) (f : Motor α → Motor α) (lab : Lab α) : Lab α :=
  match lab.device? i with
  | some (.motor m) => lab.put i (.motor (f m))
  | _ => lab

def adjustSwitch (i : DeviceId) (f : Switch α → Switch α) (lab : Lab α) : Lab α :=
  match lab.device? i with
  | some (.switch s) => lab.put i (.switch (f s))
  | _ => lab

def faultOf (lab : Lab α) (i : DeviceId) : Option DriverError :=
  match lab.device? i with
  | some (.motor m) => m.faults.fault m.name
  | some (.switch s) => s.faults.fault s.name
  | _ => none

def resetFaults (i : DeviceId) (lab : Lab α) : Lab α :=
  (lab.adjustMotor i fun m => { m with faults := m.faults.reset }).adjustSwitch i
    fun s => { s with faults := s.faults.reset }

/-! ## Adding composites -/

/-- Build a composite from a draft and add it. -/
def addComposite (d : Draft DeviceId α) (lab : Lab α) :
    Except (DeviceError α) DeviceId × Lab α :=
  match d.build with
  | .error e => (.error e, lab)
  | .ok c =>
    let gate := match c.gate with
      | some g => lab.nameOf g.device
      | none => "none"
    let (i, lab) := (lab.noted ⟨.debug, some c.name,
      "composite with " ++ toString c.axes.length ++ " axes, gate: " ++ gate⟩).add (.composite c)
    (.ok i, lab)

end Lab
end Beamline
