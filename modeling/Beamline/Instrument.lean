import Beamline.Driver
import Beamline.Lab
import Beamline.Registry
import Beamline.Setup.Assembly
import Beamline.Setup.Load

/-!
An instrument: a laboratory, the names of its devices, and the drivers that build more of them.
A setup is built device by device and then composite by composite; the first failure ends it, and
what was built before stays.
-/

namespace Beamline

structure Instrument where
  drivers : List Driver
  registry : Registry DeviceId
  lab : Lab Float

inductive RegisterError where
  | taken (name : String)
  | noDriver (driver name : String)
  | rejected (name driver : String) (why : SettingsError)
  | notBuilt (name : String) (why : SettingsError)
  | device (e : DeviceError Float)
  | composite (name : String) (e : DeviceError Float)
  deriving DecidableEq

/-- What went wrong, and in front of it in doing what. -/
def RegisterError.chain : RegisterError → List String
  | taken name => ["Device '" ++ name ++ "' is already registered"]
  | noDriver driver name => ["No driver factory for '" ++ driver ++ "' (device '" ++ name ++ "')"]
  | rejected name driver why =>
    ["Configuration validation failed for device '" ++ name ++ "' (" ++ driver ++ ")", why.message]
  | notBuilt name why => ["Failed to build device '" ++ name ++ "'", why.message]
  | device e => [e.message]
  | composite name e => ["Failed to build composite '" ++ name ++ "'", e.message]

/-- An instrument is not there: its setup could not be loaded, or not be built. -/
inductive OpenError where
  | setup (e : SetupError)
  | building (e : RegisterError)
  deriving DecidableEq

def OpenError.chain : OpenError → List String
  | setup e => e.chain
  | building e => e.chain

namespace Instrument

variable {ε β : Type}

def empty : Instrument := ⟨[], .empty, .empty⟩

def note (level : Level) (text : String) (i : Instrument) : Instrument :=
  { i with lab := i.lab.noted ⟨level, none, text⟩ }

def say (level : Level) (text : String) : Action Instrument ε Unit := Action.change (note level text)

/-- Do something in the laboratory. -/
def inLab (x : Action (Lab Float) ε β) : Action Instrument ε β := fun i =>
  let (r, lab) := x i.lab
  (r, { i with lab })

/-! ## Drivers -/

def driver? (i : Instrument) (id : String) : Option Driver := i.drivers.find? fun d => d.id == id

/-- Add a driver, in the place of one with the same name. -/
def addDriver (d : Driver) (i : Instrument) : Instrument :=
  let noted := i.note .debug ("Registering driver factory '" ++ d.id ++ "' (" ++ d.title ++ ")")
  let next := { noted with drivers := i.drivers.filter (fun e => e.id != d.id) ++ [d] }
  if (i.driver? d.id).isSome then next.note .warn ("Driver factory '" ++ d.id ++ "' replaced")
  else next

def addDrivers (ds : List Driver) (i : Instrument) : Instrument :=
  ds.foldl (fun i d => i.addDriver d) i

/-- The names of all drivers, sorted. -/
def driverIds (i : Instrument) : List String :=
  (i.drivers.map (·.id)).mergeSort fun a b => decide (a ≤ b)

/-- Ready to build simulated devices. -/
def simulated : Instrument := empty.addDrivers simulatedDrivers

/-! ## Names -/

def resolve (i : Instrument) (name : String) : Except (DeviceError Float) DeviceId :=
  match i.registry.get? name with
  | some id => .ok id
  | none => .error (.configuration (.unresolved name))

/-- Register a device of the laboratory under a name that is free. -/
def insert (name driver : String) (id : DeviceId) : Action Instrument (DeviceError Float) Unit :=
  fun i =>
    match i.registry.insert? name driver id with
    | some registry => (.ok (), { i with registry })
    | none => (.error (.configuration (.taken name)), i)

/-- Add a device and register it; nothing is added under a name that is taken. -/
def insertDevice (name driver : String) (d : Device Float) :
    Action Instrument (DeviceError Float) Unit := fun i =>
  let (id, lab) := i.lab.add d
  match insert name driver id { i with lab } with
  | (.ok (), next) => (.ok (), next)
  | (.error e, _) => (.error e, i)

/-- Forget a name. Composites that hold the device keep it. -/
def unregister (name : String) (i : Instrument) : Bool × Instrument :=
  (i.registry.contains name, { i with registry := i.registry.remove name })

/-- Name, driver, category and unit of every device, by name. -/
def listing (i : Instrument) : List (String × String × Category × String) :=
  i.registry.sorted.map fun e =>
    match i.lab.device? e.device with
    | some d => (e.name, e.driver, d.category, d.unit)
    | none => (e.name, e.driver, .other, "")

/-! ## Building -/

/-- Carry a failure over into what it means for registering. -/
def orElse {ε' : Type} (f : ε → ε') (x : Action Instrument ε β) : Action Instrument ε' β := fun i =>
  match x i with
  | (.ok b, i) => (.ok b, i)
  | (.error e, i) => (.error (f e), i)

/-- The device that the driver named in `c` builds from its settings. -/
def build (i : Instrument) (c : DeviceConfig) : Except RegisterError (Device Float) :=
  if i.registry.contains c.name then .error (.taken c.name)
  else match i.driver? c.driver with
    | none => .error (.noDriver c.driver c.name)
    | some driver =>
      match driver.validate c.settings with
      | .error why => .error (.rejected c.name c.driver why)
      | .ok () =>
        match driver.build c.name c.settings with
        | .error why => .error (.notBuilt c.name why)
        | .ok d => .ok d

/-- Build a device and register it. -/
def register (c : DeviceConfig) : Action Instrument RegisterError Unit := do
  let i ← Action.look
  let d ← Action.settle (i.build c)
  orElse .device (insertDevice c.name c.driver d)
  say .info ("Registered device '" ++ c.name ++ "' (" ++ c.driver ++ ")")

/-- Build a composite in the laboratory, without a name for it yet. -/
def buildComposite (c : CompositeConfig) (mode : Mode) :
    Action Instrument (DeviceError Float) DeviceId := do
  let i ← Action.look
  let draft ← Action.settle (c.draft mode i.resolve)
  inLab (Lab.addComposite draft)

def modeName : Mode → String
  | .master => "Master"
  | .simulation => "Simulation"

def registerComposite (mode : Mode) (c : CompositeConfig) : Action Instrument RegisterError Unit := do
  let id ← orElse (.composite c.name) (buildComposite c mode)
  orElse .device (insert c.name c.kind.label id)
  say .info ("Registered composite '" ++ c.name ++ "' (" ++ c.kind.label ++ ", "
    ++ modeName mode ++ " mode)")

/-- Do the same with each item, up to the first failure. -/
def forEach (f : β → Action Instrument ε Unit) : List β → Action Instrument ε Unit
  | [] => pure ()
  | b :: bs => do
    f b
    forEach f bs

def buildSetup (s : Setup) : Action Instrument RegisterError Unit := do
  forEach register s.devices
  forEach (registerComposite s.mode) s.composites

/-! ## An instrument to try things out with -/

private def trialMotor (name : String) (position : Float) (unit : String) : DeviceConfig :=
  ⟨name, "mock_motor", .table .header [("initial_position", .float position), ("unit", .text unit)]⟩

/-- A double-crystal monochromator that stands at two Angstrom. -/
def trialSetup : Setup where
  mode := .master
  devices := [
    ⟨"mono_inout", "mock_switch", .table .header [("initial", .text "in")]⟩,
    trialMotor "mr1" 145.3068 "deg",
    trialMotor "mr2" 34.6932 "deg",
    trialMotor "mtz" (-140.1212) "mm"]
  composites := [⟨"mono", .doubleCrystal {
    dvalue1 := 3.354
    dvalue2 := 3.354
    distance := 97
    tolphi := 0.01
    toltrans := 0.01
    limits := ⟨1.4, 6.5⟩
    unit := "Angstrom"
    activeState := "in"
    parkedState := "out"
    attached := ⟨"mono_inout", "mr1", "mr2", "mtz"⟩ }⟩]

/-! ## From a setup to an instrument -/

/-- Build what was loaded. The instrument is only good for use if nothing failed. -/
def ofLoaded (loaded : Except SetupError Setup × List Event) : Except OpenError Unit × Instrument :=
  let begun := { empty with lab := Lab.empty.noteAll loaded.2 }
  match loaded.1 with
  | .error e => (.error (.setup e), begun)
  | .ok s =>
    match buildSetup s (begun.addDrivers simulatedDrivers) with
    | (.error e, i) => (.error (.building e), i)
    | (.ok (), i) => (.ok (), i)

def ofText (text : String) : Except OpenError Unit × Instrument := ofLoaded (Setup.load text, [])

def ofFile (path : String) (content : Option String) : Except OpenError Unit × Instrument :=
  ofLoaded (Setup.loadFile path content)

/-- The instrument of the trial setup. -/
def trial : Except OpenError Unit × Instrument := ofLoaded (.ok trialSetup, [])

end Instrument
end Beamline
