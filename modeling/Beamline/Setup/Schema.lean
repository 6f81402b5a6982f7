import Beamline.Composite.Basic
import Beamline.Toml.Settings

/-!
Setups of an instrument: the devices to build, and the composites over them. Composites are
declared by kind with the names of the devices to attach; a name must come before its use.
A list may stand for a record. One in the declaration of a composite must not be too long; one
that stands alone, or is a device, may be.
-/

namespace Beamline

/-- A device for a driver to build. The driver alone knows what its settings mean. -/
structure DeviceConfig where
  name : String
  driver : String
  settings : Toml

structure DoubleCrystalNames where
  inout : String
  phi1 : String
  phi2 : String
  stage : String
  deriving DecidableEq, Repr

structure DoubleCrystalConfig where
  dvalue1 : Float
  dvalue2 : Float
  distance : Float
  /-- Degrees by which either angle may be off. -/
  tolphi : Float
  toltrans : Float
  limits : Limits Float
  unit : String
  activeState : String
  parkedState : String
  attached : DoubleCrystalNames

structure BraggNames where
  tthm : String
  omgm : String
  /-- A crystal changer, which must read the crystal of the setup. -/
  crystal : Option String
  deriving DecidableEq, Repr

/-- The spacing is given, or looked up by crystal and plane. -/
structure BraggConfig where
  crystal : Option String
  plane : Option String
  spacing : Option Float
  /-- Added to the offset of a plane that is looked up. -/
  offset : Float
  tolTthm : Float
  tolOmgm : Float
  limits : Limits Float
  unit : String
  attached : BraggNames

inductive CompositeKind where
  | doubleCrystal (c : DoubleCrystalConfig)
  | bragg (c : BraggConfig)

structure CompositeConfig where
  name : String
  kind : CompositeKind

structure Setup where
  mode : Mode
  devices : List DeviceConfig
  composites : List CompositeConfig

def DoubleCrystalNames.all (n : DoubleCrystalNames) : List String :=
  [n.inout, n.phi1, n.phi2, n.stage]

def BraggNames.all (n : BraggNames) : List String := [n.tthm, n.omgm] ++ n.crystal.toList

namespace CompositeKind

def label : CompositeKind → String
  | doubleCrystal _ => "double_crystal"
  | bragg _ => "bragg_wavelength"

/-- The names of the attached devices, a gate first. -/
def attachedNames : CompositeKind → List String
  | doubleCrystal c => c.attached.all
  | bragg c => c.attached.all

def limits : CompositeKind → Limits Float
  | doubleCrystal c => c.limits
  | bragg c => c.limits

end CompositeKind

/-- The names of all devices and composites, in the order of declaration. -/
def Setup.names (s : Setup) : List String :=
  s.devices.map (·.name) ++ s.composites.map (·.name)

/-! ## Setups as TOML -/

open Toml

def Mode.ofToml? (v : Toml) : Option Mode :=
  match v.choice? with
  | some "master" => some .master
  | some "simulation" => some .simulation
  | _ => none

def DeviceConfig.ofToml? (v : Toml) : Option DeviceConfig := do
  let field ← v.record? .ignored ["name", "driver", "config"]
  return {
    name := ← required field "name" text?
    driver := ← required field "driver" text?
    settings := ← defaulted field "config" settings? (.table .implied []) }

def DoubleCrystalNames.ofToml? (surplus : Surplus) (v : Toml) : Option DoubleCrystalNames := do
  let field ← v.record? surplus ["inout", "phi1", "phi2", "translation"]
  return {
    inout := ← required field "inout" text?
    phi1 := ← required field "phi1" text?
    phi2 := ← required field "phi2" text?
    stage := ← required field "translation" text? }

def DoubleCrystalConfig.ofToml? (surplus : Surplus) (v : Toml) : Option DoubleCrystalConfig := do
  let field ← v.fields?
  return {
    dvalue1 := ← required field "dvalue1" number?
    dvalue2 := ← required field "dvalue2" number?
    distance := ← required field "distance" number?
    tolphi := ← defaulted field "tolphi" number? 0.01
    toltrans := ← defaulted field "toltrans" number? 0.01
    limits := ← defaulted field "limits" (limits? surplus) ⟨1.4, 6.5⟩
    unit := ← defaulted field "unit" text? "Angstrom"
    activeState := ← defaulted field "active_state" text? "in"
    parkedState := ← defaulted field "parked_state" text? "out"
    attached := ← required field "attached" (DoubleCrystalNames.ofToml? surplus) }

def BraggNames.ofToml? (surplus : Surplus) (v : Toml) : Option BraggNames := do
  let field ← v.record? surplus ["tthm", "omgm", "crystal"]
  return {
    tthm := ← required field "tthm" text?
    omgm := ← required field "omgm" text?
    crystal := ← Toml.optional field "crystal" text? }

def BraggConfig.ofToml? (surplus : Surplus) (v : Toml) : Option BraggConfig := do
  let field ← v.fields?
  return {
    crystal := ← Toml.optional field "crystal" text?
    plane := ← Toml.optional field "plane" text?
    spacing := ← Toml.optional field "d_spacing" number?
    offset := ← defaulted field "omega_offset" number? 0
    tolTthm := ← defaulted field "tol_tthm" number? 0.01
    tolOmgm := ← defaulted field "tol_omgm" number? 0.01
    limits := ← defaulted field "limits" (limits? surplus) .unbounded
    unit := ← defaulted field "unit" text? "Angstrom"
    attached := ← required field "attached" (BraggNames.ofToml? surplus) }

def CompositeKind.ofToml? (v : Toml) : Option CompositeKind := do
  let field ← v.fields?
  match ← required field "kind" text? with
  | "double_crystal" => return .doubleCrystal (← DoubleCrystalConfig.ofToml? .rejected v)
  | "bragg_wavelength" => return .bragg (← BraggConfig.ofToml? .rejected v)
  | _ => none

def CompositeConfig.ofToml? (v : Toml) : Option CompositeConfig := do
  let field ← v.fields?
  return {
    name := ← required field "name" text?
    kind := ← CompositeKind.ofToml? v }

def Setup.ofToml? (v : Toml) : Option Setup := do
  let field ← v.fields?
  let all {β : Type} (view : Toml → Option β) (v : Toml) : Option (List β) :=
    v.list?.bind (·.mapM view)
  return {
    mode := ← defaulted field "mode" Mode.ofToml? .master
    devices := ← defaulted field "devices" (all DeviceConfig.ofToml?) []
    composites := ← defaulted field "composites" (all CompositeConfig.ofToml?) [] }

/-! ## And back -/

def limitsToml (l : Limits Float) : Toml := .list false [.float l.min, .float l.max]

/-- A field that is not set is left out. -/
def tableToml (es : List (String × Option Toml)) : Toml :=
  .table .implied (es.filterMap fun e => e.2.map fun v => (e.1, v))

def DeviceConfig.toToml (d : DeviceConfig) : Toml :=
  tableToml [("name", some (.text d.name)), ("driver", some (.text d.driver)),
    ("config", some d.settings)]

def DoubleCrystalNames.toToml (n : DoubleCrystalNames) : Toml :=
  tableToml [("inout", some (.text n.inout)), ("phi1", some (.text n.phi1)),
    ("phi2", some (.text n.phi2)), ("translation", some (.text n.stage))]

def BraggNames.toToml (n : BraggNames) : Toml :=
  tableToml [("tthm", some (.text n.tthm)), ("omgm", some (.text n.omgm)),
    ("crystal", n.crystal.map .text)]

def CompositeConfig.toToml (c : CompositeConfig) : Toml :=
  let head := [("name", some (.text c.name)), ("kind", some (.text c.kind.label))]
  match c.kind with
  | .doubleCrystal d => tableToml (head ++
      [("dvalue1", some (.float d.dvalue1)), ("dvalue2", some (.float d.dvalue2)),
       ("distance", some (.float d.distance)), ("tolphi", some (.float d.tolphi)),
       ("toltrans", some (.float d.toltrans)), ("limits", some (limitsToml d.limits)),
       ("unit", some (.text d.unit)), ("active_state", some (.text d.activeState)),
       ("parked_state", some (.text d.parkedState)), ("attached", some d.attached.toToml)])
  | .bragg b => tableToml (head ++
      [("crystal", b.crystal.map .text), ("plane", b.plane.map .text),
       ("d_spacing", b.spacing.map .float), ("omega_offset", some (.float b.offset)),
       ("tol_tthm", some (.float b.tolTthm)), ("tol_omgm", some (.float b.tolOmgm)),
       ("limits", some (limitsToml b.limits)), ("unit", some (.text b.unit)),
       ("attached", some b.attached.toToml)])

def Mode.toToml : Mode → Toml
  | .master => .text "master"
  | .simulation => .text "simulation"

def Setup.toToml (s : Setup) : Toml :=
  tableToml [("mode", some s.mode.toToml),
    ("devices", some (.list false (s.devices.map DeviceConfig.toToml))),
    ("composites", some (.list false (s.composites.map CompositeConfig.toToml)))]

end Beamline
