import Beamline.Geometry.DoubleCrystal
import Beamline.Geometry.Planes
import Beamline.Setup.Schema

/-!
From the declaration of a composite to its draft. The attached names are looked up first, then
the geometry is made.
-/

namespace Beamline

variable {ι : Type}

/-- The geometry of a spacing, or else of a known plane. -/
def BraggConfig.geometry (c : BraggConfig) : Except (DeviceError Float) (Bragg Float) :=
  match c.spacing, c.crystal, c.plane with
  | some d, _, _ => Bragg.make d c.offset
  | none, some crystal, some plane => do
    let known ← CrystalPlane.bragg crystal plane
    Bragg.make known.spacing (known.offset + c.offset)
  | none, _, _ => .error (.configuration .noSpacing)

def DoubleCrystalConfig.draft (c : DoubleCrystalConfig) (name : String) (mode : Mode)
    (lookup : String → Except (DeviceError Float) ι) :
    Except (DeviceError Float) (Draft ι Float) := do
  let inout ← lookup c.attached.inout
  let phi1 ← lookup c.attached.phi1
  let phi2 ← lookup c.attached.phi2
  let stage ← lookup c.attached.stage
  let geometry ← DoubleCrystal.make c.dvalue1 c.dvalue2 c.distance
  return {
    name
    unit := c.unit
    transform := geometry.transform
    gate := some ⟨inout, c.activeState, c.parkedState⟩
    interlock := none
    axes := [(⟨"phi1", phi1⟩, c.tolphi), (⟨"phi2", phi2⟩, c.tolphi),
      (⟨"translation", stage⟩, c.toltrans)]
    limits := c.limits
    mode }

/-- A crystal changer must read the crystal that the declaration names. -/
def BraggConfig.draft (c : BraggConfig) (name : String) (mode : Mode)
    (lookup : String → Except (DeviceError Float) ι) :
    Except (DeviceError Float) (Draft ι Float) := do
  let tthm ← lookup c.attached.tthm
  let omgm ← lookup c.attached.omgm
  let changer ← c.attached.crystal.mapM lookup
  let geometry ← c.geometry
  let interlock ← match changer, c.crystal with
    | none, _ => pure none
    | some device, some crystal => pure (some ⟨device, crystal⟩)
    | some _, none => .error (.configuration (.noCrystal name))
  return {
    name
    unit := c.unit
    transform := geometry.transform
    gate := none
    interlock
    axes := [(⟨"tthm", tthm⟩, c.tolTthm), (⟨"omgm", omgm⟩, c.tolOmgm)]
    limits := c.limits
    mode }

def CompositeConfig.draft (c : CompositeConfig) (mode : Mode)
    (lookup : String → Except (DeviceError Float) ι) :
    Except (DeviceError Float) (Draft ι Float) :=
  match c.kind with
  | .doubleCrystal d => d.draft c.name mode lookup
  | .bragg b => b.draft c.name mode lookup

end Beamline
