import Beamline.Geometry.Bragg
import Beamline.Scalar.Binary64

/-!
Known reflecting planes, by the name of the crystal and the Miller indices. The offset of the
crystal table is the sum of the plane's own and of the mounting.
-/

namespace Beamline

structure CrystalPlane where
  crystal : String
  plane : String
  spacing : Float
  tableOffset : Float
  mountingOffset : Float

namespace CrystalPlane

def known : List CrystalPlane :=
  [⟨"Ge", "331", 1.299194, 9.45, 0.65⟩,
   ⟨"Ge", "551", 0.792778, 0.0, 0.65⟩,
   ⟨"Ge", "771", 0.568937, -4.37, 0.65⟩]

def offset (p : CrystalPlane) : Float := p.tableOffset + p.mountingOffset

def find? (crystal plane : String) : Option CrystalPlane :=
  known.find? fun p => p.crystal == crystal && p.plane == plane

/-- The geometry of a known plane. -/
def bragg (crystal plane : String) : Except (DeviceError Float) (Bragg Float) :=
  match find? crystal plane with
  | some p => Bragg.make p.spacing p.offset
  | none => .error (.configuration (.unknownPlane crystal plane))

end CrystalPlane
end Beamline
