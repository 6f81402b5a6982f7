import Beamline.Category
import Beamline.Composite.Operation
import Beamline.Motor
import Beamline.StandIn
import Beamline.Switch

/-!
Devices of every kind side by side. A composite holds the numbers of the devices attached to it.
-/

namespace Beamline

/-- The number of a device in its laboratory. -/
abbrev DeviceId := Nat

inductive Device (α : Type) [Scalar α] where
  | motor (m : Motor α)
  | switch (s : Switch α)
  | standIn (d : StandIn α)
  | composite (c : Composite DeviceId α)

namespace Device

variable {α : Type} [Scalar α]

def name : Device α → String
  | motor m => m.name
  | switch s => s.name
  | standIn d => d.name
  | composite c => c.name

def unit : Device α → String
  | motor m => m.unit
  | switch _ => ""
  | standIn d => d.unit
  | composite c => c.unit

def category : Device α → Category
  | motor _ => .motor
  | switch _ => .switch
  | standIn d => d.category
  | composite _ => .composite

/-- Three places for numbers and the unit, if there is one; four and always a blank in composites. -/
def format (d : Device α) (v : Value α) : String :=
  match d, v with
  | composite c, v => c.format v
  | d, .scalar x =>
    if d.unit.isEmpty then Scalar.fixed 3 x else Scalar.fixed 3 x ++ " " ++ d.unit
  | _, v => v.text

end Device
end Beamline
