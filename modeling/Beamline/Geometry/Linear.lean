import Beamline.Transform

/-!
A transform whose roles each follow the derived number on a straight line. It can be told to give
fewer or more setpoints than it has roles, and to refuse what lies above a ceiling, so that the
handling of a faulty transform can be tried out.
-/

namespace Beamline

structure Linear (α : Type) where
  roles : List String
  primary : Nat
  scale : List α
  offset : List α
  /-- How many setpoints to give. -/
  outputs : Nat
  ceiling : α

namespace Linear

variable {α : Type} [Scalar α]

def setpoint (g : Linear α) (x : α) (i : Nat) : α :=
  if i < g.roles.length then g.scale.getD i 0 * x + g.offset.getD i 0 else 0

def forward (g : Linear α) (x : α) : Except (TransformError α) (List α) :=
  if g.ceiling < x then .error ⟨x, .aboveRange⟩
  else .ok ((List.range g.outputs).map (g.setpoint x))

def inverse (g : Linear α) (position : α) : α :=
  (position - g.offset.getD g.primary 0) / g.scale.getD g.primary 0

def transform (g : Linear α) : Transform α where
  roles := g.roles
  primary := g.primary
  forward := g.forward
  inverse := g.inverse

end Linear
end Beamline
