import Beamline.Action
import Beamline.Transform

/-!
The double-crystal monochromator. Two crystals with lattice spacings `d₁` and `d₂` reflect the
beam one after the other, and the second one rides on a stage that keeps the beam on a line at a
fixed distance:

* `phi1 = 180 - 2 arcsin (λ / 2 d₁)`, `phi2 = 2 arcsin (λ / 2 d₂)`,
  `stage = distance / tan phi1`;
* `λ = 2 d₁ cos (phi1 / 2)`.
-/

namespace Beamline

structure DoubleCrystal (α : Type) where
  dvalue1 : α
  dvalue2 : α
  distance : α
  deriving DecidableEq, Repr

namespace DoubleCrystal

variable {α : Type} [Scalar α]

def positive (name : String) (x : α) : Except (DeviceError α) Unit :=
  if Scalar.isFinite x ∧ 0 < x then .ok () else .error (.configuration (.parameter name x))

/-- Spacings and distance must be positive numbers. -/
def make (dvalue1 dvalue2 distance : α) : Except (DeviceError α) (DoubleCrystal α) := do
  positive "dvalue1" dvalue1
  positive "dvalue2" dvalue2
  positive "distance" distance
  pure ⟨dvalue1, dvalue2, distance⟩

theorem positive_ok {name : String} {x : α} (h : positive name x = .ok ()) :
    Scalar.isFinite x = true ∧ 0 < x := by
  unfold positive at h
  split at h
  · assumption
  · cases h

theorem make_ok {dvalue1 dvalue2 distance : α} {g : DoubleCrystal α}
    (h : make dvalue1 dvalue2 distance = .ok g) :
    (Scalar.isFinite dvalue1 = true ∧ 0 < dvalue1) ∧
      (Scalar.isFinite dvalue2 = true ∧ 0 < dvalue2) ∧
      (Scalar.isFinite distance = true ∧ 0 < distance) ∧ g = ⟨dvalue1, dvalue2, distance⟩ := by
  obtain ⟨_, h₁, h⟩ := except_bind_eq_ok.mp h
  obtain ⟨_, h₂, h⟩ := except_bind_eq_ok.mp h
  obtain ⟨_, h₃, h⟩ := except_bind_eq_ok.mp h
  exact ⟨positive_ok h₁, positive_ok h₂, positive_ok h₃, (Except.ok.inj h).symm⟩

variable [Angles α]

def forward (g : DoubleCrystal α) (wavelength : α) : Except (TransformError α) (List α) :=
  if Scalar.isFinite wavelength ∧ 0 < wavelength then
    match arcsin? (wavelength / (2 * g.dvalue1)) with
    | none => .error ⟨wavelength, .firstCrystal⟩
    | some theta1 =>
      match arcsin? (wavelength / (2 * g.dvalue2)) with
      | none => .error ⟨wavelength, .secondCrystal⟩
      | some theta2 =>
        let phi1 := 180 - 2 * theta1
        .ok [phi1, 2 * theta2, g.distance / Angles.tan phi1]
  else .error ⟨wavelength, .notPositive⟩

def inverse (g : DoubleCrystal α) (phi1 : α) : α :=
  if 0 < phi1 ∧ phi1 < 180 then 2 * g.dvalue1 * Angles.cos (phi1 / 2) else Scalar.nan

def transform (g : DoubleCrystal α) : Transform α where
  roles := ["phi1", "phi2", "translation"]
  primary := 0
  forward := g.forward
  inverse := g.inverse

end DoubleCrystal
end Beamline
