import Beamline.Transform

/-!
The wavelength of a single crystal. `tthm` is the take-off angle, `omgm` the crystal table, which
follows half of that angle plus an offset of the crystal and its reflecting plane:

* `tthm = 2 arcsin (λ / 2 d)`, `omgm = tthm / 2 + offset`;
* `λ = 2 d sin (tthm / 2)`.
-/

namespace Beamline

structure Bragg (α : Type) where
  spacing : α
  offset : α
  deriving DecidableEq, Repr

namespace Bragg

variable {α : Type} [Scalar α]

/-- The spacing must be a positive number, the offset a number. -/
def make (spacing offset : α) : Except (DeviceError α) (Bragg α) :=
  if Scalar.isFinite spacing ∧ 0 < spacing then
    if Scalar.isFinite offset then .ok ⟨spacing, offset⟩ else .error (.configuration .offset)
  else .error (.configuration (.parameter "d_spacing" spacing))

theorem make_ok {spacing offset : α} {g : Bragg α} (h : make spacing offset = .ok g) :
    (Scalar.isFinite spacing = true ∧ 0 < spacing) ∧ Scalar.isFinite offset = true ∧
      g = ⟨spacing, offset⟩ := by
  unfold make at h
  split at h
  · split at h
    · exact ⟨‹_›, ‹_›, (Except.ok.inj h).symm⟩
    · cases h
  · cases h

variable [Angles α]

def forward (g : Bragg α) (wavelength : α) : Except (TransformError α) (List α) :=
  if Scalar.isFinite wavelength ∧ 0 < wavelength then
    match arcsin? (wavelength / (2 * g.spacing)) with
    | none => .error ⟨wavelength, .braggCutoff⟩
    | some theta =>
      let tthm := 2 * theta
      .ok [tthm, tthm / 2 + g.offset]
  else .error ⟨wavelength, .notPositive⟩

def inverse (g : Bragg α) (tthm : α) : α :=
  if 0 < tthm ∧ tthm ≤ 180 then 2 * g.spacing * Angles.sin (tthm / 2) else Scalar.nan

def transform (g : Bragg α) : Transform α where
  roles := ["tthm", "omgm"]
  primary := 0
  forward := g.forward
  inverse := g.inverse

end Bragg
end Beamline
