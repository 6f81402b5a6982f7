import Beamline.Composite.Basic

/-!
What a move would send, in the order of sending. Every setpoint and the state of the gate must be
allowed by the devices they are for, so a move whose plan fails has touched nothing.
-/

namespace Beamline

structure GateCommand where
  device : String
  state : String
  deriving DecidableEq, Repr

structure Setpoint (α : Type) where
  role : String
  device : String
  value : α
  deriving DecidableEq, Repr

structure Plan (α : Type) where
  target : Value α
  gate : Option GateCommand
  setpoints : List (Setpoint α)
  deriving DecidableEq, Repr

variable {ι σ α : Type} [Scalar α]

def Setpoint.text (sp : Setpoint α) : String :=
  sp.device ++ " (" ++ sp.role ++ ") -> " ++ Scalar.fixed 4 sp.value

def Plan.text (plan : Plan α) : String :=
  let gate := plan.gate.map fun g => g.device ++ " -> " ++ g.state
  String.intercalate "; "
    (("target " ++ plan.target.text) :: gate.toList ++ plan.setpoints.map Setpoint.text)

namespace Composite

/-- A target is a number inside of the limits, or nothing if there is a gate to park. -/
def checkTarget (c : Composite ι α) (target : Value α) : Except (DeviceError α) Unit :=
  match target with
  | .null =>
    if c.gate.isSome then .ok () else .error (.invalidValue c.name .noGate)
  | .scalar x =>
    if Scalar.isFinite x then c.limits.check c.name x
    else .error (.invalidValue c.name (.notATarget target))
  | .state _ => .error (.invalidValue c.name (.notATarget target))

/-- One value of the transform for each axis. -/
def setpointValues (c : Composite ι α) (derived : α) : Except (DeviceError α) (List α) :=
  match c.reconciler.transform.forward derived with
  | .error e => .error (.invalidValue c.name (.unreachable e))
  | .ok values =>
    if values.length = c.axes.length then .ok values
    else .error (.configuration (.setpointCount c.name values.length c.axes.length))

/-- Pair axes with values, if each device allows its own. -/
def planAxes (k : Controls ι σ α) (s : σ) :
    List (Axis ι) → List α → Except (DeviceError α) (List (Setpoint α))
  | a :: axes, x :: xs =>
    match k.isAllowed s a.device (.scalar x) with
    | .error e => .error e
    | .ok () => (planAxes k s axes xs).map (⟨a.role, k.name s a.device, x⟩ :: ·)
  | _, _ => .ok []

/-- The command that brings the gate to its active state, if the gate allows it. -/
def planGate (k : Controls ι σ α) (s : σ) :
    Option (Gate ι) → Except (DeviceError α) (Option GateCommand)
  | none => .ok none
  | some g =>
    (k.isAllowed s g.device (.state g.active)).map fun _ => some ⟨k.name s g.device, g.active⟩

/-- What a move to `target` would send. A gate is not asked whether it may be parked. -/
def plan (c : Composite ι α) (k : Controls ι σ α) (s : σ) (target : Value α) :
    Except (DeviceError α) (Plan α) := do
  c.checkTarget target
  match target with
  | .scalar derived =>
    let values ← c.setpointValues derived
    let setpoints ← planAxes k s c.axes values
    let gate ← planGate k s c.gate
    return ⟨target, gate, setpoints⟩
  | _ => return ⟨.null, c.gate.map fun g => ⟨k.name s g.device, g.parked⟩, []⟩

def isAllowed (c : Composite ι α) (k : Controls ι σ α) (s : σ) (target : Value α) :
    Except (DeviceError α) Unit :=
  (c.plan k s target).map fun _ => ()

/-! ## What an accepted plan establishes -/

omit [Scalar α] in
theorem planAxes_values {k : Controls ι σ α} {s : σ} {axes : List (Axis ι)} {values : List α}
    {sps : List (Setpoint α)} (hlen : values.length = axes.length)
    (h : planAxes k s axes values = .ok sps) : sps.map (·.value) = values := by
  induction axes generalizing values sps with
  | nil =>
    obtain rfl : values = [] := by simpa using hlen
    cases h
    rfl
  | cons a axes ih =>
    cases values with
    | nil => simp at hlen
    | cons x xs =>
      unfold planAxes at h
      split at h
      · cases h
      · obtain ⟨rest, hr, rfl⟩ := except_map_eq_ok.mp h
        simp [ih (by simpa using hlen) hr]

theorem setpointValues_ok {c : Composite ι α} {x : α} {values : List α}
    (h : c.setpointValues x = .ok values) :
    c.reconciler.transform.forward x = .ok values ∧ values.length = c.axes.length := by
  unfold setpointValues at h
  split at h
  · cases h
  · rename_i given hf
    split at h
    · rename_i hlen
      cases h
      exact ⟨hf, hlen⟩
    · cases h

theorem isFinite_of_checkTarget {c : Composite ι α} {x : α}
    (h : c.checkTarget (.scalar x) = .ok ()) : Scalar.isFinite x = true := by
  unfold checkTarget at h
  dsimp only at h
  split at h
  · assumption
  · cases h

/-- A plan for a number holds a setpoint for each axis and the command that opens the gate. -/
theorem plan_scalar_ok {c : Composite ι α} {k : Controls ι σ α} {s : σ} {x : α} {p : Plan α}
    (h : c.plan k s (.scalar x) = .ok p) :
    ∃ values, c.checkTarget (.scalar x) = .ok () ∧ c.setpointValues x = .ok values ∧
      planAxes k s c.axes values = .ok p.setpoints ∧ planGate k s c.gate = .ok p.gate ∧
      p.target = .scalar x := by
  unfold plan at h
  obtain ⟨_, ht, h⟩ := except_bind_eq_ok.mp h
  obtain ⟨values, hv, h⟩ := except_bind_eq_ok.mp h
  obtain ⟨sps, ha, h⟩ := except_bind_eq_ok.mp h
  obtain ⟨g, hg, h⟩ := except_bind_eq_ok.mp h
  cases h
  exact ⟨values, ht, hv, ha, hg, rfl⟩

theorem plan_null {c : Composite ι α} (k : Controls ι σ α) (s : σ) {g : Gate ι}
    (h : c.gate = some g) :
    c.plan k s .null = .ok ⟨.null, some ⟨k.name s g.device, g.parked⟩, []⟩ := by
  unfold plan checkTarget
  rw [h]
  rfl

theorem plan_null_ok {c : Composite ι α} {k : Controls ι σ α} {s : σ} {p : Plan α}
    (h : c.plan k s .null = .ok p) : (∃ g, c.gate = some g) ∧ p.target = .null := by
  unfold plan at h
  obtain ⟨_, ht, h⟩ := except_bind_eq_ok.mp h
  cases h
  cases hg : c.gate with
  | none => simp [checkTarget, hg] at ht
  | some g => exact ⟨⟨g, rfl⟩, rfl⟩

omit [Scalar α] in
theorem planAxes_congr {τ : Type} {k : Controls ι σ α} {k' : Controls ι τ α} {s : σ} {s' : τ}
    (hname : k.name s = k'.name s') (hallowed : k.isAllowed s = k'.isAllowed s')
    (axes : List (Axis ι)) (values : List α) :
    planAxes k s axes values = planAxes k' s' axes values := by
  induction axes generalizing values with
  | nil => rfl
  | cons a axes ih =>
    cases values with
    | nil => rfl
    | cons x xs => simp only [planAxes, hname, hallowed, ih]

/-- A plan depends on the devices by their names and by what they allow. -/
theorem plan_congr {τ : Type} {k : Controls ι σ α} {k' : Controls ι τ α} {s : σ} {s' : τ}
    (hname : k.name s = k'.name s') (hallowed : k.isAllowed s = k'.isAllowed s')
    (c : Composite ι α) (target : Value α) : c.plan k s target = c.plan k' s' target := by
  have hgate : planGate k s c.gate = planGate k' s' c.gate := by
    unfold planGate
    rw [hname, hallowed]
  unfold plan
  simp only [planAxes_congr hname hallowed, hgate, hname]

theorem plan_state (c : Composite ι α) (k : Controls ι σ α) (s : σ) (name : String) :
    c.plan k s (.state name) = .error (.invalidValue c.name (.notATarget (.state name))) := rfl

end Composite
end Beamline
