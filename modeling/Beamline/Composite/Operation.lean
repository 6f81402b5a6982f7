import Beamline.Composite.Plan
import Beamline.Clock

/-!
Reading and moving a composite. With its interlock in the wrong state a composite fails to read and
to move to a number; to be parked it does not need the interlock. A parked gate makes it read as
nothing, whatever its axes do. A move switches the gate unless it is active already, and then starts
the axes in order; if one refuses, those before it keep moving. In simulation no attached device is
touched, and the composite reads as the target of the last move that was planned without error.
-/

namespace Beamline

variable {ι σ α : Type} [Scalar α]

/-- How a composite is doing, from its devices' statuses and its own reading. -/
inductive Lifecycle where
  | parked
  | moving
  | positioned
  | inconsistent
  | fault
  deriving DecidableEq, Repr

def Lifecycle.label : Lifecycle → String
  | parked => "parked"
  | moving => "moving"
  | positioned => "positioned"
  | inconsistent => "inconsistent"
  | fault => "fault"

namespace Composite

/-! ## Reading -/

/-- Fail unless the interlock reads the state it must have. -/
def checkInterlock (c : Composite ι α) (k : Controls ι σ α) (maxAge : Nat) :
    Action σ (DeviceError α) Unit :=
  match c.interlock with
  | none => pure ()
  | some lock => do
    let v ← k.read lock.device maxAge
    if v.isState lock.required then pure ()
    else
      let s ← Action.look
      Action.fail (.invalidValue c.name (.interlock (k.name s lock.device) v lock.required))

/-- Read axes in order; each must read a number. -/
def readAxes (k : Controls ι σ α) (maxAge : Nat) :
    List (Axis ι) → Action σ (DeviceError α) (List α)
  | [] => pure []
  | a :: axes => do
    let v ← k.read a.device maxAge
    match v with
    | .scalar x =>
      let xs ← readAxes k maxAge axes
      pure (x :: xs)
    | v =>
      let s ← Action.look
      Action.fail (.invalidValue (k.name s a.device) (.noPosition v))

def readPositions (c : Composite ι α) (k : Controls ι σ α) (maxAge : Nat) :
    Action σ (DeviceError α) (Reading α) := do
  let xs ← readAxes k maxAge c.axes
  pure (.positions xs)

/-- The interlock, then the gate, and the axes unless the gate is parked. -/
def readRaw (c : Composite ι α) (k : Controls ι σ α) (maxAge : Nat) :
    Action σ (DeviceError α) (Reading α) := do
  c.checkInterlock k maxAge
  match c.gate with
  | none => c.readPositions k maxAge
  | some g =>
    let v ← k.read g.device maxAge
    if v.isState g.parked then pure .parked else c.readPositions k maxAge

def reconciled (c : Composite ι α) (reading : Reading α) : Except (DeviceError α) (Value α) :=
  match c.reconciler.reconcile reading with
  | .error e => .error (.position e)
  | .ok x => .ok (.ofOption x)

def sayAll {ε : Type} (c : Composite ι α) (k : Controls ι σ α) (texts : List String) :
    Action σ ε Unit :=
  Action.change fun s => texts.foldl (fun s text => k.note ⟨.debug, some c.name, text⟩ s) s

def read (c : Composite ι α) (k : Controls ι σ α) (maxAge : Nat) :
    Action σ (DeviceError α) (Value α) :=
  match c.mode with
  | .simulation => pure c.remembered
  | .master => do
    let reading ← c.readRaw k maxAge
    c.sayAll k (c.reconciler.remarks reading)
    Action.settle (c.reconciled reading)

/-! ## Moving -/

/-- Start the gate for its active state unless it reads so. One that cannot be read is started. -/
def activate (c : Composite ι α) (k : Controls ι σ α) (g : Gate ι) :
    Action σ (DeviceError α) Unit := do
  let r ← Action.attempt (k.read g.device fresh)
  let isActive := match r with
    | .ok v => v.isState g.active
    | .error _ => false
  let s ← Action.look
  if isActive then
    k.say .debug c.name (k.name s g.device ++ " already " ++ g.active)
  else
    k.say .debug c.name ("moving " ++ c.name ++ " into beam")
    k.start g.device (.state g.active)

/-- Either the gate reads its active state already, or it is started for it. -/
theorem activate_cases (c : Composite ι α) (k : Controls ι σ α) (g : Gate ι) (s : σ) :
    ∃ e, ((k.read g.device fresh s).1 = .ok (.state g.active) ∧
          c.activate k g s = (.ok (), k.note e (k.read g.device fresh s).2)) ∨
      ((k.read g.device fresh s).1 ≠ .ok (.state g.active) ∧
          c.activate k g s =
            k.start g.device (.state g.active) (k.note e (k.read g.device fresh s).2)) := by
  unfold activate
  rw [Action.bind_ok _ (rfl : Action.attempt (k.read g.device fresh) s = _),
    Action.bind_ok _ (rfl : Action.look (k.read g.device fresh s).2 = _)]
  by_cases hr : (k.read g.device fresh s).1 = .ok (.state g.active)
  · refine ⟨⟨.debug, some c.name,
      k.name (k.read g.device fresh s).2 g.device ++ " already " ++ g.active⟩, .inl ⟨hr, ?_⟩⟩
    rw [hr, if_pos (Value.isState_iff.mpr rfl)]
    rfl
  · refine ⟨⟨.debug, some c.name, "moving " ++ c.name ++ " into beam"⟩, .inr ⟨hr, ?_⟩⟩
    rw [if_neg]
    · rfl
    · intro hactive
      cases hv : (k.read g.device fresh s).1 with
      | error e => simp [hv] at hactive
      | ok v =>
        rw [hv] at hactive
        exact hr (hv.trans (congrArg _ (Value.isState_iff.mp hactive)))

/-- Start axes in order, up to the first that refuses. -/
def startAxes (c : Composite ι α) (k : Controls ι σ α) :
    List (Axis ι) → List (Setpoint α) → Action σ (DeviceError α) Unit
  | a :: axes, sp :: sps => do
    let s ← Action.look
    k.say .debug c.name ("sending " ++ sp.device ++ " to " ++ k.format s a.device (.scalar sp.value))
    k.start a.device (.scalar sp.value)
    c.startAxes k axes sps
  | _, _ => pure ()

theorem startAxes_cons_ok {c : Composite ι α} {k : Controls ι σ α} {a : Axis ι}
    {axes : List (Axis ι)} {sp : Setpoint α} {sps : List (Setpoint α)} {s s'' : σ}
    (h : c.startAxes k (a :: axes) (sp :: sps) s = (.ok (), s'')) :
    ∃ e s', k.start a.device (.scalar sp.value) (k.note e s) = (.ok (), s') ∧
      c.startAxes k axes sps s' = (.ok (), s'') := by
  unfold startAxes at h
  obtain ⟨_, _, hlook, h⟩ := Action.bind_eq_ok.mp h
  cases hlook
  obtain ⟨_, _, hsay, h⟩ := Action.bind_eq_ok.mp h
  cases hsay
  obtain ⟨_, s', hstart, hrest⟩ := Action.bind_eq_ok.mp h
  exact ⟨_, s', hstart, hrest⟩

/-- Send what was planned. To park the composite, only its gate is started. -/
def dispatch (c : Composite ι α) (k : Controls ι σ α) (plan : Plan α) :
    Action σ (DeviceError α) Unit :=
  match plan.target, c.gate with
  | .null, some g => do
    k.say .debug c.name ("moving " ++ c.name ++ " out of beam")
    k.start g.device (.state g.parked)
  | .null, none => pure ()
  | _, some g => do
    c.checkInterlock k fresh
    c.activate k g
    c.startAxes k c.axes plan.setpoints
  | _, none => do
    c.checkInterlock k fresh
    c.startAxes k c.axes plan.setpoints

theorem dispatch_null {c : Composite ι α} (k : Controls ι σ α) {plan : Plan α} {g : Gate ι}
    (ht : plan.target = .null) (hg : c.gate = some g) (s : σ) :
    c.dispatch k plan s = k.start g.device (.state g.parked)
      (k.note ⟨.debug, some c.name, "moving " ++ c.name ++ " out of beam"⟩ s) := by
  unfold dispatch
  rw [ht, hg]
  rfl

/-- The three stages of a move to a number that succeeds. -/
theorem dispatch_scalar_ok {c : Composite ι α} {k : Controls ι σ α} {plan : Plan α} {x : α}
    {s s' : σ} (ht : plan.target = .scalar x) (h : c.dispatch k plan s = (.ok (), s')) :
    ∃ s₁ s₂, c.checkInterlock k fresh s = (.ok (), s₁) ∧
      (c.gate = none ∧ s₂ = s₁ ∨ ∃ g, c.gate = some g ∧ c.activate k g s₁ = (.ok (), s₂)) ∧
      c.startAxes k c.axes plan.setpoints s₂ = (.ok (), s') := by
  unfold dispatch at h
  rw [ht] at h
  cases hg : c.gate with
  | none =>
    rw [hg] at h
    obtain ⟨_, s₁, hlock, h⟩ := Action.bind_eq_ok.mp h
    exact ⟨s₁, s₁, hlock, .inl ⟨rfl, rfl⟩, h⟩
  | some g =>
    rw [hg] at h
    obtain ⟨_, s₁, hlock, h⟩ := Action.bind_eq_ok.mp h
    obtain ⟨_, s₂, hactive, h⟩ := Action.bind_eq_ok.mp h
    exact ⟨s₁, s₂, hlock, .inr ⟨g, rfl, hactive⟩, h⟩

/-- Move to `target`, a number or nothing. The answer is the composite afterwards, which differs
only in simulation, by what it remembers. -/
def moveTo (c : Composite ι α) (k : Controls ι σ α) (target : Value α) :
    Action σ (DeviceError α) (Composite ι α) := do
  let s ← Action.look
  let plan ← Action.settle (c.plan k s target)
  match c.mode with
  | .simulation =>
    k.say .info c.name ("simulated move: " ++ plan.text)
    pure { c with remembered := plan.target }
  | .master =>
    c.dispatch k plan
    pure c

theorem moveTo_of_plan_error {c : Composite ι α} {k : Controls ι σ α} {s : σ} {target : Value α}
    {e : DeviceError α} (h : c.plan k s target = .error e) : c.moveTo k target s = (.error e, s) := by
  unfold moveTo
  rw [Action.bind_ok _ (rfl : Action.look s = (.ok s, s))]
  exact Action.bind_error _ (by rw [Action.settle, h])

/-- An accepted move in master mode is the dispatch of its plan. -/
theorem moveTo_of_plan_ok {c : Composite ι α} {k : Controls ι σ α} {s : σ} {target : Value α}
    {plan : Plan α} (hm : c.mode = .master) (h : c.plan k s target = .ok plan) :
    c.moveTo k target s = (c.dispatch k plan >>= fun _ => pure c) s := by
  unfold moveTo
  rw [Action.bind_ok _ (rfl : Action.look s = (.ok s, s)),
    Action.bind_ok _ (show Action.settle (c.plan k s target) s = (.ok plan, s) by
      rw [Action.settle, h])]
  simp only [hm]

def stop (c : Composite ι α) (k : Controls ι σ α) : Action σ (DeviceError α) Unit :=
  match c.mode with
  | .simulation => pure ()
  | .master => k.stopAll c.attached

def wait (c : Composite ι α) (k : Controls ι σ α) : Action σ (DeviceError α) Unit :=
  match c.mode with
  | .simulation => pure ()
  | .master => k.waitAll c.attached

/-! ## Status -/

/-- The first attached device that is not OK speaks for the composite; if all are, its own
reading does. -/
def status (c : Composite ι α) (k : Controls ι σ α) (maxAge : Nat) (s : σ) : Status × σ :=
  match c.mode with
  | .simulation => (⟨.ok, "simulated"⟩, s)
  | .master =>
    let (status, s) := k.aggregateStatus maxAge c.attached s
    if status.isOk then
      match c.read k maxAge s with
      | (.ok _, s) => (status, s)
      | (.error (.position e), s) => (⟨.notReached, e.message⟩, s)
      | (.error e, s) => (⟨.error, e.message⟩, s)
    else (status, s)

def lifecycle (c : Composite ι α) (k : Controls ι σ α) (maxAge : Nat) (s : σ) : Lifecycle × σ :=
  match c.mode with
  | .simulation => (if c.remembered.isNull then .parked else .positioned, s)
  | .master =>
    let (status, s) := k.aggregateStatus maxAge c.attached s
    match status.code with
    | .ok =>
      match c.read k maxAge s with
      | (.ok v, s) => (if v.isNull then .parked else .positioned, s)
      | (.error (.position _), s) => (.inconsistent, s)
      | (.error _, s) => (.fault, s)
    | .busy => (.moving, s)
    | _ => (.fault, s)

end Composite
end Beamline
