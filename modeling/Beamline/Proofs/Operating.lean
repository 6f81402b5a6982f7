import Beamline.Lab
import Beamline.Scalar.Binary64

/-!
The operations of the controls on one device. `Puts i d` says that only the device `i` has changed,
and is now `d`; `fixed` is the part of a device that no operation changes. Proved here:

* `start_of_quiet`, `read_of_quiet`, `status_of_quiet`, `guard_of_quiet`: operations of a device
  without faults (`Quiet`) are not stopped by `guard`;
* `fixed_start`, `fixed_advance` and the lemmas after them: what stays of `fixed`;
* `start_motor`, `wait_switch` and the others: an operation of the controls on a motor or a switch
  is the operation of that device at `callTime`, and `Puts` the result.
-/

namespace Beamline

variable {α : Type} [Scalar α]

/-! ## Devices without faults -/

/-- No fault sticks, there are no scenarios, and every rate is at most 0. -/
def Faults.Quiet (f : Faults α) : Prop :=
  f.sticky = Option.none ∧ f.scenarios = [] ∧ ∀ operation, f.rate operation ≤ 0

theorem Faults.rate_of_nil {f : Faults Float} (h : f.rates = []) (operation : String) :
    f.rate operation ≤ 0 := by
  rw [rate, h]
  change (0 : Float) ≤ 0
  decide

theorem Faults.quiet_none : (Faults.none : Faults Float).Quiet :=
  ⟨rfl, rfl, Faults.rate_of_nil rfl⟩

theorem Faults.check_of_quiet {f : Faults α} (h : f.Quiet) (device operation : String) :
    Faults.check device operation f = (.ok (), f) := by
  obtain ⟨hsticky, hscenarios, hrates⟩ := h
  simp only [Faults.check, hsticky, hscenarios, Scenario.consult,
    Random.Source.happens_never _ (hrates operation), Bool.false_eq_true, if_false]
  rw [← hscenarios, ← hsticky]

namespace Motor

variable {m : Motor α}

theorem guard_of_quiet (h : m.faults.Quiet) (operation : Operation) :
    guard operation m = (.ok (), m) := by
  simp only [guard, Faults.check_of_quiet h]

theorem start_of_quiet (h : m.faults.Quiet) (now : Nat) (target : Value α) :
    start now target m = match m.checkedTarget target with
      | .error e => (.error e, m)
      | .ok x => depart now x m := by
  unfold start
  rw [Action.bind_ok _ (guard_of_quiet h .start), Action.bind_ok _ (rfl : Action.look m = _)]
  cases hx : m.checkedTarget target with
  | error e => exact Action.bind_error _ rfl
  | ok x => exact Action.bind_ok _ rfl

theorem read_of_quiet (h : m.faults.Quiet) (now maxAge : Nat) :
    read now maxAge m = match m.cache.get? now maxAge with
      | some x => (.ok (.scalar x), m)
      | none => (.ok (.scalar (m.positionAt now)),
          { m.advance now with
            cache := .put (m.positionAt now) now, hardwareReads := m.hardwareReads + 1 }) := by
  unfold read
  rw [Action.bind_ok _ (guard_of_quiet h .read), Action.bind_ok _ (rfl : Action.look m = _)]
  cases m.cache.get? now maxAge <;> rfl

theorem status_of_quiet (h : m.faults.Quiet) {now : Nat} (hidle : m.isMoving now = false) :
    m.status now = .idle := by
  simp only [status, Faults.fault, h.1, Option.map_none, hidle]

theorem depart_instant (hp : m.pacing = .instant) (now : Nat) (x : α) :
    (depart now x m).1 = .ok (m.positionAt now) := by
  have hpacing : (m.advance now).pacing = .instant := by
    unfold advance
    split
    · split <;> exact hp
    · exact hp
  simp [depart, travelTime, settlingTime, hpacing]

end Motor

namespace Switch

variable {s : Switch α}

theorem guard_of_quiet (h : s.faults.Quiet) (operation : Operation) :
    guard operation s = (.ok (), s) := by
  simp only [guard, Faults.check_of_quiet h]

theorem start_of_quiet (h : s.faults.Quiet) (now : Nat) (target : Value α) :
    start now target s = match s.isAllowed target with
      | .error e => (.error e, s)
      | .ok () => (.ok (target.state?.getD ""), s.depart now (target.state?.getD "")) := by
  unfold start
  rw [Action.bind_ok _ (guard_of_quiet h .start), Action.bind_ok _ (rfl : Action.look s = _)]
  cases hx : s.isAllowed target with
  | error e => exact Action.bind_error _ rfl
  | ok u => exact Action.bind_ok _ rfl

theorem read_of_quiet (h : s.faults.Quiet) (now : Nat) :
    read now s = (.ok (.state ((s.advance now).readingAt now)), s.advance now) := by
  unfold read
  rw [Action.bind_ok _ (guard_of_quiet h .read)]
  rfl

omit [Scalar α] in
theorem isAllowed_state {name : String} :
    s.isAllowed (.state name) = .ok () ↔ name ∈ s.states := by
  simp [isAllowed]

end Switch

/-! ## What no operation changes -/

def Motor.fixed (m : Motor α) : Motor α :=
  { m with position := 0, target := none, motion := none, cache := .empty, hardwareReads := 0 }

def Switch.fixed (s : Switch α) : Switch α := { s with current := none, pending := none }

def Device.fixed : Device α → Device α
  | .motor m => .motor m.fixed
  | .switch s => .switch s.fixed
  | d => d

namespace Motor

variable {m m' : Motor α}

theorem fixed_advance (m : Motor α) (now : Nat) : (m.advance now).fixed = m.fixed := by
  unfold advance
  split
  · split <;> rfl
  · rfl

theorem fixed_depart (m : Motor α) (now : Nat) (x : α) : (depart now x m).2.fixed = m.fixed := by
  rw [← fixed_advance m now]
  unfold depart
  dsimp only
  split
  · rfl
  · split <;> rfl

theorem fixed_start (h : m.faults.Quiet) (now : Nat) (target : Value α) :
    (start now target m).2.fixed = m.fixed := by
  rw [start_of_quiet h]
  split
  · rfl
  · exact fixed_depart m now _

theorem faults_of_fixed (h : m.fixed = m'.fixed) : m.faults = m'.faults := by
  have hfaults : m.fixed.faults = m'.fixed.faults := by rw [h]
  exact hfaults

theorem pacing_of_fixed (h : m.fixed = m'.fixed) : m.pacing = m'.pacing := by
  have hpacing : m.fixed.pacing = m'.fixed.pacing := by rw [h]
  exact hpacing

theorem isAllowed_congr (h : m.fixed = m'.fixed) (target : Value α) :
    m.isAllowed target = m'.isAllowed target := by
  have hm : ∀ k : Motor α, k.fixed.isAllowed target = k.isAllowed target := fun _ => rfl
  rw [← hm, h, hm]

end Motor

namespace Switch

variable {s s' : Switch α}

omit [Scalar α] in
theorem fixed_advance (s : Switch α) (now : Nat) : (s.advance now).fixed = s.fixed := by
  unfold advance
  split
  · split <;> rfl
  · rfl

omit [Scalar α] in
theorem fixed_depart (s : Switch α) (now : Nat) (state : String) :
    (s.depart now state).fixed = s.fixed := by
  unfold depart
  split <;> rfl

theorem fixed_start (h : s.faults.Quiet) (now : Nat) (target : Value α) :
    (start now target s).2.fixed = s.fixed := by
  rw [start_of_quiet h]
  split
  · rfl
  · exact fixed_depart s now _

omit [Scalar α] in
theorem faults_of_fixed (h : s.fixed = s'.fixed) : s.faults = s'.faults := by
  have hfaults : s.fixed.faults = s'.fixed.faults := by rw [h]
  exact hfaults

omit [Scalar α] in
theorem isAllowed_congr (h : s.fixed = s'.fixed) (target : Value α) :
    s.isAllowed target = s'.isAllowed target := by
  have hs : ∀ k : Switch α, k.fixed.isAllowed target = k.isAllowed target := fun k => by
    cases target <;> rfl
  rw [← hs, h, hs]

end Switch

theorem Device.name_fixed (d : Device α) : d.fixed.name = d.name := by
  cases d <;> rfl

theorem Device.fixed_eq_motor {d : Device α} {m : Motor α} (h : d.fixed = (Device.motor m).fixed) :
    ∃ m', d = .motor m' ∧ m'.fixed = m.fixed := by
  cases d with
  | motor m' => exact ⟨m', rfl, Device.motor.inj h⟩
  | switch s => cases h
  | standIn d => cases h
  | composite c => cases h

theorem Device.fixed_eq_switch {d : Device α} {s : Switch α}
    (h : d.fixed = (Device.switch s).fixed) : ∃ s', d = .switch s' ∧ s'.fixed = s.fixed := by
  cases d with
  | motor m => cases h
  | switch s' => exact ⟨s', rfl, Device.switch.inj h⟩
  | standIn d => cases h
  | composite c => cases h

theorem Device.fixed_eq_composite {d : Device α} {c : Composite DeviceId α}
    (h : d.fixed = .composite c) : d = .composite c := by
  cases d with
  | motor m => cases h
  | switch s => cases h
  | standIn d => cases h
  | composite c' => exact h

namespace Lab

variable {lab lab' : Lab α} {i j : DeviceId} {d d' : Device α}

def fixed (lab : Lab α) : List (Device α) := lab.devices.map Device.fixed

theorem fixed_device? (h : lab'.fixed = lab.fixed) (i : DeviceId) :
    (lab'.device? i).map Device.fixed = (lab.device? i).map Device.fixed := by
  have hi : lab'.fixed[i]? = lab.fixed[i]? := by rw [h]
  simpa only [fixed, device?, List.getElem?_map] using hi

theorem device?_of_fixed (h : lab'.fixed = lab.fixed) (hd : lab.device? i = some d) :
    ∃ d', lab'.device? i = some d' ∧ d'.fixed = d.fixed := by
  have hi := fixed_device? h i
  rw [hd] at hi
  exact Option.map_eq_some_iff.mp hi

theorem nameOf_congr (h : lab'.fixed = lab.fixed) (i : DeviceId) :
    lab'.nameOf i = lab.nameOf i := by
  have hname : ∀ l : Lab α,
      l.nameOf i = (((l.device? i).map Device.fixed).map Device.name).getD "" := by
    intro l
    simp only [nameOf, Option.map_map]
    congr 2
    exact funext fun d => (d.name_fixed).symm
  rw [hname, hname, fixed_device? h]

/-! ## One device at a time -/

/-- Only the device `i` has changed, and it is now `d`. -/
def Puts (lab : Lab α) (i : DeviceId) (d : Device α) (lab' : Lab α) : Prop :=
  lab'.devices = lab.devices.set i d

theorem Puts.same (h : lab.Puts i d lab') (hi : lab.device? i = some d') :
    lab'.device? i = some d := by
  obtain ⟨hlt, -⟩ := List.getElem?_eq_some_iff.mp hi
  simp only [device?, show lab'.devices = _ from h, List.getElem?_set_self hlt]

theorem Puts.other (h : lab.Puts i d lab') (hj : j ≠ i) : lab'.device? j = lab.device? j := by
  simp only [device?, show lab'.devices = _ from h, List.getElem?_set_ne (Ne.symm hj)]

theorem Puts.fixed (h : lab.Puts i d lab') (hi : lab.device? i = some d')
    (hd : d.fixed = d'.fixed) : lab'.fixed = lab.fixed := by
  obtain ⟨hlt, hget⟩ := List.getElem?_eq_some_iff.mp hi
  simp only [Lab.fixed, show lab'.devices = _ from h, List.map_set, hd]
  rw [← hget, ← List.getElem_map Device.fixed (h := by simpa using hlt), List.set_getElem_self]

theorem fixed_put (hi : lab.device? i = some d') (hd : d.fixed = d'.fixed) :
    (lab.put i d).fixed = lab.fixed := by
  have hputs : lab.Puts i d (lab.put i d) := rfl
  exact hputs.fixed hi hd

theorem put_self (hi : lab.device? i = some d) : lab.put i d = lab := by
  obtain ⟨hlt, hget⟩ := List.getElem?_eq_some_iff.mp hi
  unfold put
  rw [← hget, List.set_getElem_self]

/-- The time at which a call finds the clock. -/
def callTime (lab : Lab α) (pace : Pace) : Nat := (lab.tick pace).clock.now

/-- The laboratory after one more call is recorded. -/
def called (lab : Lab α) (pace : Pace) (device : String) (operation : Operation)
    (value : Option (Value α)) : Lab α :=
  { lab.tick pace with calls := lab.calls ++ [⟨device, operation, value⟩] }

theorem call_apply {ε : Type} (lab : Lab α) (pace : Pace) (device : String) (operation : Operation)
    (value : Option (Value α)) :
    (call pace device operation value : Action (Lab α) ε Nat) lab =
      (.ok (lab.callTime pace), lab.called pace device operation value) := rfl

variable (pace : Pace) (depth : Nat)

theorem start_motor {m : Motor α} (h : lab.device? i = some (.motor m)) (target : Value α) :
    ∃ lab', (controlsTo pace (depth + 1)).start i target lab =
        ((Motor.start (lab.callTime pace) target m).1.map fun _ => (), lab') ∧
      lab.Puts i (.motor (Motor.start (lab.callTime pace) target m).2) lab' := by
  simp only [controlsTo, h, motorStart]
  rw [Action.bind_ok _ (call_apply lab pace m.name .start (some target))]
  cases hr : (Motor.start (lab.callTime pace) target m).1 with
  | ok x => exact ⟨_, Action.bind_ok _ (Prod.ext hr rfl), rfl⟩
  | error e => exact ⟨_, Action.bind_error _ (Prod.ext hr rfl), rfl⟩

theorem start_switch {s : Switch α} (h : lab.device? i = some (.switch s)) (target : Value α) :
    ∃ lab', (controlsTo pace (depth + 1)).start i target lab =
        ((Switch.start (lab.callTime pace) target s).1.map fun _ => (), lab') ∧
      lab.Puts i (.switch (Switch.start (lab.callTime pace) target s).2) lab' := by
  simp only [controlsTo, h, switchStart]
  rw [Action.bind_ok _ (call_apply lab pace s.name .start (some target))]
  cases hr : (Switch.start (lab.callTime pace) target s).1 with
  | ok x => exact ⟨_, Action.bind_ok _ (Prod.ext hr rfl), rfl⟩
  | error e => exact ⟨_, Action.bind_error _ (Prod.ext hr rfl), rfl⟩

theorem read_switch {s : Switch α} (h : lab.device? i = some (.switch s)) (maxAge : Nat) :
    ∃ lab', (controlsTo pace (depth + 1)).read i maxAge lab =
        ((Switch.read (lab.callTime pace) s).1, lab') ∧
      lab.Puts i (.switch (Switch.read (lab.callTime pace) s).2) lab' := by
  simp only [controlsTo, h]
  exact ⟨_, rfl, rfl⟩

theorem read_motor {m : Motor α} (h : lab.device? i = some (.motor m)) (maxAge : Nat) :
    ∃ lab', (controlsTo pace (depth + 1)).read i maxAge lab =
        ((Motor.read (lab.callTime pace) maxAge m).1, lab') ∧
      lab.Puts i (.motor (Motor.read (lab.callTime pace) maxAge m).2) lab' := by
  simp only [controlsTo, h]
  exact ⟨_, rfl, rfl⟩

theorem onMotor_apply {ε β : Type} {x : Action (Motor α) ε β} {m m' : Motor α} {r : Except ε β}
    (h : x m = (r, m')) (i : DeviceId) (lab : Lab α) :
    onMotor i m x lab = (r, lab.put i (.motor m')) := by
  simp only [onMotor, h]

theorem onSwitch_apply {ε β : Type} {x : Action (Switch α) ε β} {s s' : Switch α}
    {r : Except ε β} (h : x s = (r, s')) (i : DeviceId) (lab : Lab α) :
    onSwitch i s x lab = (r, lab.put i (.switch s')) := by
  simp only [onSwitch, h]

theorem stop_motor {m : Motor α} (h : lab.device? i = some (.motor m)) :
    ∃ lab', (controlsTo pace (depth + 1)).stop i lab =
        ((Motor.stop (lab.callTime pace) m).1.map fun _ => (), lab') ∧
      lab.Puts i (.motor (Motor.stop (lab.callTime pace) m).2) lab' := by
  simp only [controlsTo, h, motorStop]
  rw [Action.bind_ok _ (call_apply lab pace m.name .stop none)]
  rcases hr : Motor.stop (lab.callTime pace) m with ⟨e | at?, m'⟩
  · rw [Action.bind_error _ (onMotor_apply hr i _)]
    exact ⟨_, rfl, rfl⟩
  · rw [Action.bind_ok _ (onMotor_apply hr i _)]
    cases at? with
    | some x => exact ⟨_, rfl, rfl⟩
    | none => exact ⟨_, rfl, rfl⟩

theorem stop_switch {s : Switch α} (h : lab.device? i = some (.switch s)) :
    ∃ lab', (controlsTo pace (depth + 1)).stop i lab = ((Switch.stop s).1, lab') ∧
      lab.Puts i (.switch (Switch.stop s).2) lab' := by
  simp only [controlsTo, h]
  exact ⟨_, rfl, rfl⟩

theorem wait_motor {m : Motor α} (h : lab.device? i = some (.motor m)) :
    ∃ lab', (controlsTo pace (depth + 1)).wait i lab =
        ((Motor.wait pace (m, (lab.tick pace).clock)).1, lab') ∧
      lab.Puts i (.motor (Motor.wait pace (m, (lab.tick pace).clock)).2.1) lab' := by
  simp only [controlsTo, h]
  exact ⟨_, rfl, rfl⟩

theorem wait_switch {s : Switch α} (h : lab.device? i = some (.switch s)) :
    ∃ lab', (controlsTo pace (depth + 1)).wait i lab =
        ((Switch.wait pace (s, (lab.tick pace).clock)).1, lab') ∧
      lab.Puts i (.switch (Switch.wait pace (s, (lab.tick pace).clock)).2.1) lab' := by
  simp only [controlsTo, h]
  exact ⟨_, rfl, rfl⟩

theorem status_motor {m : Motor α} (h : lab.device? i = some (.motor m)) (maxAge : Nat) :
    ∃ lab', (controlsTo pace (depth + 1)).status i maxAge lab =
        (m.status (lab.callTime pace), lab') ∧
      lab.Puts i (.motor (m.advance (lab.callTime pace))) lab' := by
  simp only [controlsTo, h]
  exact ⟨_, rfl, rfl⟩

theorem status_switch {s : Switch α} (h : lab.device? i = some (.switch s)) (maxAge : Nat) :
    ∃ lab', (controlsTo pace (depth + 1)).status i maxAge lab =
        (s.status (lab.callTime pace), lab') ∧
      lab.Puts i (.switch (s.advance (lab.callTime pace))) lab' := by
  simp only [controlsTo, h]
  exact ⟨_, rfl, rfl⟩

variable {pace depth}

theorem start_composite {c : Composite DeviceId α} (h : lab.device? i = some (.composite c))
    (target : Value α) :
    (controlsTo pace (depth + 1)).start i target lab =
      match c.moveTo (controlsTo pace depth) target lab with
      | (.error e, lab) => (.error e, lab)
      | (.ok c, lab) => (.ok (), lab.put i (.composite c)) := by
  rcases hmove : c.moveTo (controlsTo pace depth) target lab with ⟨_ | _, lab'⟩ <;>
    simp only [controlsTo, h, hmove]

theorem start_composite_ok {c : Composite DeviceId α} (h : lab.device? i = some (.composite c))
    (hmode : c.mode = .master) {target : Value α}
    (hrun : (controlsTo pace (depth + 1)).start i target lab = (.ok (), lab')) :
    ∃ p lab₁, c.plan (controlsTo pace depth) lab target = .ok p ∧
      c.dispatch (controlsTo pace depth) p lab = (.ok (), lab₁) ∧
      lab' = lab₁.put i (.composite c) := by
  rw [start_composite h] at hrun
  cases hplan : c.plan (controlsTo pace depth) lab target with
  | error e =>
    rw [Composite.moveTo_of_plan_error hplan] at hrun
    cases hrun
  | ok p =>
    rw [Composite.moveTo_of_plan_ok hmode hplan] at hrun
    rcases hsent : c.dispatch (controlsTo pace depth) p lab with ⟨r, lab₁⟩
    cases r with
    | error e =>
      rw [Action.bind_error _ hsent] at hrun
      cases hrun
    | ok u =>
      rw [Action.bind_ok _ hsent] at hrun
      exact ⟨p, lab₁, rfl, hsent, (Prod.mk.inj hrun).2.symm⟩

theorem read_composite {c : Composite DeviceId α} (h : lab.device? i = some (.composite c))
    (maxAge : Nat) : (controlsTo pace (depth + 1)).read i maxAge lab =
      c.read (controlsTo pace depth) maxAge lab := by
  simp only [controlsTo, h]

theorem wait_composite {c : Composite DeviceId α} (h : lab.device? i = some (.composite c)) :
    (controlsTo pace (depth + 1)).wait i lab = c.wait (controlsTo pace depth) lab := by
  simp only [controlsTo, h]

theorem status_composite {c : Composite DeviceId α} (h : lab.device? i = some (.composite c))
    (maxAge : Nat) : (controlsTo pace (depth + 1)).status i maxAge lab =
      c.status (controlsTo pace depth) maxAge lab := by
  simp only [controlsTo, h]

theorem read_switch_fixed {s : Switch α} (h : lab.device? i = some (.switch s))
    (hquiet : s.faults.Quiet) (maxAge : Nat) :
    ((controlsTo pace (depth + 1)).read i maxAge lab).2.fixed = lab.fixed := by
  obtain ⟨lab', hrun, hputs⟩ := read_switch pace depth h maxAge
  rw [hrun]
  refine hputs.fixed h (congrArg Device.switch ?_)
  rw [Switch.read_of_quiet hquiet]
  exact Switch.fixed_advance s _

end Lab
end Beamline
