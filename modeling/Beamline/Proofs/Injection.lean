import Beamline.Proofs.Evolving

/-!
Operations of a motor or a switch whose faults decide that they fail. Proved here:

* `perform_refused`: an operation that `Consults` the faults fails with their error, and changes the
  faults and the record of calls only;
* `Evolves.fixed_of_stuck`, `fixed_of_stuck`: a fault that sticks does so throughout any `Use` of
  the laboratory, which is everything but a reset;
* `perform_stuck`: while it sticks, every operation that `Consults` the faults fails with it and
  changes nothing but the record of calls;
* `injected_failure` puts these together. The stop of a switch does not consult the faults
  (`perform_unasked`, `lost_connection_stops`).
-/

namespace Beamline

open Relation

variable {ι σ α : Type}

/-! ## Operations that can fail -/

inductive Command (α : Type) where
  | read (maxAge : Nat)
  | start (target : Value α)
  | stop
  | wait

namespace Command

def operation : Command α → Operation
  | read _ => .read
  | start _ => .start
  | stop => .stop
  | wait => .wait

/-- The value that is recorded with the call. -/
def value : Command α → Option (Value α)
  | start target => some target
  | _ => none

end Command

namespace Controls

/-- The operation, with the value that it reads, if any. -/
def perform (k : Controls ι σ α) (d : ι) :
    Command α → Action σ (DeviceError α) (Option (Value α))
  | .read maxAge => do
    let v ← k.read d maxAge
    pure (some v)
  | .start target => do
    k.start d target
    pure none
  | .stop => do
    k.stop d
    pure none
  | .wait => do
    k.wait d
    pure none

theorem Within.perform {k : Controls ι σ α} {S : σ → σ → Prop} (h : k.Within S) (d : ι)
    (x : Command α) : Action.Within S (k.perform d x) := by
  cases x with
  | read maxAge => exact (h.read d maxAge).bind fun _ => .pure _
  | start target => exact (h.start d target).bind fun _ => .pure _
  | stop => exact (h.stop d).bind fun _ => .pure _
  | wait => exact (h.wait d).bind fun _ => .pure _

end Controls

variable [Scalar α]

/-! ## Devices with faults -/

namespace Device

def faults? : Device α → Option (Faults α)
  | motor m => some m.faults
  | switch s => some s.faults
  | _ => none

def withFaults (f : Faults α) : Device α → Device α
  | motor m => motor { m with faults := f }
  | switch s => switch { s with faults := f }
  | d => d

/-- All operations but the stop of a switch. -/
def Consults : Device α → Operation → Prop
  | switch _, .stop => False
  | _, _ => True

variable {d d' : Device α} {f : Faults α} {s : StickyFault}

theorem withFaults_self (h : d.faults? = some f) : d.withFaults f = d := by
  cases d with
  | motor m => cases h; rfl
  | switch s => cases h; rfl
  | standIn d => rfl
  | composite c => rfl

theorem faults?_withFaults (h : d.faults? = some f) (f' : Faults α) :
    (d.withFaults f').faults? = some f' := by
  cases d with
  | motor m => rfl
  | switch s => rfl
  | standIn d => cases h
  | composite c => cases h

theorem name_withFaults (d : Device α) (f : Faults α) : (d.withFaults f).name = d.name := by
  cases d <;> rfl

theorem consults_withFaults {operation : Operation} (h : d.Consults operation) (f : Faults α) :
    (d.withFaults f).Consults operation := by
  cases d <;> cases operation <;> exact h

theorem faults?_of_fixed (h : d'.fixed = d.fixed) : d'.faults? = d.faults? := by
  have hfixed : ∀ e : Device α, e.fixed.faults? = e.faults? := by
    intro e
    cases e <;> rfl
  rw [← hfixed d', h, hfixed]

theorem name_of_fixed (h : d'.fixed = d.fixed) : d'.name = d.name := by
  rw [← name_fixed d', h, name_fixed]

theorem consults_of_fixed (h : d'.fixed = d.fixed) {operation : Operation}
    (hc : d.Consults operation) : d'.Consults operation := by
  have hfixed : ∀ e : Device α, e.fixed.Consults operation ↔ e.Consults operation := by
    intro e
    cases e <;> cases operation <;> rfl
  rwa [← hfixed d', h, hfixed]

end Device

theorem Motor.guard_refuses {m : Motor α} {operation : Operation} {e : DriverError}
    {f : Faults α} (h : Faults.check m.name operation.name m.faults = (.error e, f)) :
    Motor.guard operation m = (.error (.driver e), { m with faults := f }) := by
  simp only [Motor.guard, h]

theorem Switch.guard_refuses {s : Switch α} {operation : Operation} {e : DriverError}
    {f : Faults α} (h : Faults.check s.name operation.name s.faults = (.error e, f)) :
    Switch.guard operation s = (.error (.driver e), { s with faults := f }) := by
  simp only [Switch.guard, h]

/-! ## An operation that fails by injection -/

namespace Lab

variable {lab lab' : Lab α} {i : DeviceId} {d : Device α} {f f' : Faults α} {e : DriverError}
  {pace : Pace} {depth : Nat} {s : StickyFault}

theorem perform_motor_refused {m : Motor α} (hd : lab.device? i = some (.motor m))
    (x : Command α) (hcheck : Faults.check m.name x.operation.name m.faults = (.error e, f')) :
    (controlsTo pace (depth + 1)).perform i x lab = (.error (.driver e),
      (lab.called pace m.name x.operation x.value).put i (.motor { m with faults := f' })) := by
  have hguard := Motor.guard_refuses hcheck
  cases x with
  | read maxAge =>
    have hread : Motor.read (lab.callTime pace) maxAge m = _ := Action.bind_error _ hguard
    refine Action.bind_error _ ?_
    simp only [controlsTo, hd, motorRead]
    rw [Action.bind_ok _ (call_apply lab pace m.name .read none), onMotor_apply hread]
    rfl
  | start target =>
    have hstart : Motor.start (lab.callTime pace) target m = _ := Action.bind_error _ hguard
    refine Action.bind_error _ ?_
    simp only [controlsTo, hd, motorStart]
    rw [Action.bind_ok _ (call_apply lab pace m.name .start (some target)),
      Action.bind_error _ (onMotor_apply hstart i _)]
    rfl
  | stop =>
    have hstop : Motor.stop (lab.callTime pace) m = _ := Action.bind_error _ hguard
    refine Action.bind_error _ ?_
    simp only [controlsTo, hd, motorStop]
    rw [Action.bind_ok _ (call_apply lab pace m.name .stop none),
      Action.bind_error _ (onMotor_apply hstop i _)]
    rfl
  | wait =>
    have hwait : ∀ clock, Motor.wait pace (m, clock) =
        (.error (.driver e), { m with faults := f' }, clock) := by
      intro clock
      simp only [Motor.wait, show Motor.guard .wait m = _ from hguard]
    refine Action.bind_error _ ?_
    simp only [controlsTo, hd]
    refine (Action.bind_ok _ (call_apply lab pace m.name .wait none)).trans ?_
    simp only [hwait]
    rfl

theorem perform_switch_refused {w : Switch α} (hd : lab.device? i = some (.switch w))
    (x : Command α) (hc : x.operation ≠ .stop)
    (hcheck : Faults.check w.name x.operation.name w.faults = (.error e, f')) :
    (controlsTo pace (depth + 1)).perform i x lab = (.error (.driver e),
      (lab.called pace w.name x.operation x.value).put i (.switch { w with faults := f' })) := by
  have hguard := Switch.guard_refuses hcheck
  cases x with
  | read maxAge =>
    have hread : Switch.read (lab.callTime pace) w = _ := Action.bind_error _ hguard
    refine Action.bind_error _ ?_
    simp only [controlsTo, hd, switchRead]
    rw [Action.bind_ok _ (call_apply lab pace w.name .read none), onSwitch_apply hread]
    rfl
  | start target =>
    have hstart : Switch.start (lab.callTime pace) target w = _ := Action.bind_error _ hguard
    refine Action.bind_error _ ?_
    simp only [controlsTo, hd, switchStart]
    rw [Action.bind_ok _ (call_apply lab pace w.name .start (some target)),
      Action.bind_error _ (onSwitch_apply hstart i _)]
    rfl
  | stop => exact absurd rfl hc
  | wait =>
    have hwait : ∀ clock, Switch.wait pace (w, clock) =
        (.error (.driver e), { w with faults := f' }, clock) := by
      intro clock
      simp only [Switch.wait, show Switch.guard .wait w = _ from hguard]
    refine Action.bind_error _ ?_
    simp only [controlsTo, hd]
    refine (Action.bind_ok _ (call_apply lab pace w.name .wait none)).trans ?_
    simp only [hwait]
    rfl

theorem perform_refused (hd : lab.device? i = some d) (hf : d.faults? = some f) {x : Command α}
    (hc : d.Consults x.operation)
    (hcheck : Faults.check d.name x.operation.name f = (.error e, f')) :
    (controlsTo pace (depth + 1)).perform i x lab = (.error (.driver e),
      (lab.called pace d.name x.operation x.value).put i (d.withFaults f')) := by
  cases d with
  | motor m =>
    cases hf
    exact perform_motor_refused hd x hcheck
  | switch w =>
    cases hf
    refine perform_switch_refused hd x ?_ hcheck
    rintro hstop
    rw [hstop] at hc
    exact hc
  | standIn d => cases hf
  | composite c => cases hf

theorem perform_unasked (hd : lab.device? i = some d) {x : Command α}
    (hc : ¬ d.Consults x.operation) :
    (controlsTo pace (depth + 1)).perform i x lab =
      (.ok none, lab.called pace d.name x.operation x.value) := by
  cases d with
  | switch w =>
    cases x with
    | stop =>
      have hsame : (lab.called pace w.name .stop none).put i (.switch w) =
        lab.called pace w.name .stop none := put_self hd
      have hstop : (controlsTo pace (depth + 1)).stop i lab =
          (.ok (), lab.called pace w.name .stop none) := by
        simp only [controlsTo, hd]
        exact Prod.ext rfl hsame
      exact Action.bind_ok _ hstop
    | _ => exact absurd trivial hc
  | _ => exact absurd trivial hc

end Lab

/-! ## A fault that sticks -/

section Stuck

variable {s : StickyFault}

theorem Motor.guard_stuck {m : Motor α} (h : m.faults.sticky = some s) (operation : Operation) :
    Motor.guard operation m = (.error (.driver ⟨m.name, s.fault⟩), m) :=
  Motor.guard_refuses (Faults.check_of_sticky h m.name operation.name)

theorem Switch.guard_stuck {w : Switch α} (h : w.faults.sticky = some s)
    (operation : Operation) :
    Switch.guard operation w = (.error (.driver ⟨w.name, s.fault⟩), w) :=
  Switch.guard_refuses (Faults.check_of_sticky h w.name operation.name)

/-- While a fault sticks only `pass` is more than a refusal. -/
theorem Motor.Step.fixed_of_stuck {m m' : Motor α} (h : m.Step m')
    (hs : m.faults.sticky = some s) : m'.fixed = m.fixed := by
  cases h with
  | read now maxAge =>
    have hread : Motor.read now maxAge m = _ := Action.bind_error _ (Motor.guard_stuck hs .read)
    rw [hread]
  | start now target =>
    have hstart : Motor.start now target m = _ := Action.bind_error _ (Motor.guard_stuck hs .start)
    rw [hstart]
  | stop now =>
    have hstop : Motor.stop now m = _ := Action.bind_error _ (Motor.guard_stuck hs .stop)
    rw [hstop]
  | wait pace clock => simp only [Motor.wait, Motor.guard_stuck hs .wait]
  | pass now => exact Motor.fixed_advance m now

theorem Switch.Step.fixed_of_stuck {w w' : Switch α} (h : w.Step w')
    (hs : w.faults.sticky = some s) : w'.fixed = w.fixed := by
  cases h with
  | read now =>
    have hread : Switch.read now w = _ := Action.bind_error _ (Switch.guard_stuck hs .read)
    rw [hread]
  | start now target =>
    have hstart : Switch.start now target w = _ :=
      Action.bind_error _ (Switch.guard_stuck hs .start)
    rw [hstart]
  | stop => rfl
  | wait pace clock => simp only [Switch.wait, Switch.guard_stuck hs .wait]
  | pass now => exact Switch.fixed_advance w now

theorem Device.Step.fixed_of_stuck {d d' : Device α} {f : Faults α} (h : d.Step d')
    (hf : d.faults? = some f) (hs : f.sticky = some s) : d'.fixed = d.fixed := by
  cases h with
  | motor h =>
    cases hf
    exact congrArg Device.motor (h.fixed_of_stuck hs)
  | switch h =>
    cases hf
    exact congrArg Device.switch (h.fixed_of_stuck hs)
  | standIn d target => cases hf
  | composite c v => cases hf

end Stuck

namespace Lab

/-! ## Use of a laboratory -/

/-- One action of any kind but a reset of faults: an operation, a look, a change by hand, or a check
by another holder of the faults. -/
inductive Use (pace : Pace) (lab : Lab α) : Lab α → Prop
  | perform (i : DeviceId) (x : Command α) : Use pace lab ((lab.controls pace).perform i x lab).2
  | status (i : DeviceId) (maxAge : Nat) : Use pace lab ((lab.controls pace).status i maxAge lab).2
  | sleep (span : Nat) : Use pace lab (lab.sleep pace span)
  | lookMotor {β : Type} (i : DeviceId) (look : Motor α → Nat → β) :
      Use pace lab (lab.lookMotor pace i look).2
  | lookSwitch {β : Type} (i : DeviceId) (look : Switch α → Nat → β) :
      Use pace lab (lab.lookSwitch pace i look).2
  | placeMotor (i : DeviceId) (x : α) : Use pace lab (lab.adjustMotor i (·.place x))
  | placeSwitch (i : DeviceId) (state : Option String) :
      Use pace lab (lab.adjustSwitch i (·.place state))
  | ask {i : DeviceId} {d : Device α} {f : Faults α} (hd : lab.device? i = some d)
      (hf : d.faults? = some f) (device operation : String) :
      Use pace lab (lab.put i (d.withFaults (Faults.check device operation f).2))

variable {lab lab' : Lab α} {i j : DeviceId} {d : Device α} {f f' : Faults α} {e : DriverError}
  {pace : Pace} {s : StickyFault}

theorem lookMotor_evolves {β : Type} (pace : Pace) (i : DeviceId) (look : Motor α → Nat → β)
    (lab : Lab α) : lab.Evolves (lab.lookMotor pace i look).2 := by
  unfold lookMotor
  dsimp only
  split
  · rename_i m hm
    exact .of_puts (d := .motor m) hm (.motor (.pass _)) rfl
  · exact .of_devices rfl

theorem lookSwitch_evolves {β : Type} (pace : Pace) (i : DeviceId) (look : Switch α → Nat → β)
    (lab : Lab α) : lab.Evolves (lab.lookSwitch pace i look).2 := by
  unfold lookSwitch
  dsimp only
  split
  · rename_i w hw
    exact .of_puts (d := .switch w) hw (.switch (.pass _)) rfl
  · exact .of_devices rfl

theorem adjustMotor_fixed {g : Motor α → Motor α} (hg : ∀ m, (g m).fixed = m.fixed)
    (i : DeviceId) (lab : Lab α) : (lab.adjustMotor i g).fixed = lab.fixed := by
  unfold adjustMotor
  split
  · rename_i m hm
    exact fixed_put hm (congrArg Device.motor (hg m))
  · rfl

theorem adjustSwitch_fixed {g : Switch α → Switch α} (hg : ∀ w, (g w).fixed = w.fixed)
    (i : DeviceId) (lab : Lab α) : (lab.adjustSwitch i g).fixed = lab.fixed := by
  unfold adjustSwitch
  split
  · rename_i w hw
    exact fixed_put hw (congrArg Device.switch (hg w))
  · rfl

theorem Evolves.fixed_of_stuck (h : lab.Evolves lab') (hd : lab.device? i = some d)
    (hf : d.faults? = some f) (hs : f.sticky = some s) :
    ∃ d', lab'.device? i = some d' ∧ d'.fixed = d.fixed := by
  -- the fault is part of what is fixed, so it still sticks when the next step is taken
  refine h.keeps (P := fun d' => d'.fixed = d.fixed) (fun d' d'' hstep hd' => ?_) hd rfl
  rw [hstep.fixed_of_stuck ((Device.faults?_of_fixed hd').trans hf) hs, hd']

theorem Use.fixed_of_stuck (h : lab.Use pace lab') (hd : lab.device? i = some d)
    (hf : d.faults? = some f) (hs : f.sticky = some s) :
    ∃ d', lab'.device? i = some d' ∧ d'.fixed = d.fixed := by
  cases h with
  | perform j x =>
    exact Evolves.fixed_of_stuck ((controlsTo_evolves pace _).perform j x lab) hd hf hs
  | status j maxAge =>
    exact Evolves.fixed_of_stuck ((controlsTo_evolves pace _).status j maxAge lab) hd hf hs
  | sleep span => exact ⟨d, hd, rfl⟩
  | lookMotor j look => exact (lookMotor_evolves pace j look lab).fixed_of_stuck hd hf hs
  | lookSwitch j look => exact (lookSwitch_evolves pace j look lab).fixed_of_stuck hd hf hs
  | placeMotor j x =>
    exact device?_of_fixed (adjustMotor_fixed (g := (·.place x)) (fun _ => rfl) j lab) hd
  | placeSwitch j state =>
    exact device?_of_fixed (adjustSwitch_fixed (g := (·.place state)) (fun _ => rfl) j lab) hd
  | @ask j b g hb hg device operation =>
    let b' := b.withFaults (Faults.check device operation g).2
    have hputs : lab.Puts j b' (lab.put j b') := rfl
    by_cases hij : i = j
    · subst hij
      obtain rfl : b = d := Option.some.inj (hb.symm.trans hd)
      obtain rfl : g = f := Option.some.inj (hg.symm.trans hf)
      refine ⟨b', hputs.same hd, ?_⟩
      simp only [b']
      rw [Faults.check_of_sticky hs, Device.withFaults_self hf]
    · exact ⟨d, (hputs.other hij).trans hd, rfl⟩

theorem fixed_of_stuck (h : ReflTransGen (Use pace) lab lab') (hd : lab.device? i = some d)
    (hf : d.faults? = some f) (hs : f.sticky = some s) :
    ∃ d', lab'.device? i = some d' ∧ d'.fixed = d.fixed := by
  induction h with
  | refl => exact ⟨d, hd, rfl⟩
  | tail _ huse ih =>
    obtain ⟨d', hd', hfixed⟩ := ih
    obtain ⟨d'', hd'', hfixed'⟩ :=
      huse.fixed_of_stuck hd' ((Device.faults?_of_fixed hfixed).trans hf) hs
    exact ⟨d'', hd'', hfixed'.trans hfixed⟩

/-! ## The main result -/

theorem exists_depth (pace : Pace) (hd : lab.device? i = some d) :
    ∃ depth, lab.controls pace = controlsTo pace (depth + 1) := by
  obtain ⟨hlt, -⟩ := List.getElem?_eq_some_iff.mp hd
  obtain ⟨depth, hdepth⟩ := Nat.exists_eq_add_one_of_ne_zero (Nat.ne_zero_of_lt hlt)
  exact ⟨depth, by rw [controls, hdepth]⟩

theorem perform_stuck (hd : lab.device? i = some d) (hf : d.faults? = some f)
    (hs : f.sticky = some s) {x : Command α} (hc : d.Consults x.operation) :
    (lab.controls pace).perform i x lab =
      (.error (.driver ⟨d.name, s.fault⟩), lab.called pace d.name x.operation x.value) := by
  obtain ⟨depth, hdepth⟩ := exists_depth pace hd
  have hcheck := Faults.check_of_sticky hs d.name x.operation.name
  have hcalled : (lab.called pace d.name x.operation x.value).device? i = some d := hd
  rw [hdepth, perform_refused hd hf hc hcheck, Device.withFaults_self hf, put_self hcalled]

/-- **Injected failures.** Let `check` of the faults of a motor or a switch fail with `e` for an
operation. If the operation `Consults` the faults, it fails with `e`, and the record of the call and
the faults after the check are all that changes. If a fault sticks then, every operation that
`Consults` the faults, after any `Use` of the laboratory, fails with that fault and changes nothing
but the record of calls. The stop of a switch is `.ok`, and only its call is recorded. -/
theorem injected_failure (pace : Pace) (lab : Lab α) (i : DeviceId) (d : Device α)
    (f f' : Faults α) (x : Command α) (e : DriverError) (hd : lab.device? i = some d)
    (hf : d.faults? = some f)
    (hcheck : Faults.check d.name x.operation.name f = (.error e, f')) :
    let run := (lab.controls pace).perform i x lab
    let called := lab.called pace d.name x.operation x.value
    (d.Consults x.operation →
      run = (.error (.driver e), called.put i (d.withFaults f')) ∧
      ∀ s, f'.sticky = some s → ∀ lab', ReflTransGen (Use pace) run.2 lab' →
        ∀ y : Command α, d.Consults y.operation →
          (lab'.controls pace).perform i y lab' =
            (.error (.driver ⟨d.name, s.fault⟩), lab'.called pace d.name y.operation y.value)) ∧
    (¬ d.Consults x.operation → run = (.ok none, called)) := by
  intro run called
  obtain ⟨depth, hdepth⟩ := exists_depth pace hd
  refine ⟨fun hc => ?_, fun hc => ?_⟩
  · have hrun : run = (.error (.driver e), called.put i (d.withFaults f')) := by
      simp only [run, hdepth]
      exact perform_refused hd hf hc hcheck
    refine ⟨hrun, fun s hs lab' huse y hy => ?_⟩
    rw [hrun] at huse
    have hput : (called.put i (d.withFaults f')).device? i = some (d.withFaults f') :=
      Puts.same rfl (show called.device? i = some d from hd)
    have hfaults := Device.faults?_withFaults hf f'
    obtain ⟨d', hd', hfixed⟩ := fixed_of_stuck huse hput hfaults hs
    have hname : d'.name = d.name := (Device.name_of_fixed hfixed).trans (d.name_withFaults f')
    rw [← hname]
    exact perform_stuck hd' ((Device.faults?_of_fixed hfixed).trans hfaults) hs
      (Device.consults_of_fixed hfixed (Device.consults_withFaults hy f'))
  · simp only [run, hdepth]
    exact perform_unasked hd hc

/-- The connection is lost at the first check. -/
def lossyFaults : Faults Float := .ofScenarios [.communicationLoss]

def lossyGate : Switch Float :=
  { (Switch.make "gate" ["in", "out"] none : Switch Float) with faults := lossyFaults }

def lossyLab : Lab Float := { empty with devices := [.switch lossyGate] }

/-- The read loses the connection, and a start one second later fails with the same error. -/
theorem injected_failure_lossy :
    let k := lossyLab.controls .prompt
    let lost : DeviceError Float := .driver ⟨"gate", .communicationLost⟩
    let lab' := (k.read 0 fresh lossyLab).2.sleep .prompt (ofMs 1000)
    Faults.check "gate" "read" lossyFaults =
        (.error ⟨"gate", .communicationLost⟩,
          { lossyFaults with sticky := some .communicationLost }) ∧
      (k.perform 0 (.read fresh) lossyLab).1 = .error lost ∧
      ((lab'.controls .prompt).perform 0 (.start (.state "out")) lab').1 = .error lost := by
  intro k lost lab'
  have hcheck : Faults.check "gate" "read" lossyFaults = (.error ⟨"gate", .communicationLost⟩,
      { lossyFaults with sticky := some .communicationLost }) := rfl
  obtain ⟨hasks, -⟩ := injected_failure .prompt lossyLab 0 (.switch lossyGate) lossyFaults _
    (.read fresh) _ rfl rfl hcheck
  obtain ⟨hrun, hstuck⟩ := hasks trivial
  have hlater := hstuck .communicationLost rfl lab'
    (.single (.sleep (ofMs 1000))) (.start (.state "out")) trivial
  exact ⟨hcheck, congrArg Prod.fst hrun, congrArg Prod.fst hlater⟩

/-- With the connection lost a wait for the gate fails, and a stop of it does not. -/
theorem lost_connection_stops :
    let k := lossyLab.controls .prompt
    let lab' := (k.read 0 fresh lossyLab).2
    (k.read 0 fresh lossyLab).1 = .error (.driver ⟨"gate", .communicationLost⟩) ∧
      lab'.faultOf 0 = some ⟨"gate", .communicationLost⟩ ∧
      (k.wait 0 lab').1 = .error (.driver ⟨"gate", .communicationLost⟩) ∧
      (k.stop 0 lab').1 = .ok () :=
  ⟨by decide, by decide, by decide, by decide⟩

end Lab
end Beamline
