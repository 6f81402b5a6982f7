import Beamline.Proofs.FanOut

/-!
A stop of a tree of composites whose leaves are motors and switches. `NonStartAction` is anything
that can be done to a laboratory but a start, and `StaysPut j` says that while nothing is started
the device `j` is never busy and always reads the same. Proved here:

* `NonStartAction.nonStartRun_or_placed`: each action is a `NonStartRun`, or places a device by
  hand;
* `rest_kept`, `halted_kept`: so a device that is idle, or `Halted`, stays so;
* `stop_halts`: after a stop that is `.ok ()` a leaf `StaysPut` if and only if it is not a switch
  that is switching, as the stop of a switch does nothing;
* `stopped_gate_departs`: a switch that was stopped goes on to its new state.
-/

namespace Beamline

open Relation

variable {ι σ α : Type}

theorem Controls.NonStartsWithin.perform {k : Controls ι σ α} {S : σ → σ → Prop}
    (h : k.NonStartsWithin S) (d : ι) {x : Command α} (hx : x.operation ≠ .start) :
    Action.Within S (k.perform d x) := by
  cases x with
  | read maxAge => exact (h.read d maxAge).bind fun _ => .pure _
  | start target => exact absurd rfl hx
  | stop => exact (h.stop d).bind fun _ => .pure _
  | wait => exact (h.wait d).bind fun _ => .pure _

variable [Scalar α]

namespace Lab

variable {lab lab' : Lab α} {i j : DeviceId} {d : Device α} {v : Value α} {pace : Pace}
  {depth : Nat}

/-! ## While nothing is started -/

/-- One action that is not a start. `refit` changes the faults of a device in any way, and only
devices of `moved` are placed by hand. -/
inductive NonStartAction (pace : Pace) (moved : DeviceId → Prop) (lab : Lab α) : Lab α → Prop
  | perform (i : DeviceId) (x : Command α) (hx : x.operation ≠ .start) :
      NonStartAction pace moved lab ((lab.controls pace).perform i x lab).2
  | status (i : DeviceId) (maxAge : Nat) :
      NonStartAction pace moved lab ((lab.controls pace).status i maxAge lab).2
  | sleep (span : Nat) : NonStartAction pace moved lab (lab.sleep pace span)
  | lookMotor {β : Type} (i : DeviceId) (look : Motor α → Nat → β) :
      NonStartAction pace moved lab (lab.lookMotor pace i look).2
  | lookSwitch {β : Type} (i : DeviceId) (look : Switch α → Nat → β) :
      NonStartAction pace moved lab (lab.lookSwitch pace i look).2
  | refit {i : DeviceId} {d : Device α} (hd : lab.device? i = some d) (f : Faults α) :
      NonStartAction pace moved lab (lab.put i (d.withFaults f))
  | placeMotor {i : DeviceId} (hi : moved i) (x : α) :
      NonStartAction pace moved lab (lab.adjustMotor i (·.place x))
  | placeSwitch {i : DeviceId} (hi : moved i) (state : Option String) :
      NonStartAction pace moved lab (lab.adjustSwitch i (·.place state))

/-- Without a start `j` is not busy, wherever devices are placed; and its reading is the same value
as long as `j` is not placed. -/
def StaysPut (lab : Lab α) (pace : Pace) (j : DeviceId) : Prop :=
  (∀ lab', ReflTransGen (NonStartAction pace fun _ => True) lab lab' → lab'.Idle j ∧
    ∀ maxAge, ((lab'.controls pace).status j maxAge lab').1.isBusy = false) ∧
  ∃ v, ∀ lab', ReflTransGen (NonStartAction pace (· ≠ j)) lab lab' →
    (∃ d, lab'.device? j = some d ∧ d.valueAt lab'.clock.now = v) ∧
    ∀ maxAge w, ((lab'.controls pace).read j maxAge lab').1 = .ok w → w = v

theorem tick_nonStartRun (pace : Pace) (lab : Lab α) : lab.NonStartRun (lab.tick pace) :=
  .of_devices rfl (le_callTime lab pace)

theorem lookMotor_nonStartRun {β : Type} (pace : Pace) (i : DeviceId) (look : Motor α → Nat → β)
    (lab : Lab α) : lab.NonStartRun (lab.lookMotor pace i look).2 := by
  unfold lookMotor
  dsimp only
  split
  · rename_i m hm
    exact (tick_nonStartRun pace lab).tail (.device hm (.motor (.pass (Nat.le_refl _))))
  · exact tick_nonStartRun pace lab

theorem lookSwitch_nonStartRun {β : Type} (pace : Pace) (i : DeviceId) (look : Switch α → Nat → β)
    (lab : Lab α) : lab.NonStartRun (lab.lookSwitch pace i look).2 := by
  unfold lookSwitch
  dsimp only
  split
  · rename_i s hs
    exact (tick_nonStartRun pace lab).tail (.device hs (.switch (.pass (Nat.le_refl _))))
  · exact tick_nonStartRun pace lab

theorem refit_nonStartRun (hd : lab.device? i = some d) (f : Faults α) :
    lab.NonStartRun (lab.put i (d.withFaults f)) := by
  cases d with
  | motor m => exact .single (.device hd (.motor (.refit f)))
  | switch s => exact .single (.device hd (.switch (.refit f)))
  | standIn d => exact .of_puts_self hd rfl (Nat.le_refl _)
  | composite c => exact .of_puts_self hd rfl (Nat.le_refl _)

theorem NonStartAction.nonStartRun_or_placed {moved : DeviceId → Prop}
    (h : NonStartAction pace moved lab lab') :
    lab.NonStartRun lab' ∨ ∃ i d d', moved i ∧ lab.device? i = some d ∧ lab' = lab.put i d' ∧
      (d.Simulated → d'.Simulated) ∧ ∀ now, d'.busyAt now = false := by
  have hk := controlsTo_nonStartsWithin (α := α) pace lab.devices.length
  cases h with
  | perform i x hx => exact .inl (hk.perform i hx lab)
  | status i maxAge => exact .inl (hk.status i maxAge lab)
  | sleep span => exact .inl (.of_devices rfl (Clock.now_le_pass pace span lab.clock))
  | lookMotor i look => exact .inl (lookMotor_nonStartRun pace i look lab)
  | lookSwitch i look => exact .inl (lookSwitch_nonStartRun pace i look lab)
  | refit hd f => exact .inl (refit_nonStartRun hd f)
  | @placeMotor i hi x =>
    unfold adjustMotor
    split
    · rename_i m hm
      exact .inr ⟨i, _, _, hi, hm, rfl, id, fun _ => rfl⟩
    · exact .inl .refl
  | @placeSwitch i hi state =>
    unfold adjustSwitch
    split
    · rename_i s hs
      exact .inr ⟨i, _, _, hi, hs, rfl, id, fun _ => rfl⟩
    · exact .inl .refl

theorem rest_kept {moved : DeviceId → Prop} (h : ReflTransGen (NonStartAction pace moved) lab lab')
    (hsim : lab.Simulated j) (hidle : lab.Idle j) : lab'.Simulated j ∧ lab'.Idle j := by
  induction h with
  | refl => exact ⟨hsim, hidle⟩
  | @tail mid _ _ hstep ih =>
    obtain ⟨hsim, hidle⟩ := ih
    rcases hstep.nonStartRun_or_placed with h | ⟨i, d, d', -, hd, rfl, hkind, hbusy⟩
    · exact ⟨h.simulated hsim, h.idle hidle⟩
    · have hputs : mid.Puts i d' (mid.put i d') := rfl
      obtain ⟨e, he, hesim⟩ := hsim
      obtain ⟨e', he', hebusy⟩ := hidle
      by_cases hij : j = i
      · subst hij
        obtain rfl : d = e := Option.some.inj (hd.symm.trans he)
        exact ⟨⟨d', hputs.same hd, hkind hesim⟩, d', hputs.same hd, hbusy _⟩
      · exact ⟨⟨e, (hputs.other hij).trans he, hesim⟩, e', (hputs.other hij).trans he', hebusy⟩

theorem halted_kept (h : ReflTransGen (NonStartAction pace (· ≠ j)) lab lab')
    (hv : lab.Halted j v) :
    lab'.Halted j v := by
  induction h with
  | refl => exact hv
  | @tail mid _ _ hstep ih =>
    rcases hstep.nonStartRun_or_placed with h | ⟨i, d, d', hi, -, rfl, -, -⟩
    · exact h.halted ih
    · obtain ⟨e, he, hev⟩ := ih
      have hputs : mid.Puts i d' (mid.put i d') := rfl
      exact ⟨e, (hputs.other hi.symm).trans he, hev⟩

theorem Halted.staysPut (hv : lab.Halted j v) (pace : Pace) : lab.StaysPut pace j := by
  obtain ⟨d, hd, hdv⟩ := hv
  have hrest : lab.Simulated j ∧ lab.Idle j := by
    cases d with
    | motor m =>
      obtain ⟨x, -, hx⟩ := hdv
      refine ⟨⟨_, hd, trivial⟩, _, hd, ?_⟩
      simp only [Device.busyAt, Motor.isMoving, hx.still]
    | switch s =>
      obtain ⟨dest, -, hs⟩ := hdv
      exact ⟨⟨_, hd, trivial⟩, _, hd, hs.idle⟩
    | standIn d => cases hdv
    | composite c => cases hdv
  refine ⟨fun lab' h => ?_, v, fun lab' h => ?_⟩
  · have hkept := rest_kept h hrest.1 hrest.2
    obtain ⟨d', hd', -⟩ := hkept.2
    obtain ⟨n, hcontrols⟩ := exists_depth pace hd'
    rw [hcontrols]
    exact ⟨hkept.2, fun maxAge => status_simulated pace n maxAge hkept.1 hkept.2⟩
  · obtain ⟨d', hd', hdv'⟩ := halted_kept h ⟨d, hd, hdv⟩
    obtain ⟨n, hcontrols⟩ := exists_depth pace hd'
    rw [hcontrols]
    exact ⟨⟨d', hd', hdv'.valueAt⟩, fun maxAge w hw => Halted.read_ok ⟨d', hd', hdv'⟩ hw⟩

/-! ## Stopping -/

theorem stop_motor_halted {m : Motor α} (hd : lab.device? i = some (.motor m))
    (h : ((controlsTo pace (depth + 1)).stop i lab).1 = .ok ()) :
    ((controlsTo pace (depth + 1)).stop i lab).2.Halted i
      (.scalar (m.positionAt (lab.callTime pace))) := by
  obtain ⟨lab', hrun, hputs⟩ := stop_motor pace depth hd
  rw [hrun] at h ⊢
  obtain ⟨at?, hstop, -⟩ := except_map_eq_ok.mp h
  exact ⟨_, hputs.same hd, _, rfl, Motor.stop_halted hstop⟩

theorem switch_halted {s : Switch α} (hd : lab.device? i = some (.switch s))
    (h : s.isSwitching lab.clock.now = false) :
    lab.Halted i (.state (s.destination.getD undefinedState)) :=
  ⟨_, hd, _, rfl, h, rfl⟩

/-- **Stopping.** Let the leaves of a tree be motors and switches, and let a stop of the tree be
`.ok ()`. Then a leaf `StaysPut` if and only if it is not a switch that is switching. So every motor
does. -/
theorem stop_halts (lab : Lab α) (pace : Pace) (i : DeviceId) (ht : lab.Tree i)
    (hsim : ∀ j ∈ lab.leaves i, lab.Simulated j) :
    let run := (lab.controls pace).stop i lab
    run.1 = .ok () → ∀ j ∈ lab.leaves i, (run.2.StaysPut pace j ↔
      ∀ s, run.2.device? j = some (.switch s) → s.isSwitching run.2.clock.now = false) := by
  intro run hok j hj
  obtain ⟨d, hd⟩ := ht.device?
  obtain ⟨n, hcontrols⟩ := exists_depth pace hd
  obtain ⟨vs, hcourse, hdevices, hrun⟩ := sweep_visits_leaves pace .stop ht
  rw [hcontrols] at hcourse
  constructor
  · intro h s hs
    obtain ⟨⟨e, he, hbusy⟩, -⟩ := h.1 run.2 .refl
    obtain rfl : Device.switch s = e := Option.some.inj (hs.symm.trans he)
    exact hbusy
  · intro h
    obtain ⟨e, he, hesim⟩ := hsim j hj
    cases e with
    | motor m =>
      obtain ⟨v, hv, rfl⟩ := List.mem_map.mp (hdevices.symm ▸ hj)
      obtain ⟨hbefore, hmade, hafter⟩ := visit_of_course hcourse hv
      have hstopped : v.result = .ok () := Visit.outcome_ok_iff.mp (hrun.symm.trans hok) v hv
      obtain ⟨m', hm'⟩ := hbefore.motor he
      -- the stop of this motor took effect, and nothing was started since
      have hsince : v.after.NonStartRun run.2 := by
        rw [← hcontrols] at hafter
        exact hafter
      rw [hmade] at hstopped hsince
      exact (hsince.halted (stop_motor_halted hm' hstopped)).staysPut pace
    | switch s =>
      have hnonStart : lab.NonStartRun run.2 := (controlsTo_nonStartsWithin pace _).stop i lab
      obtain ⟨s', hs'⟩ := hnonStart.switch he
      exact (switch_halted hs' (h s' hs')).staysPut pace
    | standIn d => cases hesim
    | composite c => cases hesim

/-- The motor 1 stays put, and the switch 0, which is switching, does not. -/
theorem stop_halts_shared :
    let run := (shared.controls .prompt).stop 6 shared
    shared.Tree 6 ∧ (∀ j ∈ shared.leaves 6, shared.Simulated j) ∧ run.1 = .ok () ∧
      run.2.StaysPut .prompt 1 ∧ ¬ run.2.StaysPut .prompt 0 := by
  intro run
  have hok : run.1 = .ok () := by decide
  have hleaf := stop_halts shared .prompt 6 shared_tree shared_simulated hok
  rw [shared_leaves] at hleaf
  have hnonStart : shared.NonStartRun run.2 := (controlsTo_nonStartsWithin _ _).stop 6 shared
  refine ⟨shared_tree, shared_simulated, hok, (hleaf 1 (by decide)).mpr ?_, fun hgate => ?_⟩
  · intro s hs
    obtain ⟨m, hm⟩ := hnonStart.motor (j := 1) rfl
    rw [hm] at hs
    cases hs
  · obtain ⟨s, hs⟩ := hnonStart.switch (j := 0) rfl
    have hbusy : (run.2.device? 0).map (·.busyAt run.2.clock.now) = some true := by
      decide
    rw [hs] at hbusy
    have hidle := (hleaf 0 (by decide)).mp hgate s hs
    exact absurd (Option.some.inj hbusy) (Bool.eq_false_iff.mp hidle)

/-- A gate whose change to `out` has just begun. -/
def departed : Lab Float :=
  { empty with devices := [.switch { Switch.make "gate" ["in", "out"] none with
      pacing := .realistic, current := none, pending := some ("out", ofMs 200) }] }

/-- The stop is `.ok ()`, and after it the gate is busy, and reads `out` 200 ms later. -/
theorem stopped_gate_departs :
    let k := departed.controls .prompt
    let lab := (k.stop 0 departed).2
    let later := lab.sleep .prompt (ofMs 200)
    (k.stop 0 departed).1 = .ok () ∧ (k.status 0 fresh lab).1 = ⟨.busy, "switching"⟩ ∧
      (k.read 0 fresh lab).1 = .ok (.state undefinedState) ∧
      (k.read 0 fresh later).1 = .ok (.state "out") ∧ ¬ lab.StaysPut .prompt 0 := by
  intro k lab later
  have hbusy : (k.status 0 fresh lab).1 = ⟨.busy, "switching"⟩ := by decide
  refine ⟨by decide, hbusy, by decide, by decide, fun h => ?_⟩
  obtain ⟨-, hnotBusy⟩ := h.1 lab .refl
  have hstatus : (k.status 0 fresh lab).1.isBusy = false := hnotBusy fresh
  rw [hbusy] at hstatus
  cases hstatus

end Lab
end Beamline
