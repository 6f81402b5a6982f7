import Beamline.Proofs.Settling

/-!
The devices of a composite after its `start` has succeeded. `WillRead i v` says that the device `i`
is a motor or a switch without faults that reads `v` once nothing is under way. Proved here:

* `start_motor_willRead`, `start_switch_willRead`: a start that succeeds for one device;
* `startAxes_willRead`, `activate_willRead`, `checkInterlock_willRead`: the stages of a move;
* `dispatch_willRead`: after a move every axis `WillRead` its setpoint and the gate its active
  state.

Each lemma also says which devices are unchanged (`ChangesOnly`).
-/

namespace Beamline

variable {α : Type} [Scalar α]

namespace Lab

variable {lab lab' : Lab α} {i j : DeviceId} {v : Value α} {pace : Pace} {depth : Nat}

/-- The device `i` has no faults, and reads `v` once nothing is under way. -/
def WillRead (lab : Lab α) (i : DeviceId) (v : Value α) : Prop :=
  ∃ d, lab.device? i = some d ∧ d.Quiet ∧ d.WillRead v

theorem WillRead.congr (h : lab'.device? i = lab.device? i) (hv : lab.WillRead i v) :
    lab'.WillRead i v := by
  obtain ⟨d, hd, hquiet, hwill⟩ := hv
  exact ⟨d, h.trans hd, hquiet, hwill⟩

/-- The device `i` is a motor without faults. -/
def HasMotor (lab : Lab α) (i : DeviceId) : Prop :=
  ∃ m, lab.device? i = some (.motor m) ∧ m.faults.Quiet

def HasSwitch (lab : Lab α) (i : DeviceId) : Prop :=
  ∃ s, lab.device? i = some (.switch s) ∧ s.faults.Quiet

theorem HasMotor.congr (h : lab'.device? i = lab.device? i) (hm : lab.HasMotor i) :
    lab'.HasMotor i := by
  obtain ⟨m, hd, hquiet⟩ := hm
  exact ⟨m, h.trans hd, hquiet⟩

theorem HasSwitch.congr (h : lab'.device? i = lab.device? i) (hs : lab.HasSwitch i) :
    lab'.HasSwitch i := by
  obtain ⟨s, hd, hquiet⟩ := hs
  exact ⟨s, h.trans hd, hquiet⟩

/-- All devices but `i` are the same in `lab'`. -/
def ChangesOnly (lab : Lab α) (i : DeviceId) (lab' : Lab α) : Prop :=
  ∀ j ≠ i, lab'.device? j = lab.device? j

/-! ## One device -/

theorem start_motor_willRead (hm : lab.HasMotor i) {x : α}
    (h : (controlsTo pace (depth + 1)).start i (.scalar x) lab = (.ok (), lab')) :
    lab'.WillRead i (.scalar x) ∧ Scalar.isFinite x = true ∧ lab.ChangesOnly i lab' := by
  obtain ⟨m, hd, hquiet⟩ := hm
  obtain ⟨lab₁, hrun, hputs⟩ := start_motor pace depth hd (.scalar x)
  obtain ⟨hr, rfl⟩ := Prod.mk.inj (h.symm.trans hrun)
  obtain ⟨origin, hok, -⟩ := except_map_eq_ok.mp hr.symm
  obtain ⟨hx, hcache, hfinite⟩ := Motor.start_ok hquiet hok
  refine ⟨⟨_, hputs.same hd, ?_, hx, ?_⟩, hfinite, fun j hj => hputs.other hj⟩
  · have hfixed := Motor.fixed_start hquiet (lab.callTime pace) (.scalar x)
    change Faults.Quiet (Motor.start _ _ m).2.faults
    rw [Motor.faults_of_fixed hfixed]
    exact hquiet
  · intro y stamp hy
    rw [hcache] at hy
    cases hy

theorem start_switch_willRead (hs : lab.HasSwitch i) {name : String}
    (h : (controlsTo pace (depth + 1)).start i (.state name) lab = (.ok (), lab')) :
    lab'.WillRead i (.state name) ∧ lab.ChangesOnly i lab' := by
  obtain ⟨s, hd, hquiet⟩ := hs
  obtain ⟨lab₁, hrun, hputs⟩ := start_switch pace depth hd (.state name)
  obtain ⟨hr, rfl⟩ := Prod.mk.inj (h.symm.trans hrun)
  obtain ⟨answer, hok, -⟩ := except_map_eq_ok.mp hr.symm
  have hname := Switch.start_ok hquiet hok
  refine ⟨⟨_, hputs.same hd, ?_, hname⟩, fun j hj => hputs.other hj⟩
  change Faults.Quiet (Switch.start _ _ s).2.faults
  rw [Switch.faults_of_fixed (Switch.fixed_start hquiet (lab.callTime pace) (.state name))]
  exact hquiet

theorem read_switch_willRead (pace : Pace) (depth : Nat) (hs : lab.HasSwitch i) (maxAge : Nat) :
    lab.ChangesOnly i ((controlsTo pace (depth + 1)).read i maxAge lab).2 ∧
      HasSwitch ((controlsTo pace (depth + 1)).read i maxAge lab).2 i ∧
      ∀ name ≠ undefinedState,
        ((controlsTo pace (depth + 1)).read i maxAge lab).1 = .ok (.state name) →
        WillRead ((controlsTo pace (depth + 1)).read i maxAge lab).2 i (.state name) := by
  obtain ⟨s, hd, hquiet⟩ := hs
  obtain ⟨lab₁, hrun, hputs⟩ := read_switch pace depth hd maxAge
  rw [Switch.read_of_quiet hquiet] at hrun hputs
  have hquiet' : (s.advance (lab.callTime pace)).faults.Quiet := by
    rw [Switch.faults_advance]
    exact hquiet
  rw [hrun]
  refine ⟨fun j hj => hputs.other hj, ⟨_, hputs.same hd, hquiet'⟩, fun name hname hread => ?_⟩
  have hreading := Value.state.inj (Except.ok.inj hread)
  exact ⟨_, hputs.same hd, hquiet', Switch.destination_of_reading hreading hname⟩

/-! ## The stages of a move -/

variable {c : Composite DeviceId α}

theorem startAxes_willRead {axes : List (Axis DeviceId)} {sps : List (Setpoint α)}
    (hlen : axes.length = sps.length) (hnodup : (axes.map (·.device)).Nodup)
    (hmotors : ∀ a ∈ axes, lab.HasMotor a.device)
    (h : c.startAxes (controlsTo pace (depth + 1)) axes sps lab = (.ok (), lab')) :
    List.Forall₂ (fun a sp => lab'.WillRead a.device (.scalar sp.value) ∧
      Scalar.isFinite sp.value = true) axes sps ∧
      ∀ j ∉ axes.map (·.device), lab'.device? j = lab.device? j := by
  induction axes generalizing sps lab with
  | nil =>
    obtain rfl : sps = [] := List.length_eq_zero_iff.mp hlen.symm
    cases h
    exact ⟨.nil, fun _ _ => rfl⟩
  | cons a axes ih =>
    cases sps with
    | nil => simp at hlen
    | cons sp sps =>
      obtain ⟨e, lab₂, hstart, hrest⟩ := Composite.startAxes_cons_ok h
      rw [controlsTo_note] at hstart
      obtain ⟨ha, hnodup⟩ := List.nodup_cons.mp hnodup
      have hm : (lab.noted e).HasMotor a.device := hmotors a List.mem_cons_self
      obtain ⟨hwill, hfinite, hother⟩ := start_motor_willRead hm hstart
      have hne : ∀ b ∈ axes, b.device ≠ a.device := fun b hb hba =>
        ha (List.mem_map.mpr ⟨b, hb, hba⟩)
      have hmotors' : ∀ b ∈ axes, lab₂.HasMotor b.device := fun b hb =>
        (hmotors b (List.mem_cons_of_mem a hb)).congr (hother _ (hne b hb))
      obtain ⟨hall, hsame⟩ := ih (by simpa using hlen) hnodup hmotors' hrest
      refine ⟨.cons ⟨hwill.congr (hsame _ ha), hfinite⟩ hall, fun j hj => ?_⟩
      rw [List.map_cons, List.mem_cons, not_or] at hj
      exact (hsame j hj.2).trans (hother j hj.1)

theorem activate_willRead {g : Gate DeviceId} (hs : lab.HasSwitch g.device)
    (hactive : g.active ≠ undefinedState)
    (h : c.activate (controlsTo pace (depth + 1)) g lab = (.ok (), lab')) :
    lab'.WillRead g.device (.state g.active) ∧ lab.ChangesOnly g.device lab' := by
  obtain ⟨hother, hs', hread⟩ := read_switch_willRead pace depth hs fresh
  obtain ⟨e, ⟨hr, hrun⟩ | ⟨-, hrun⟩⟩ :=
    Composite.activate_cases c (controlsTo pace (depth + 1)) g lab
  · rw [controlsTo_note] at hrun
    obtain ⟨-, rfl⟩ := Prod.mk.inj (h.symm.trans hrun)
    exact ⟨hread g.active hactive hr, hother⟩
  · rw [controlsTo_note] at hrun
    have hs'' : HasSwitch (noted e ((controlsTo pace (depth + 1)).read g.device fresh lab).2)
      g.device := hs'
    obtain ⟨hwill, hother'⟩ := start_switch_willRead hs'' (hrun.symm.trans h)
    exact ⟨hwill, fun j hj => (hother' j hj).trans (hother j hj)⟩

theorem checkInterlock_willRead (hs : ∀ l ∈ c.interlock, lab.HasSwitch l.device)
    (hrequired : ∀ l ∈ c.interlock, l.required ≠ undefinedState)
    (h : c.checkInterlock (controlsTo pace (depth + 1)) fresh lab = (.ok (), lab')) :
    (∀ l ∈ c.interlock, lab'.WillRead l.device (.state l.required)) ∧
      ∀ j, (∀ l ∈ c.interlock, j ≠ l.device) → lab'.device? j = lab.device? j := by
  unfold Composite.checkInterlock at h
  cases hl : c.interlock with
  | none =>
    rw [hl] at h
    cases h
    exact ⟨by simp, fun _ _ => rfl⟩
  | some l =>
    rw [hl] at h
    obtain ⟨v, lab₁, hread, h⟩ := Action.bind_eq_ok.mp h
    obtain ⟨hother, -, hwill⟩ :=
      read_switch_willRead pace depth (hs l hl) fresh
    rw [hread] at hother hwill
    split at h
    · rename_i hv
      cases h
      rw [Value.isState_iff.mp hv] at hwill
      refine ⟨fun l' hl' => ?_, fun j hj => hother j (hj l rfl)⟩
      cases hl'
      exact hwill l.required (hrequired l hl) rfl
    · obtain ⟨_, _, hlook, h⟩ := Action.bind_eq_ok.mp h
      cases h

/-! ## The whole move -/

/-- Gate and interlock are switches and the axes are motors, without faults and all distinct, and
`undefinedState` is none of the states that the composite asks for. -/
structure Mounted (lab : Lab α) (c : Composite DeviceId α) : Prop where
  gate : ∀ g ∈ c.gate, lab.HasSwitch g.device ∧ g.active ≠ undefinedState
  interlock : ∀ l ∈ c.interlock, lab.HasSwitch l.device ∧ l.required ≠ undefinedState
  axes : ∀ a ∈ c.axes, lab.HasMotor a.device
  distinct : c.attached.Nodup

theorem dispatch_willRead (hm : lab.Mounted c) {p : Plan α} {x : α} (ht : p.target = .scalar x)
    (hlen : c.axes.length = p.setpoints.length)
    (h : c.dispatch (controlsTo pace (depth + 1)) p lab = (.ok (), lab')) :
    (∀ g ∈ c.gate, lab'.WillRead g.device (.state g.active)) ∧
      (∀ l ∈ c.interlock, lab'.WillRead l.device (.state l.required)) ∧
      List.Forall₂ (fun a sp => lab'.WillRead a.device (.scalar sp.value) ∧
        Scalar.isFinite sp.value = true) c.axes p.setpoints ∧
      ∀ j ∉ c.attached, lab'.device? j = lab.device? j := by
  obtain ⟨hgl, hga, hla, hnodup⟩ := Composite.distinct_of_nodup hm.distinct
  obtain ⟨lab₁, lab₂, hlock, hgate, haxes⟩ := Composite.dispatch_scalar_ok ht h
  obtain ⟨hlocked, hsame₁⟩ := checkInterlock_willRead (fun l hl => (hm.interlock l hl).1)
    (fun l hl => (hm.interlock l hl).2) hlock
  have hgate' : (∀ g ∈ c.gate, lab₂.WillRead g.device (.state g.active)) ∧
      ∀ j, (∀ g ∈ c.gate, j ≠ g.device) → lab₂.device? j = lab₁.device? j := by
    rcases hgate with ⟨hg, rfl⟩ | ⟨g, hg, hactive⟩
    · exact ⟨by simp [hg], fun _ _ => rfl⟩
    · have hs : lab₁.HasSwitch g.device :=
        (hm.gate g hg).1.congr (hsame₁ _ fun l hl => hgl g hg l hl)
      obtain ⟨hwill, hother⟩ := activate_willRead hs (hm.gate g hg).2 hactive
      refine ⟨fun g' hg' => ?_, fun j hj => hother j (hj g hg)⟩
      obtain rfl : g = g' := by simpa [hg] using hg'
      exact hwill
  obtain ⟨hactive, hsame₂⟩ := hgate'
  have hmotors : ∀ a ∈ c.axes, lab₂.HasMotor a.device := by
    intro a ha
    have hmem : a.device ∈ c.axes.map (·.device) := List.mem_map_of_mem ha
    have h₁ := hsame₁ a.device fun l hl hal => hla l hl (hal ▸ hmem)
    have h₂ := hsame₂ a.device fun g hg hag => hga g hg (hag ▸ hmem)
    exact (hm.axes a ha).congr (h₂.trans h₁)
  obtain ⟨hall, hsame₃⟩ := startAxes_willRead hlen hnodup hmotors haxes
  refine ⟨fun g hg => (hactive g hg).congr (hsame₃ _ (hga g hg)), fun l hl => ?_, hall, ?_⟩
  · have h₂ := hsame₂ l.device fun g hg hlg => hgl g hg l hl hlg.symm
    exact ((hlocked l hl).congr h₂).congr (hsame₃ _ (hla l hl))
  · intro j hj
    have h₁ := hsame₁ j fun l hl hjl => hj (hjl ▸ c.interlock_mem_attached hl)
    have h₂ := hsame₂ j fun g hg hjg => hj (hjg ▸ c.gate_mem_attached hg)
    have h₃ := hsame₃ j fun hmem => hj (List.mem_append_right _ hmem)
    exact h₃.trans (h₂.trans h₁)

end Lab
end Beamline
