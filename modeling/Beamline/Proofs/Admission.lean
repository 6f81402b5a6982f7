import Beamline.Proofs.Dispatch
import Beamline.Proofs.Operating

/-!
`isAllowed` and `start` of a tree of instant motors and of switches, without faults, with composites
in master mode without interlocks (`Prompt`). Proved here:

* `start_refused`: a start that is not allowed fails with the error of `isAllowed`;
* `start_accepted`: a start that is allowed is `.ok ()`, if the target is not `.null`, by induction
  on the tree;
* `start_null_ok_iff`: a start for `.null` is `.ok ()` if and only if the gate has the parked state;
* `isAllowed_iff_start` puts these together;
* `isAllowed_start_unparkable`: `.null` can be allowed where the start for it fails.
-/

namespace Beamline

variable {ι σ α : Type} [Scalar α]

/-! ## A composite over devices that start what they allow -/

namespace Composite

variable {c : Composite ι α} {k : Controls ι σ α} {Holds : σ → Prop} {s₀ : σ}

/-- `Holds` are the worlds in which everything that was allowed in `s₀` is started with success. -/
theorem startAxes_ok (hnote : ∀ e s, Holds s → Holds (k.note e s)) {axes : List (Axis ι)}
    (hstart : ∀ a ∈ axes, ∀ x, k.isAllowed s₀ a.device (.scalar x) = .ok () → ∀ s, Holds s →
      ∃ s', k.start a.device (.scalar x) s = (.ok (), s') ∧ Holds s')
    {values : List α} {sps : List (Setpoint α)} (hplan : planAxes k s₀ axes values = .ok sps)
    {s : σ} (hs : Holds s) : ∃ s', c.startAxes k axes sps s = (.ok (), s') ∧ Holds s' := by
  induction axes generalizing values sps s with
  | nil =>
    cases hplan
    exact ⟨s, rfl, hs⟩
  | cons a axes ih =>
    cases values with
    | nil =>
      cases hplan
      exact ⟨s, rfl, hs⟩
    | cons x xs =>
      unfold planAxes at hplan
      split at hplan
      · cases hplan
      · rename_i u hallowed
        obtain ⟨rest, hrest, rfl⟩ := except_map_eq_ok.mp hplan
        let e : Event := ⟨.debug, some c.name,
          "sending " ++ k.name s₀ a.device ++ " to " ++ k.format s a.device (.scalar x)⟩
        obtain ⟨s', hstarted, hs'⟩ :=
          hstart a List.mem_cons_self x hallowed (k.note e s) (hnote e s hs)
        obtain ⟨s'', hgo, hs''⟩ :=
          ih (fun b hb => hstart b (List.mem_cons_of_mem a hb)) hrest hs'
        refine ⟨s'', ?_, hs''⟩
        unfold startAxes
        rw [Action.bind_ok _ (rfl : Action.look s = (.ok s, s)),
          Action.bind_ok _ (rfl : k.say .debug c.name _ s = (.ok (), k.note e s)),
          Action.bind_ok _ hstarted]
        exact hgo

theorem activate_ok (hnote : ∀ e s, Holds s → Holds (k.note e s)) {g : Gate ι}
    (hread : ∀ s, Holds s → Holds (k.read g.device fresh s).2)
    (hstart : ∀ s, Holds s →
      ∃ s', k.start g.device (.state g.active) s = (.ok (), s') ∧ Holds s')
    {s : σ} (hs : Holds s) : ∃ s', c.activate k g s = (.ok (), s') ∧ Holds s' := by
  obtain ⟨e, ⟨-, hrun⟩ | ⟨-, hrun⟩⟩ := activate_cases c k g s
  · exact ⟨_, hrun, hnote e _ (hread s hs)⟩
  · rw [hrun]
    exact hstart _ (hnote e _ (hread s hs))

theorem dispatch_ok (hnote : ∀ e s, Holds s → Holds (k.note e s)) (hlock : c.interlock = none)
    (hgate : ∀ g ∈ c.gate, k.isAllowed s₀ g.device (.state g.active) = .ok () →
      (∀ s, Holds s → Holds (k.read g.device fresh s).2) ∧
      ∀ s, Holds s → ∃ s', k.start g.device (.state g.active) s = (.ok (), s') ∧ Holds s')
    (haxes : ∀ a ∈ c.axes, ∀ x, k.isAllowed s₀ a.device (.scalar x) = .ok () → ∀ s, Holds s →
      ∃ s', k.start a.device (.scalar x) s = (.ok (), s') ∧ Holds s')
    {x : α} {p : Plan α} (hplan : c.plan k s₀ (.scalar x) = .ok p) {s : σ} (hs : Holds s) :
    ∃ s', c.dispatch k p s = (.ok (), s') ∧ Holds s' := by
  obtain ⟨values, -, -, hsps, hg, ht⟩ := plan_scalar_ok hplan
  unfold dispatch checkInterlock
  rw [ht, hlock]
  cases hc : c.gate with
  | none => exact startAxes_ok hnote haxes hsps hs
  | some g =>
    rw [hc] at hg
    obtain ⟨u, hallowed, -⟩ := except_map_eq_ok.mp hg
    obtain ⟨hread, hstart⟩ := hgate g hc hallowed
    obtain ⟨s', hactive, hs'⟩ := activate_ok (c := c) hnote hread hstart hs
    obtain ⟨s'', hgo, hs''⟩ := startAxes_ok (c := c) hnote haxes hsps hs'
    exact ⟨s'', (Action.bind_ok _ hactive).trans hgo, hs''⟩

end Composite

namespace Lab

variable {lab lab' : Lab α} {i j : DeviceId} {pace : Pace} {depth : Nat} {target : Value α}

/-! ## What is allowed does not change -/

theorem isAllowed_congr (h : lab'.fixed = lab.fixed) (pace : Pace) (depth : Nat) :
    (controlsTo pace depth).isAllowed lab' = (controlsTo pace depth).isAllowed lab := by
  induction depth with
  | zero => rfl
  | succ depth ih =>
    funext i target
    cases hd : lab.device? i with
    | none =>
      have hi := fixed_device? h i
      rw [hd, Option.map_none, Option.map_eq_none_iff] at hi
      simp only [controlsTo, hd, hi]
    | some d =>
      obtain ⟨d', hd', hfixed⟩ := device?_of_fixed h hd
      cases d with
      | motor m =>
        obtain ⟨m', rfl, hm⟩ := Device.fixed_eq_motor hfixed
        simp only [controlsTo, hd, hd', Motor.isAllowed_congr hm]
      | switch s =>
        obtain ⟨s', rfl, hs⟩ := Device.fixed_eq_switch hfixed
        simp only [controlsTo, hd, hd', Switch.isAllowed_congr hs]
      | standIn d =>
        cases d' with
        | standIn d' =>
          obtain rfl : d' = d := Device.standIn.inj hfixed
          simp only [controlsTo, hd, hd']
        | motor m => cases hfixed
        | switch s => cases hfixed
        | composite c => cases hfixed
      | composite c =>
        obtain rfl := Device.fixed_eq_composite hfixed
        have hname : (controlsTo pace depth).name lab' = (controlsTo pace depth).name lab := by
          rw [controlsTo_name]
          exact funext (nameOf_congr h)
        have hplan := Composite.plan_congr hname ih c target
        simp only [controlsTo, hd, hd', Composite.isAllowed, hplan]

/-! ## Trees -/

/-- A tree of instant motors, switches and composites in master mode without interlocks, all without
faults, with every composite declared after the devices attached to it. -/
inductive Prompt (lab : Lab α) : DeviceId → Prop
  | motor {i : DeviceId} {m : Motor α} (h : lab.device? i = some (.motor m))
      (hpacing : m.pacing = .instant) (hquiet : m.faults.Quiet) : Prompt lab i
  | switch {i : DeviceId} {s : Switch α} (h : lab.device? i = some (.switch s))
      (hquiet : s.faults.Quiet) : Prompt lab i
  | composite {i : DeviceId} {c : Composite DeviceId α}
      (h : lab.device? i = some (.composite c)) (hmode : c.mode = .master)
      (hlock : c.interlock = none) (hbehind : ∀ j ∈ c.attached, j < i)
      (hattached : ∀ j ∈ c.attached, Prompt lab j) : Prompt lab i

theorem Prompt.congr (h : lab'.fixed = lab.fixed) (hp : lab.Prompt i) : lab'.Prompt i := by
  induction hp with
  | motor hd hpacing hquiet =>
    obtain ⟨d', hd', hfixed⟩ := device?_of_fixed h hd
    obtain ⟨m', rfl, hm⟩ := Device.fixed_eq_motor hfixed
    exact .motor hd' ((Motor.pacing_of_fixed hm).trans hpacing)
      ((Motor.faults_of_fixed hm).symm ▸ hquiet)
  | switch hd hquiet =>
    obtain ⟨d', hd', hfixed⟩ := device?_of_fixed h hd
    obtain ⟨s', rfl, hs⟩ := Device.fixed_eq_switch hfixed
    exact .switch hd' ((Switch.faults_of_fixed hs).symm ▸ hquiet)
  | composite hd hmode hlock hbehind _ ih =>
    obtain ⟨d', hd', hfixed⟩ := device?_of_fixed h hd
    obtain rfl := Device.fixed_eq_composite hfixed
    exact .composite hd' hmode hlock hbehind ih

theorem Prompt.allows_state (hp : lab.Prompt j) {name : String}
    (h : (controlsTo pace (depth + 1)).isAllowed lab j (.state name) = .ok ()) :
    ∃ s, lab.device? j = some (.switch s) ∧ s.faults.Quiet ∧ name ∈ s.states := by
  cases hp with
  | @motor _ m hd _ _ =>
    simp only [controlsTo, hd] at h
    cases h
  | @switch _ s hd hquiet =>
    simp only [controlsTo, hd] at h
    exact ⟨s, hd, hquiet, Switch.isAllowed_state.mp h⟩
  | @composite _ c hd _ _ _ _ =>
    simp only [controlsTo, hd, Composite.isAllowed, Composite.plan_state] at h
    cases h

/-- Reading the device leaves `fixed`, and so all that is allowed. -/
theorem Prompt.read_fixed (hp : lab.Prompt j) {name : String}
    (h : (controlsTo pace (depth + 1)).isAllowed lab j (.state name) = .ok ())
    (hsame : lab'.fixed = lab.fixed) (maxAge : Nat) :
    ((controlsTo pace (depth + 1)).read j maxAge lab').2.fixed = lab.fixed := by
  obtain ⟨s, hs, hquiet, -⟩ := hp.allows_state h
  obtain ⟨d', hd', hfixed⟩ := device?_of_fixed hsame hs
  obtain ⟨s', rfl, hs'⟩ := Device.fixed_eq_switch hfixed
  have hquiet' : s'.faults.Quiet := (Switch.faults_of_fixed hs').symm ▸ hquiet
  exact (read_switch_fixed hd' hquiet' maxAge).trans hsame

/-! ## What is refused and what is accepted -/

theorem start_refused (hp : lab.Prompt i) {e : DeviceError α}
    (h : (controlsTo pace (depth + 1)).isAllowed lab i target = .error e) :
    ((controlsTo pace (depth + 1)).start i target lab).1 = .error e ∧
      ∀ c, lab.device? i = some (.composite c) →
        ((controlsTo pace (depth + 1)).start i target lab).2 = lab := by
  cases hp with
  | @motor _ m hd _ hquiet =>
    simp only [controlsTo, hd] at h
    obtain ⟨lab', hrun, -⟩ := start_motor pace depth hd target
    rw [hrun, Motor.start_of_quiet hquiet, except_map_eq_error.mp h]
    refine ⟨rfl, fun c hc => ?_⟩
    rw [hd] at hc
    cases hc
  | @switch _ s hd hquiet =>
    simp only [controlsTo, hd] at h
    obtain ⟨lab', hrun, -⟩ := start_switch pace depth hd target
    rw [hrun, Switch.start_of_quiet hquiet, h]
    refine ⟨rfl, fun c hc => ?_⟩
    rw [hd] at hc
    cases hc
  | @composite _ c hd _ _ _ _ =>
    simp only [controlsTo, hd] at h
    have hplan := except_map_eq_error.mp h
    rw [start_composite hd, Composite.moveTo_of_plan_error hplan]
    exact ⟨rfl, fun _ _ => rfl⟩

/-- The start leaves `fixed`, and so all that is allowed. -/
theorem start_accepted (hp : lab.Prompt i) (hdepth : i < depth) (hnull : target ≠ .null)
    (h : (controlsTo pace depth).isAllowed lab i target = .ok ()) :
    ∃ lab', (controlsTo pace depth).start i target lab = (.ok (), lab') ∧
      lab'.fixed = lab.fixed := by
  induction depth generalizing lab i target with
  | zero => exact absurd hdepth (Nat.not_lt_zero i)
  | succ depth ih =>
    cases hp with
    | @motor _ m hd hpacing hquiet =>
      simp only [controlsTo, hd] at h
      obtain ⟨x, hx, -⟩ := except_map_eq_ok.mp h
      obtain ⟨lab', hrun, hputs⟩ := start_motor pace depth hd target
      refine ⟨lab', ?_, hputs.fixed hd (congrArg Device.motor (Motor.fixed_start hquiet _ target))⟩
      rw [hrun, Motor.start_of_quiet hquiet, hx]
      simp only [Motor.depart_instant hpacing]
      rfl
    | @switch _ s hd hquiet =>
      simp only [controlsTo, hd] at h
      obtain ⟨lab', hrun, hputs⟩ := start_switch pace depth hd target
      refine ⟨lab', ?_,
        hputs.fixed hd (congrArg Device.switch (Switch.fixed_start hquiet _ target))⟩
      rw [hrun, Switch.start_of_quiet hquiet, h]
      rfl
    | @composite _ c hd hmode hlock hbehind hattached =>
      simp only [controlsTo, hd] at h
      obtain ⟨p, hplan, -⟩ := except_map_eq_ok.mp h
      have hbelow : ∀ j ∈ c.attached, j < depth := fun j hj =>
        Nat.lt_of_lt_of_le (hbehind j hj) (Nat.lt_succ_iff.mp hdepth)
      -- whatever was done so far, the attached devices allow what they allowed and still start it
      have hstart : ∀ j ∈ c.attached, ∀ v, v ≠ .null →
          (controlsTo pace depth).isAllowed lab j v = .ok () → ∀ s : Lab α, s.fixed = lab.fixed →
          ∃ s', (controlsTo pace depth).start j v s = (.ok (), s') ∧ s'.fixed = lab.fixed := by
        intro j hj v hv hallowed s hs
        rw [← isAllowed_congr hs] at hallowed
        obtain ⟨s', hrun, hs'⟩ := ih ((hattached j hj).congr hs) (hbelow j hj) hv hallowed
        exact ⟨s', hrun, hs'.trans hs⟩
      cases target with
      | null => exact absurd rfl hnull
      | state name =>
        rw [Composite.plan_state] at hplan
        cases hplan
      | scalar x =>
        have hnote : ∀ e (s : Lab α), s.fixed = lab.fixed →
            ((controlsTo pace depth).note e s).fixed = lab.fixed := by
          rw [controlsTo_note]
          exact fun _ _ hs => hs
        have hgate : ∀ g ∈ c.gate,
            (controlsTo pace depth).isAllowed lab g.device (.state g.active) = .ok () →
            ∀ s : Lab α, s.fixed = lab.fixed →
              ((controlsTo pace depth).read g.device fresh s).2.fixed = lab.fixed := by
          intro g hg hallowed s hs
          have hmem := c.gate_mem_attached hg
          cases depth with
          | zero => exact absurd (hbelow _ hmem) (Nat.not_lt_zero _)
          | succ depth => exact (hattached _ hmem).read_fixed hallowed hs fresh
        obtain ⟨lab', hrun, hsame⟩ := Composite.dispatch_ok (c := c) hnote hlock
          (fun g hg hallowed => ⟨hgate g hg hallowed,
            hstart _ (c.gate_mem_attached hg) _ (by simp) hallowed⟩)
          (fun a ha y => hstart _ (c.axis_mem_attached ha) (.scalar y) (by simp)) hplan rfl
        obtain ⟨d', hd', hfixed⟩ := device?_of_fixed hsame hd
        refine ⟨lab'.put i (.composite c), ?_, (fixed_put hd' hfixed.symm).trans hsame⟩
        rw [start_composite hd, Composite.moveTo_of_plan_ok hmode hplan, Action.bind_ok _ hrun]
        rfl

/-! ## Parking -/

/-- The gate of the composite `i`, if it has one, is a switch with the parked state. -/
def Parks (lab : Lab α) (i : DeviceId) : Prop :=
  ∀ c g, lab.device? i = some (.composite c) → c.gate = some g →
    ∃ s, lab.device? g.device = some (.switch s) ∧ g.parked ∈ s.states

theorem Prompt.allows_state_iff (hp : lab.Prompt j) (pace : Pace) (depth : Nat) (name : String) :
    (controlsTo pace (depth + 1)).isAllowed lab j (.state name) = .ok () ↔
      ∃ s, lab.device? j = some (.switch s) ∧ name ∈ s.states := by
  constructor
  · intro h
    obtain ⟨s, hs, -, hname⟩ := hp.allows_state h
    exact ⟨s, hs, hname⟩
  · rintro ⟨s, hs, hname⟩
    simp only [controlsTo, hs]
    exact Switch.isAllowed_state.mpr hname

theorem start_null (pace : Pace) (depth : Nat) {c : Composite DeviceId α}
    (hd : lab.device? i = some (.composite c)) (hmode : c.mode = .master) {g : Gate DeviceId}
    (hg : c.gate = some g) :
    (controlsTo pace (depth + 1)).isAllowed lab i .null = .ok () ∧
      ∃ e, ((controlsTo pace (depth + 1)).start i .null lab).1 =
        ((controlsTo pace depth).start g.device (.state g.parked) (lab.noted e)).1 := by
  obtain ⟨p, hplan, ht⟩ : ∃ p, c.plan (controlsTo pace depth) lab .null = .ok p ∧
    p.target = .null := ⟨_, Composite.plan_null _ lab hg, rfl⟩
  refine ⟨?_, ⟨.debug, some c.name, "moving " ++ c.name ++ " out of beam"⟩, ?_⟩
  · simp only [controlsTo, hd, Composite.isAllowed, hplan]
    rfl
  · have hdispatch := Composite.dispatch_null (controlsTo pace depth) ht hg lab
    rw [controlsTo_note] at hdispatch
    rw [start_composite hd, Composite.moveTo_of_plan_ok hmode hplan]
    cases hrun : (controlsTo pace depth).start g.device (.state g.parked)
        (lab.noted ⟨.debug, some c.name, "moving " ++ c.name ++ " out of beam"⟩) with
    | mk r lab' =>
      cases r with
      | ok u =>
        rw [Action.bind_ok _ (hdispatch.trans hrun)]
        rfl
      | error e => rw [Action.bind_error _ (hdispatch.trans hrun)]

theorem Prompt.allows_null (hp : lab.Prompt i)
    (h : (controlsTo pace (depth + 1)).isAllowed lab i .null = .ok ()) :
    ∃ c g, lab.device? i = some (.composite c) ∧ c.gate = some g := by
  cases hp with
  | motor hd _ _ =>
    simp only [controlsTo, hd] at h
    cases h
  | switch hd _ =>
    simp only [controlsTo, hd] at h
    cases h
  | @composite _ c hd _ _ _ _ =>
    simp only [controlsTo, hd] at h
    obtain ⟨p, hplan, -⟩ := except_map_eq_ok.mp h
    obtain ⟨⟨g, hg⟩, -⟩ := Composite.plan_null_ok hplan
    exact ⟨c, g, hd, hg⟩

theorem Prompt.lt_length (hp : lab.Prompt i) : i < lab.devices.length := by
  cases hp with
  | motor hd _ _ => exact (List.getElem?_eq_some_iff.mp hd).1
  | switch hd _ => exact (List.getElem?_eq_some_iff.mp hd).1
  | composite hd _ _ _ _ => exact (List.getElem?_eq_some_iff.mp hd).1

theorem start_null_ok_iff (hp : lab.Prompt i) (hdepth : i < depth + 1)
    {c : Composite DeviceId α} (hd : lab.device? i = some (.composite c)) {g : Gate DeviceId}
    (hg : c.gate = some g) :
    ((controlsTo pace (depth + 1)).start i .null lab).1 = .ok () ↔ lab.Parks i := by
  have hparks : lab.Parks i ↔
      ∃ s, lab.device? g.device = some (.switch s) ∧ g.parked ∈ s.states := by
    refine ⟨fun h => h c g hd hg, fun h c' g' hd' hg' => ?_⟩
    obtain rfl : c' = c := by simpa [hd] using hd'.symm
    obtain rfl : g' = g := by simpa [hg] using hg'.symm
    exact h
  cases hp with
  | motor hd' _ _ => rw [hd] at hd'; cases hd'
  | switch hd' _ => rw [hd] at hd'; cases hd'
  | @composite _ c' hd' hmode _ hbehind hattached =>
    obtain rfl : c' = c := by simpa [hd] using hd'.symm
    obtain ⟨e, hstart⟩ := (start_null pace depth hd hmode hg).2
    have hmem := c'.gate_mem_attached hg
    have hnoted : (lab.noted e).fixed = lab.fixed := rfl
    have hgate := (hattached _ hmem).congr hnoted
    cases depth with
    | zero =>
      have hnone := hbehind _ hmem
      rw [Nat.lt_one_iff.mp hdepth] at hnone
      exact absurd hnone (Nat.not_lt_zero _)
    | succ depth =>
      have hbelow : g.device < depth + 1 :=
        Nat.lt_of_lt_of_le (hbehind _ hmem) (Nat.lt_succ_iff.mp hdepth)
      have hallows := hgate.allows_state_iff pace depth g.parked
      rw [hstart, hparks]
      refine Iff.trans ?_ hallows
      cases ha : (controlsTo pace (depth + 1)).isAllowed (lab.noted e) g.device
          (.state g.parked) with
      | ok u =>
        obtain ⟨lab', hrun, -⟩ := start_accepted hgate hbelow (by simp) ha
        simp [hrun]
      | error e' => simp [(start_refused hgate ha).1]

/-- **What is allowed is what starts.** For every device that is `Prompt` and every target: if
`isAllowed` is an error, the start fails with it, and a composite has then sent nothing. `isAllowed`
is `.ok ()` if and only if the start is, exactly if the target is not `.null` or the device `Parks`.
-/
theorem isAllowed_iff_start (lab : Lab α) (pace : Pace) (i : DeviceId) (target : Value α)
    (hp : lab.Prompt i) :
    let k := lab.controls pace
    (∀ e, k.isAllowed lab i target = .error e →
      (k.start i target lab).1 = .error e ∧
        ∀ c, lab.device? i = some (.composite c) → (k.start i target lab).2 = lab) ∧
    ((k.isAllowed lab i target = .ok () ↔ (k.start i target lab).1 = .ok ()) ↔
      (target = .null → lab.Parks i)) := by
  have hlt := hp.lt_length
  obtain ⟨n, hdepth⟩ := Nat.exists_eq_add_of_lt hlt
  have hk : lab.controls pace = controlsTo pace (i + n + 1) := congrArg (controlsTo pace) hdepth
  rw [hdepth] at hlt
  simp only [hk]
  refine ⟨fun e he => start_refused hp he, ?_⟩
  cases ha : (controlsTo pace (i + n + 1)).isAllowed lab i target with
  | error e =>
    have hstart := (start_refused hp ha).1
    simp only [hstart, reduceCtorEq, true_iff]
    rintro rfl c g hd hg
    cases hp with
    | motor hd' _ _ => rw [hd] at hd'; cases hd'
    | switch hd' _ => rw [hd] at hd'; cases hd'
    | composite hd' hmode _ _ _ =>
      rw [hd] at hd'
      cases hd'
      rw [(start_null pace _ hd hmode hg).1] at ha
      cases ha
  | ok u =>
    simp only [true_iff]
    by_cases hnull : target = .null
    · subst hnull
      obtain ⟨c, g, hd, hg⟩ := hp.allows_null ha
      simp only [start_null_ok_iff hp hlt hd hg, true_implies]
    · obtain ⟨lab', hrun, -⟩ := start_accepted hp hlt hnull ha
      simp [hrun, hnull]

/-! ## Examples -/

/-- The pair 6 has the pair 3 as its first axis. -/
def nested : Lab Float :=
  { empty with devices := [
    .switch (Switch.make "gate" ["in", "out"] (some "out")), .motor (Motor.make "a"),
    .motor (Motor.make "b"), .composite (Composite.pair 0 1 2 "out" Composite.in_ne_out),
    .switch (Switch.make "outer gate" ["in", "out"] none), .motor (Motor.make "c"),
    .composite (Composite.pair 4 3 5 "out" Composite.in_ne_out)] }

/-- The gate does not have the parked state `out`. -/
def unparkable : Lab Float :=
  { empty with devices := [
    .switch (Switch.make "gate" ["in"] none), .motor (Motor.make "a"), .motor (Motor.make "b"),
    .composite (Composite.pair 0 1 2 "out" Composite.in_ne_out)] }

theorem prompt_motor {lab : Lab Float} {name : String}
    (h : lab.device? i = some (.motor (Motor.make name))) : lab.Prompt i :=
  .motor h rfl Faults.quiet_none

theorem prompt_switch {lab : Lab Float} {name : String} {states : List String}
    {initial : Option String}
    (h : lab.device? i = some (.switch (Switch.make name states initial))) : lab.Prompt i :=
  .switch h Faults.quiet_none

theorem prompt_pair {lab : Lab Float} {g a b : DeviceId} {parked : String} {hp : "in" ≠ parked}
    (h : lab.device? i = some (.composite (Composite.pair g a b parked hp)))
    (hg : g < i ∧ lab.Prompt g) (ha : a < i ∧ lab.Prompt a) (hb : b < i ∧ lab.Prompt b) :
    lab.Prompt i := by
  have hall : ∀ j ∈ [g, a, b], j < i ∧ lab.Prompt j := by simp [hg, ha, hb]
  exact .composite h rfl rfl (fun j hj => (hall j hj).1) fun j hj => (hall j hj).2

theorem nested_prompt : nested.Prompt 6 := by
  have inner : nested.Prompt 3 := prompt_pair rfl ⟨by decide, prompt_switch rfl⟩
    ⟨by decide, prompt_motor rfl⟩ ⟨by decide, prompt_motor rfl⟩
  exact prompt_pair rfl ⟨by decide, prompt_switch rfl⟩ ⟨by decide, inner⟩
    ⟨by decide, prompt_motor rfl⟩

theorem isAllowed_iff_start_nested :
    nested.Prompt 6 ∧ ((nested.controls .prompt).start 6 (.scalar 2) nested).1 = .ok () := by
  refine ⟨nested_prompt, ?_⟩
  obtain ⟨-, h⟩ := isAllowed_iff_start nested .prompt 6 (.scalar 2) nested_prompt
  exact (h.mpr fun hnull => nomatch hnull).mp (by decide)

/-- `.null` is allowed, and the start for it is refused by the gate. -/
theorem isAllowed_start_unparkable :
    unparkable.Prompt 3 ∧ (unparkable.controls .prompt).isAllowed unparkable 3 .null = .ok () ∧
      ((unparkable.controls .prompt).start 3 .null unparkable).1 =
        .error (.invalidValue "gate" (.notAState (.state "out") ["in"])) := by
  refine ⟨?_, by decide, by decide⟩
  exact prompt_pair rfl ⟨by decide, prompt_switch rfl⟩ ⟨by decide, prompt_motor rfl⟩
    ⟨by decide, prompt_motor rfl⟩

end Lab
end Beamline
