import Beamline.Proofs.Dispatch
import Beamline.Proofs.MoveTargets

/-!
A composite in master mode over motors and switches without faults: after a `start` and a `wait`
that are `.ok ()` it reads the number that it was started for, in binary64. Proved here:

* `Reconciler.reconcile_setpoints`: positions that are the setpoints for `v` are reconciled to `v`,
  as a finite number is within any tolerance of itself (`within_tolerance`);
* `readsAs_after_move`, `readsAs_after_parking`: after a move and a wait the attached devices have
  constant answers, and the raw reading is that of the setpoints, or parked (`ReadsAs`);
* `read_after_wait`: so the composite reads the target at every max age and is idle.
-/

namespace Beamline

/-! ## Tolerances -/

theorem sub_self_unpacked (format : Float.Model.Format) {u : Float.Model.UnpackedFloat}
    (h : u.isFinite = true) : u.sub format u = .zero .positive := by
  cases u with
  | infinity s => cases h
  | notANumber => cases h
  | zero s => cases s <;> rfl
  | finite s m e hm =>
    have hcancel : ∀ n : Int, Float.Model.UnpackedFloat.normalize format (n - n) e .positive =
        .zero .positive := by
      intro n
      rw [Int.sub_self]
      rfl
    have hmin : min e e = e := by omega
    change Float.Model.UnpackedFloat.normalize format (_ - _) (min e e) .positive = _
    rw [hmin]
    exact hcancel _

theorem abs_sub_self {x : Float} (h : x.isFinite = true) : Float.abs (x - x) = Float.ofNat 0 := by
  have hzero := sub_self_unpacked Float.Model.Format.binary64 (u := x.toModel.unpack) h
  have hsub : x - x = .ofModel (.pack (.zero .positive)) :=
    congrArg (fun u => Float.ofModel (.pack u)) hzero
  rw [hsub]
  decide

theorem within_tolerance {x t : Float} (hx : Scalar.isFinite x = true) (ht : isTolerance t = true) :
    Scalar.abs (x - x) ≤ t := by
  obtain ⟨-, hnonneg⟩ := Bool.and_eq_true_iff.mp ht
  change Float.abs (x - x) ≤ t
  rw [abs_sub_self hx]
  exact of_decide_eq_true hnonneg

/-! ## Positions that are setpoints -/

variable {α : Type} [Scalar α]

theorem Comparison.all_self {c : Comparison α} {roles : List String} {es ts : List α}
    (h : c ∈ Comparison.all roles es ts es) :
    c.actual = c.expected ∧ c.expected ∈ es ∧ c.tolerance ∈ ts := by
  induction roles generalizing es ts with
  | nil => simp [Comparison.all] at h
  | cons role roles ih =>
    cases es with
    | nil => simp [Comparison.all] at h
    | cons e es =>
      cases ts with
      | nil => simp [Comparison.all] at h
      | cons t ts =>
        rcases List.mem_cons.mp h with rfl | h
        · exact ⟨rfl, List.mem_cons_self, List.mem_cons_self⟩
        · obtain ⟨hactual, he, ht⟩ := ih h
          exact ⟨hactual, List.mem_cons_of_mem e he, List.mem_cons_of_mem t ht⟩

theorem Reconciler.reconcile_setpoints (r : Reconciler α) {v : α} {es : List α}
    (hself : ∀ e ∈ es, ∀ t ∈ r.tolerances, Scalar.abs (e - e) ≤ t)
    (hforward : r.transform.forward v = .ok es) (hlen : es.length = r.roles.length)
    (hfinite : Scalar.isFinite v = true)
    (hinverse : r.transform.inverse (r.primaryPosition es) = v) :
    r.reconcile (.positions es) = .ok (some v) := by
  have hderive : r.derive (.positions es) = .ok (some v) := by
    simp only [derive, hinverse, hfinite, if_true]
  have hcomparisons : r.comparisons v es = .ok (Comparison.all r.roles es r.tolerances es) := by
    simp only [comparisons, hforward, hlen, if_true]
  have hwithin : (Comparison.all r.roles es r.tolerances es).find? (fun c => !c.isWithin) =
      none := by
    rw [List.find?_eq_none]
    intro c hc
    obtain ⟨hactual, he, ht⟩ := Comparison.all_self hc
    simp only [Comparison.isWithin, hactual, hself _ he _ ht, decide_true, Bool.not_true,
      Bool.false_eq_true, not_false_eq_true]
  simp only [reconcile, hderive, checkConsistency, hcomparisons, hwithin]
  rfl

namespace Lab

variable {lab lab' : Lab α} {c : Composite DeviceId α} {i j : DeviceId} {v : Value α}
  {pace : Pace} {depth : Nat}

/-! ## From a start to the end of the wait -/

theorem HasSwitch.quiet (h : lab.HasSwitch j) : ∃ d, lab.device? j = some d ∧ d.Quiet := by
  obtain ⟨s, hs, hquiet⟩ := h
  exact ⟨_, hs, hquiet⟩

theorem HasMotor.quiet (h : lab.HasMotor j) : ∃ d, lab.device? j = some d ∧ d.Quiet := by
  obtain ⟨m, hm, hquiet⟩ := h
  exact ⟨_, hm, hquiet⟩

theorem WillRead.quiet (h : lab.WillRead j v) : ∃ d, lab.device? j = some d ∧ d.Quiet := by
  obtain ⟨d, hd, hquiet, -⟩ := h
  exact ⟨d, hd, hquiet⟩

theorem WillRead.motor {x : α} (h : lab.WillRead j (.scalar x)) : lab.HasMotor j := by
  obtain ⟨d, hd, hquiet, hwill⟩ := h
  cases d with
  | motor m => exact ⟨m, hd, hquiet⟩
  | switch s => cases hwill
  | standIn d => cases hwill
  | composite c => cases hwill

theorem forall_attached {p : DeviceId → Prop} (hgate : ∀ g ∈ c.gate, p g.device)
    (hlock : ∀ l ∈ c.interlock, p l.device) (haxes : ∀ a ∈ c.axes, p a.device) :
    ∀ j ∈ c.attached, p j := by
  intro j hj
  simp only [Composite.attached, List.mem_append, Option.mem_toList,
    Option.map_eq_some_iff, List.mem_map] at hj
  rcases hj with (⟨g, hg, rfl⟩ | ⟨l, hl, rfl⟩) | ⟨a, ha, rfl⟩
  · exact hgate g hg
  · exact hlock l hl
  · exact haxes a ha

theorem Mounted.quiet (h : lab.Mounted c) :
    ∀ j ∈ c.attached, ∃ d, lab.device? j = some d ∧ d.Quiet :=
  forall_attached (fun g hg => (h.gate g hg).1.quiet) (fun l hl => (h.interlock l hl).1.quiet)
    fun a ha => (h.axes a ha).quiet

theorem not_mem_attached (hd : lab.device? i = some (.composite c))
    (hquiet : ∀ j ∈ c.attached, ∃ d, lab.device? j = some d ∧ d.Quiet) : i ∉ c.attached := by
  intro hi
  obtain ⟨d, hd', hq⟩ := hquiet i hi
  obtain rfl : Device.composite c = d := by simpa [hd] using hd'
  exact hq

theorem wait_attached (hd : lab.device? i = some (.composite c)) (hmode : c.mode = .master)
    (hnodup : c.attached.Nodup)
    (hquiet : ∀ j ∈ c.attached, ∃ d, lab.device? j = some d ∧ d.Quiet)
    (h : (controlsTo pace (depth + 2)).wait i lab = (.ok (), lab')) :
    lab.Awaited c.attached lab' ∧ ∀ j ∉ c.attached, lab'.device? j = lab.device? j := by
  rw [wait_composite hd] at h
  simp only [Composite.wait, hmode] at h
  exact waitAll_settles hnodup hquiet h

variable {ds : List DeviceId}

theorem Awaited.stands (h : lab.Awaited ds lab') (hj : j ∈ ds) (hv : lab.WillRead j v) :
    lab'.Stands j v := by
  obtain ⟨d, hd, hquiet, hwill⟩ := hv
  obtain ⟨now, hd', hstill⟩ := h j hj d hd
  exact ⟨_, hd', Device.quiet_advance hquiet now, hstill, Device.willRead_advance hwill now⟩

theorem Awaited.motor_rests (h : lab.Awaited ds lab') (hj : j ∈ ds) (hm : lab.HasMotor j) :
    lab'.Rests j := by
  obtain ⟨m, hd, hquiet⟩ := hm
  have hquiet' : (Device.motor m).Quiet := hquiet
  obtain ⟨now, hd', hstill⟩ := h j hj _ hd
  exact ⟨_, hd', Device.quiet_advance hquiet' now, hstill, trivial⟩

theorem Awaited.switch_stands (h : lab.Awaited ds lab') (hj : j ∈ ds) (hs : lab.HasSwitch j)
    {name : String} (hname : name ≠ undefinedState) {maxAge : Nat}
    (hread : ((controlsTo pace (depth + 1)).read j maxAge lab').1 = .ok (.state name)) :
    lab'.Stands j (.state name) := by
  obtain ⟨s, hd, hquiet⟩ := hs
  obtain ⟨now, hd', hstill⟩ := h j hj _ hd
  have hq : (Device.switch s).Quiet := hquiet
  have hquiet' : (s.advance now).faults.Quiet := Device.quiet_advance hq now
  obtain ⟨lab₁, hrun, -⟩ := read_switch pace depth hd' maxAge
  rw [Switch.read_of_quiet hquiet', Switch.advance_of_still hstill] at hrun
  rw [hrun] at hread
  have hreading := Value.state.inj (Except.ok.inj hread)
  exact ⟨_, hd', hquiet', hstill, Switch.destination_of_reading hreading hname⟩

/-! ## Constant readings of the composite -/

/-- All attached devices are at rest, and in every world that `Keeps` them the raw reading is
`reading`. -/
structure ReadsAs (lab : Lab α) (c : Composite DeviceId α) (reading : Reading α) : Prop where
  rests : ∀ j ∈ c.attached, lab.Rests j
  raw : ∀ pace depth maxAge s, lab.Keeps s → ∃ s',
    c.readRaw (controlsTo pace (depth + 1)) maxAge s = (.ok reading, s') ∧ lab.Keeps s'

theorem ReadsAs.answers {reading : Reading α} (h : lab.ReadsAs c reading) (hmode : c.mode = .master)
    (hv : c.reconciled reading = .ok v) (pace : Pace) (depth maxAge : Nat) :
    (c.read (controlsTo pace (depth + 1)) maxAge lab).1 = .ok v ∧
      (c.status (controlsTo pace (depth + 1)) maxAge lab).1 = .idle ∧
      (c.lifecycle (controlsTo pace (depth + 1)) maxAge lab).1 =
        if v.isNull then .parked else .positioned := by
  have hidle : ∀ j ∈ c.attached, (controlsTo pace (depth + 1)).Idles lab.Keeps j :=
    fun j hj => idles_of_rests (h.rests j hj)
  have hread : ∀ maxAge s, lab.Keeps s → ∃ s',
      c.read (controlsTo pace (depth + 1)) maxAge s = (.ok v, s') ∧ lab.Keeps s' :=
    fun maxAge s hs => Composite.read_constant hmode note_keeps (h.raw pace depth) hv maxAge hs
  have hlab := Keeps.refl lab
  obtain ⟨s', hrun, -⟩ := hread maxAge lab hlab
  exact ⟨by rw [hrun], Composite.status_constant hmode hidle hread maxAge hlab,
    Composite.lifecycle_constant hmode hidle hread maxAge hlab⟩

variable {lab₁ lab₂ : Lab α}

theorem readsAs_after_move (hd : lab.device? i = some (.composite c)) (hmode : c.mode = .master)
    (hm : lab.Mounted c) {x : α}
    (hstart : (controlsTo pace (depth + 2)).start i (.scalar x) lab = (.ok (), lab₁))
    (hwait : (controlsTo pace (depth + 2)).wait i lab₁ = (.ok (), lab₂)) :
    lab₂.device? i = some (.composite c) ∧ Scalar.isFinite x = true ∧
      ∃ es, c.reconciler.transform.forward x = .ok es ∧ es.length = c.axes.length ∧
        (∀ e ∈ es, Scalar.isFinite e = true) ∧ lab₂.ReadsAs c (.positions es) := by
  obtain ⟨p, lab', hplan, hsent, rfl⟩ := start_composite_ok hd hmode hstart
  obtain ⟨es, htarget, hvalues, hsps, -, ht⟩ := Composite.plan_scalar_ok hplan
  obtain ⟨hforward, hlen⟩ := Composite.setpointValues_ok hvalues
  have hes := Composite.planAxes_values hlen hsps
  have hlen' : c.axes.length = p.setpoints.length := by
    rw [← hlen, ← hes, List.length_map]
  obtain ⟨hgate, hlock, haxes, hsame⟩ := dispatch_willRead hm ht hlen' hsent
  have hi := (hsame i (not_mem_attached hd hm.quiet)).trans hd
  rw [put_self hi] at hwait
  have hsent' : List.Forall₂ (fun a y => lab'.WillRead a.device (.scalar y) ∧
      Scalar.isFinite y = true) c.axes es := by
    rw [← hes, List.forall₂_map_right_iff]
    exact haxes
  have hfinite : ∀ e ∈ es, Scalar.isFinite e = true := by
    have hback : List.Forall₂ (fun y (_ : Axis DeviceId) => Scalar.isFinite y = true ∧ True) es
      c.axes := List.Forall₂.flip (hsent'.imp fun a y h => ⟨h.2, trivial⟩)
    exact ((List.forall₂_and_left es c.axes).mp hback).1
  have hmotors : ∀ a ∈ c.axes, lab'.HasMotor a.device := by
    have hfront : List.Forall₂ (fun (a : Axis DeviceId) (_ : α) => lab'.HasMotor a.device ∧ True)
      c.axes es := hsent'.imp fun a y h => ⟨h.1.motor, trivial⟩
    exact ((List.forall₂_and_left c.axes es).mp hfront).1
  obtain ⟨hawaited, hkept⟩ := wait_attached hi hmode hm.distinct
    (forall_attached (fun g hg => (hgate g hg).quiet) (fun l hl => (hlock l hl).quiet)
      fun a ha => (hmotors a ha).quiet) hwait
  have hgate' : ∀ g ∈ c.gate, lab₂.Stands g.device (.state g.active) := fun g hg =>
    hawaited.stands (c.gate_mem_attached hg) (hgate g hg)
  have hlock' : ∀ l ∈ c.interlock, lab₂.Stands l.device (.state l.required) := fun l hl =>
    hawaited.stands (c.interlock_mem_attached hl) (hlock l hl)
  have haxes' : List.Forall₂ (fun a y => a ∈ c.axes ∧ lab'.WillRead a.device (.scalar y))
      c.axes es :=
    (List.forall₂_and_left c.axes es).mpr ⟨fun _ ha => ha, hsent'.imp fun _ _ h => h.1⟩
  refine ⟨(hkept i (not_mem_attached hd hm.quiet)).trans hi,
    Composite.isFinite_of_checkTarget htarget, es, hforward, hlen, hfinite, ?_, ?_⟩
  · exact forall_attached (fun g hg => (hgate' g hg).rests) (fun l hl => (hlock' l hl).rests)
      fun a ha => hawaited.motor_rests (c.axis_mem_attached ha) (hmotors a ha)
  · intro pace depth maxAge s hs
    refine Composite.readRaw_positions (fun l hl => reads_of_stands (hlock' l hl))
      (fun g hg => reads_of_stands (hgate' g hg)) (haxes'.imp fun a y h => ?_) maxAge hs
    exact reads_of_stands (hawaited.stands (c.axis_mem_attached h.1) h.2)

/-- The axes are not started, and may be anywhere. -/
theorem readsAs_after_parking (hd : lab.device? i = some (.composite c)) (hmode : c.mode = .master)
    (hm : lab.Mounted c)
    (hstart : (controlsTo pace (depth + 2)).start i .null lab = (.ok (), lab₁))
    (hwait : (controlsTo pace (depth + 2)).wait i lab₁ = (.ok (), lab₂))
    (hrequired : ∀ l ∈ c.interlock,
      ((controlsTo pace (depth + 2)).read l.device fresh lab₂).1 = .ok (.state l.required)) :
    lab₂.device? i = some (.composite c) ∧ lab₂.ReadsAs c .parked := by
  obtain ⟨p, lab', hplan, hsent, rfl⟩ := start_composite_ok hd hmode hstart
  obtain ⟨⟨g, hg⟩, ht⟩ := Composite.plan_null_ok hplan
  obtain ⟨hgl, hga, hla, -⟩ := Composite.distinct_of_nodup hm.distinct
  rw [Composite.dispatch_null _ ht hg, controlsTo_note] at hsent
  have hs : HasSwitch (noted ⟨.debug, some c.name, "moving " ++ c.name ++ " out of beam"⟩ lab)
    g.device := (hm.gate g hg).1
  obtain ⟨hparked, hother⟩ := start_switch_willRead hs hsent
  have hsame : ∀ j ≠ g.device, lab'.device? j = lab.device? j := hother
  have hapart := not_mem_attached hd hm.quiet
  have hi := (hsame i fun hig => hapart (hig ▸ c.gate_mem_attached hg)).trans hd
  rw [put_self hi] at hwait
  have hgate : ∀ g' ∈ c.gate, lab'.WillRead g'.device (.state g.parked) := by
    intro g' hg'
    obtain rfl : g = g' := by simpa [hg] using hg'
    exact hparked
  have hlock : ∀ l ∈ c.interlock, lab'.HasSwitch l.device := fun l hl =>
    (hm.interlock l hl).1.congr (hsame _ fun hlg => hgl g hg l hl hlg.symm)
  have hmotors : ∀ a ∈ c.axes, lab'.HasMotor a.device := fun a ha =>
    (hm.axes a ha).congr (hsame _ fun hag => hga g hg (hag ▸ List.mem_map_of_mem ha))
  obtain ⟨hawaited, hkept⟩ := wait_attached hi hmode hm.distinct
    (forall_attached (fun g' hg' => (hgate g' hg').quiet) (fun l hl => (hlock l hl).quiet)
      fun a ha => (hmotors a ha).quiet) hwait
  have hgate' : ∀ g' ∈ c.gate, lab₂.Stands g'.device (.state g.parked) := fun g' hg' =>
    hawaited.stands (c.gate_mem_attached hg') (hgate g' hg')
  have hlock' : ∀ l ∈ c.interlock, lab₂.Stands l.device (.state l.required) := fun l hl =>
    hawaited.switch_stands (c.interlock_mem_attached hl) (hlock l hl) (hm.interlock l hl).2
      (hrequired l hl)
  refine ⟨(hkept i hapart).trans hi, ?_, ?_⟩
  · exact forall_attached (fun g' hg' => (hgate' g' hg').rests) (fun l hl => (hlock' l hl).rests)
      fun a ha => hawaited.motor_rests (c.axis_mem_attached ha) (hmotors a ha)
  · intro pace depth maxAge s hs
    exact Composite.readRaw_parked (fun l hl => reads_of_stands (hlock' l hl)) hg
      (reads_of_stands (hgate' g hg)) maxAge hs

/-- The controls of the laboratory have depth at least 2, as an attached device is declared before
its composite. -/
theorem two_le_length (hd : lab.device? i = some (.composite c)) (hm : lab.Mounted c) :
    ∃ depth, lab.devices.length = depth + 2 := by
  have hroles := c.reconciler.primary_lt
  have haxes : 0 < c.axes.length := by
    rw [c.axes_length]
    exact Nat.lt_of_le_of_lt (Nat.zero_le _) hroles
  obtain ⟨a, axes, hcons⟩ := List.exists_cons_of_length_pos haxes
  have ha : a ∈ c.axes := by simp [hcons]
  obtain ⟨m, hmotor, -⟩ := hm.axes a ha
  obtain ⟨hlt, -⟩ := List.getElem?_eq_some_iff.mp hd
  obtain ⟨hlt', -⟩ := List.getElem?_eq_some_iff.mp hmotor
  have hne : i ≠ a.device := by
    rintro rfl
    rw [hd] at hmotor
    cases hmotor
  have htwo : ∀ m n len : Nat, m < len → n < len → m ≠ n → len = len - 2 + 2 := by
    intro m n len hm hn hmn
    omega
  exact ⟨_, htwo _ _ _ hlt hlt' hne⟩

/-- **Move, wait, read back.** Let a composite in master mode be `Mounted`: over motors and switches
without faults, in any state. If a start for `v` and the wait after it are `.ok ()`, and `inverse`
gives `v` for the primary setpoint of `v`, the composite reads `v` at every max age, is idle and
positioned. If it is started for `.null` and waited for, and a fresh read of its interlock gives the
required state, it reads `.null` at every max age, is idle and parked. -/
theorem read_after_wait (lab : Lab Float) (pace : Pace) (i : DeviceId)
    (c : Composite DeviceId Float) (hd : lab.device? i = some (.composite c))
    (hmode : c.mode = .master) (hm : lab.Mounted c) :
    let k := lab.controls pace
    (∀ v lab₁ lab₂, (∀ es, c.reconciler.transform.forward v = .ok es →
        c.reconciler.transform.inverse (c.reconciler.primaryPosition es) = v) →
      k.start i (.scalar v) lab = (.ok (), lab₁) → k.wait i lab₁ = (.ok (), lab₂) →
      lab₂.device? i = some (.composite c) ∧ ∀ maxAge,
        (k.read i maxAge lab₂).1 = .ok (.scalar v) ∧ (k.status i maxAge lab₂).1 = .idle ∧
        (c.lifecycle k maxAge lab₂).1 = .positioned) ∧
    ∀ lab₁ lab₂, k.start i .null lab = (.ok (), lab₁) → k.wait i lab₁ = (.ok (), lab₂) →
      (∀ l ∈ c.interlock, (k.read l.device fresh lab₂).1 = .ok (.state l.required)) →
      lab₂.device? i = some (.composite c) ∧ ∀ maxAge,
        (k.read i maxAge lab₂).1 = .ok .null ∧ (k.status i maxAge lab₂).1 = .idle ∧
        (c.lifecycle k maxAge lab₂).1 = .parked := by
  obtain ⟨depth, hdepth⟩ := two_le_length hd hm
  have hk : lab.controls pace = controlsTo pace (depth + 2) := congrArg (controlsTo pace) hdepth
  simp only [hk]
  refine ⟨fun v lab₁ lab₂ hinverse hstart hwait => ?_,
    fun lab₁ lab₂ hstart hwait hrequired => ?_⟩
  · obtain ⟨hi, hv, es, hforward, hlen, hfinite, hreadsAs⟩ :=
      readsAs_after_move hd hmode hm hstart hwait
    have hself : ∀ e ∈ es, ∀ t ∈ c.reconciler.tolerances, Scalar.abs (e - e) ≤ t := fun e he t ht =>
      within_tolerance (hfinite e he) (c.reconciler.tolerances_ok t ht)
    have hreconciled : c.reconciled (.positions es) = .ok (.scalar v) := by
      have h := c.reconciler.reconcile_setpoints hself hforward (hlen.trans c.axes_length) hv
        (hinverse es hforward)
      simp only [Composite.reconciled, h]
      rfl
    refine ⟨hi, fun maxAge => ?_⟩
    obtain ⟨hread, hstatus, -⟩ := hreadsAs.answers hmode hreconciled pace depth maxAge
    obtain ⟨-, -, hlifecycle⟩ := hreadsAs.answers hmode hreconciled pace (depth + 1) maxAge
    rw [read_composite hi, status_composite hi]
    exact ⟨hread, hstatus, hlifecycle⟩
  · obtain ⟨hi, hreadsAs⟩ := readsAs_after_parking hd hmode hm hstart hwait hrequired
    refine ⟨hi, fun maxAge => ?_⟩
    obtain ⟨hread, hstatus, -⟩ := hreadsAs.answers hmode rfl pace depth maxAge
    obtain ⟨-, -, hlifecycle⟩ := hreadsAs.answers hmode rfl pace (depth + 1) maxAge
    rw [read_composite hi, status_composite hi]
    exact ⟨hread, hstatus, hlifecycle⟩

/-! ## Example -/

/-- The gate is switching and the first axis is under way, with an outdated reading in its cache. -/
def drifting : Lab Float :=
  { empty with devices := [
    .switch { Switch.make "gate" ["in", "out"] (some "in") with
      pacing := .realistic, pending := some ("out", 7) },
    .motor { Motor.make "a" with
      pacing := .realistic, motion := some ⟨0, 9, 0, 1000, 50⟩, cache := .put 4 3 },
    .motor (Motor.make "b"), .composite (Composite.pair 0 1 2 "out" Composite.in_ne_out)] }

theorem drifting_mounted : drifting.Mounted (Composite.pair 0 1 2 "out" Composite.in_ne_out) where
  gate := by
    intro g hg
    obtain rfl := Option.some.inj hg
    exact ⟨⟨_, rfl, Faults.quiet_none⟩, by decide⟩
  interlock := nofun
  axes := by
    intro a ha
    rcases List.mem_cons.mp ha with rfl | ha
    · exact ⟨_, rfl, Faults.quiet_none⟩
    · obtain rfl := List.mem_singleton.mp ha
      exact ⟨_, rfl, Faults.quiet_none⟩
  distinct := by decide

/-- Every look takes 15 minutes. -/
def unhurried : Pace := ⟨fun _ => 900000000000, fun _ => 0⟩

theorem read_after_wait_drifting :
    drifting.Mounted (Composite.pair 0 1 2 "out" Composite.in_ne_out) ∧
      ∃ lab₁ lab₂, (drifting.controls unhurried).start 3 (.scalar 2) drifting = (.ok (), lab₁) ∧
        (drifting.controls unhurried).wait 3 lab₁ = (.ok (), lab₂) ∧
        ∀ maxAge, ((drifting.controls unhurried).read 3 maxAge lab₂).1 = .ok (.scalar 2) := by
  obtain ⟨hmove, -⟩ := read_after_wait drifting unhurried 3
    (Composite.pair 0 1 2 "out" Composite.in_ne_out) rfl rfl drifting_mounted
  have hstart : ((drifting.controls unhurried).start 3 (.scalar 2) drifting).1 = .ok () := by
    decide +kernel
  have hwait : ((drifting.controls unhurried).wait 3
      ((drifting.controls unhurried).start 3 (.scalar 2) drifting).2).1 = .ok () := by
    decide +kernel
  have hinverse : ∀ es, Composite.pairGeometry.transform.forward 2 = .ok es →
      Composite.pairGeometry.transform.inverse
        (Composite.pairReconciler.primaryPosition es) = 2 := by
    intro es hes
    obtain rfl : [2, 5] = es := Except.ok.inj (Eq.trans (by decide +kernel) hes)
    decide
  obtain ⟨lab₁, h₁⟩ := Action.ok_of_fst hstart
  rw [h₁] at hwait
  obtain ⟨lab₂, h₂⟩ := Action.ok_of_fst hwait
  exact ⟨drifting_mounted, lab₁, lab₂, h₁, h₂, fun maxAge =>
    ((hmove 2 lab₁ lab₂ hinverse h₁ h₂).2 maxAge).1⟩

end Lab
end Beamline
