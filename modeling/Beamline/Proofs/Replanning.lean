import Beamline.Proofs.Dispatch
import Beamline.Proofs.Reconciling
import Beamline.Proofs.Scanning
import Beamline.Proofs.NonStartSteps

/-!
A plan for the number that a composite reads, over motors at rest. A reading is reconciled to `v`
only if each axis is within its tolerance of its setpoint for `v`. Proved here:

* `readAxes_standing`, `reconciled_standing`: the reading is that of the positions at which the axes
  stand, as the operations before it are a `NonStartRun`;
* `near_of_within`: so every setpoint of a plan for `v` is `Near` its axis;
* `replan_near`: and a move to `v` starts the axes for these setpoints only.
-/

namespace Beamline

open Relation

variable {ι σ α : Type} [Scalar α]

/-! ## Setpoints of a plan -/

omit [Scalar α] in
theorem Started.order_of_mem {orders : List (ι × Value α)} {xs : List (Exchange ι α)} {d : ι}
    {v : Value α} {r : Except (DeviceError α) Unit} (h : Started orders xs)
    (hx : .start d v r ∈ xs) : (d, v) ∈ orders := by
  induction h with
  | done => cases hx
  | accepted _ ih =>
    rcases List.mem_cons.mp hx with hx | hx
    · cases hx
      exact List.mem_cons_self
    · exact List.mem_cons_of_mem _ (ih hx)
  | refused =>
    cases List.mem_singleton.mp hx
    exact List.mem_cons_self

namespace Composite

variable {c : Composite ι α} {k : Controls ι σ α} {s : σ} {axes : List (Axis ι)}
  {values : List α} {sps : List (Setpoint α)}

omit [Scalar α] in
theorem planAxes_eq (hlen : values.length = axes.length)
    (h : planAxes k s axes values = .ok sps) :
    sps = List.zipWith (fun a x => ⟨a.role, k.name s a.device, x⟩) axes values := by
  induction axes generalizing values sps with
  | nil =>
    cases h
    rfl
  | cons a axes ih =>
    obtain ⟨x, xs, rfl⟩ := List.exists_cons_of_length_eq_add_one hlen
    unfold planAxes at h
    split at h
    · cases h
    · obtain ⟨rest, hrest, rfl⟩ := except_map_eq_ok.mp h
      rw [ih (by simpa using hlen) hrest]
      rfl

theorem afterGate_within {S : σ → σ → Prop} (h : k.NonStartsWithin S) (c : Composite ι α)
    (maxAge : Nat) (s : σ) : ReflTransGen S s (c.afterGate k maxAge s) := by
  have hlock : ReflTransGen S s (c.afterLock k maxAge s) := by
    unfold afterLock
    cases c.interlock with
    | none => exact .refl
    | some l => exact h.read l.device maxAge s
  unfold afterGate
  cases c.gate with
  | none => exact hlock
  | some g => exact hlock.trans (h.read g.device maxAge _)

theorem Moves.start_of_mem {x : α} {xs : List (Exchange ι α)} {r : Except (DeviceError α) Unit}
    (h : Moves c (.scalar x) xs r) {d : ι} {v : Value α} {answer : Except (DeviceError α) Unit}
    (hx : .start d v answer ∈ xs) :
    (∃ g ∈ c.gate, d = g.device ∧ v = .state g.active) ∨
      ∃ es, c.reconciler.transform.forward x = .ok es ∧ (d, v) ∈ c.axisOrders es := by
  cases h with
  | unreadable hl => cases List.mem_singleton.mp hx
  | locked hl hv => cases List.mem_singleton.mp hx
  | @driven _ es lock gate starts orders hf hlen hl hg hs =>
    have hstart : Exchange.start d v answer ∈ starts := by
      rcases List.mem_append.mp hx with hx | hx
      · exact absurd hx fun hmem => (List.mem_append.mp hmem).elim hl.no_start hg.no_start
      · exact hx
    rcases List.mem_append.mp (hs.order_of_mem hstart) with horder | horder
    · cases hgate : c.gate with
      | none =>
        rw [hgate] at hg
        cases hg
        cases horder
      | some g =>
        rw [hgate] at hg
        cases hg with
        | active => cases horder
        | elsewhere _ =>
          cases List.mem_singleton.mp horder
          exact .inl ⟨g, rfl, rfl, rfl⟩
    · exact .inr ⟨es, hf, horder⟩

end Composite

/-! ## Motors at rest -/

namespace Motor

variable {m m' : Motor α} {since now maxAge : Nat} {x : α} {v : Value α}

theorem positionAt_of_idle (h : m.isMoving now = false) : m.positionAt now = m.destination := by
  unfold isMoving at h
  unfold positionAt destination
  cases hk : m.motion with
  | none => rfl
  | some k =>
    rw [hk] at h
    have hdone : k.isDone now = true := by simpa using h
    exact if_pos (Nat.le_trans (Nat.le_add_right _ _) (Motion.isDone_iff.mp hdone).2)

theorem NonStartStep.destination (h : m.NonStartStep since m') (hidle : m.isMoving since = false) :
    m'.destination = m.destination := by
  obtain ⟨f, now, reads, hnow, rfl | rfl | rfl | rfl⟩ := h.outcome
  · rfl
  · exact destination_advance { m with faults := f } now
  · exact destination_advance { m with faults := f } now
  · exact positionAt_of_idle (isMoving_of_le hidle hnow)

theorem read_fresh_ok (h : (read now fresh m).1 = .ok v) : v = .scalar (m.positionAt now) := by
  obtain ⟨f, hg | ⟨e, hg⟩⟩ := guard_cases .read m
  · rw [read_of_guard hg, Cache.get?_fresh] at h
    cases h
    rfl
  · rw [read_refused hg] at h
    cases h

end Motor

namespace Lab

variable {lab lab' : Lab α} {j : DeviceId} {x v : α} {pace : Pace} {depth : Nat}
  {axes : List (Axis DeviceId)} {xs ps : List α} {c : Composite DeviceId α}

/-- The device `j` is a motor that is not moving, at `x`. -/
def StandsAt (lab : Lab α) (j : DeviceId) (x : α) : Prop :=
  ∃ m, lab.device? j = some (.motor m) ∧ m.isMoving lab.clock.now = false ∧
    m.positionAt lab.clock.now = x

theorem NonStartRun.standsAt (h : lab.NonStartRun lab') (hx : lab.StandsAt j x) :
    lab'.StandsAt j x := by
  obtain ⟨m, hm, hidle, hpos⟩ := hx
  let P : Nat → Device α → Prop := fun t d =>
    ∃ m, d = .motor m ∧ m.isMoving t = false ∧ m.destination = x
  obtain ⟨_, hm', m', rfl, hidle', hdest⟩ := h.keeps (P := P)
    (fun d t t' ht hd => by
      obtain ⟨m, rfl, hidle, hdest⟩ := hd
      exact ⟨m, rfl, Motor.isMoving_of_le hidle ht, hdest⟩)
    (fun d d' t hstep hd => by
      obtain ⟨m, rfl, hidle, hdest⟩ := hd
      cases hstep with
      | motor hstep => exact ⟨_, rfl, hstep.idle hidle, (hstep.destination hidle).trans hdest⟩)
    hm ⟨m, rfl, hidle, (Motor.positionAt_of_idle hidle).symm.trans hpos⟩
  exact ⟨m', hm', hidle', (Motor.positionAt_of_idle hidle').trans hdest⟩

theorem StandsAt.read_ok (hx : lab.StandsAt j x) {w : Value α}
    (h : ((controlsTo pace depth).read j fresh lab).1 = .ok w) : w = .scalar x := by
  obtain ⟨m, hm, hidle, hpos⟩ := hx
  have hcall := le_callTime lab pace
  cases depth with
  | zero => cases h
  | succ depth =>
    obtain ⟨lab', hrun, -⟩ := read_motor pace depth hm fresh
    rw [hrun] at h
    rw [Motor.read_fresh_ok h, Motor.positionAt_of_idle (Motor.isMoving_of_le hidle hcall),
      ← Motor.positionAt_of_idle hidle, hpos]

theorem readAxes_standing (hrest : List.Forall₂ (fun a x => lab.StandsAt a.device x) axes xs)
    (h : (Composite.readAxes (controlsTo pace depth) fresh axes lab).1 = .ok ps) : ps = xs := by
  induction axes generalizing xs lab ps with
  | nil =>
    cases hrest
    cases h
    rfl
  | cons a axes ih =>
    cases hrest with
    | @cons _ x _ xs hx hrest =>
      rcases hread : (controlsTo pace depth).read a.device fresh lab with ⟨e | w, lab'⟩
      · rw [Composite.readAxes_unreadable hread] at h
        cases h
      · obtain rfl : w = .scalar x := hx.read_ok (congrArg Prod.fst hread)
        rw [Composite.readAxes_next hread] at h
        obtain ⟨qs, hqs, rfl⟩ := except_map_eq_ok.mp h
        -- reading the first axis moves none of the others
        have hstep := (controlsTo_nonStartsWithin pace depth).read a.device fresh lab
        rw [hread] at hstep
        rw [ih (hrest.imp fun b y hy => NonStartRun.standsAt hstep hy) hqs]

theorem reconciled_standing (hmode : c.mode = .master)
    (hrest : List.Forall₂ (fun a x => lab.StandsAt a.device x) c.axes xs)
    (h : (c.read (controlsTo pace depth) fresh lab).1 = .ok (.scalar v)) :
    c.reconciler.reconcile (.positions xs) = .ok (some v) := by
  have hk := controlsTo_nonStartsWithin (α := α) pace depth
  rw [Composite.read_fst hmode] at h
  obtain ⟨reading, hraw, hrec⟩ := except_bind_eq_ok.mp h
  rw [Composite.reconciled_scalar_iff] at hrec
  cases reading with
  | parked =>
    rw [Reconciler.reconcile_none_iff.mpr rfl] at hrec
    cases hrec
  | positions ps =>
    -- whatever the axes were read after has moved none of them
    have hnonStartRun : lab.NonStartRun _ := Composite.afterGate_within hk c fresh lab
    have hread := Composite.readAxes_of_readRaw hraw
    rwa [← readAxes_standing (hrest.imp fun a x hx => hnonStartRun.standsAt hx) hread]

/-- `sp` is the `i`-th setpoint of the plan, for the role and the device of the `i`-th axis, and
differs from the position of that axis by at most its tolerance. -/
structure Near (lab : Lab α) (c : Composite DeviceId α) (xs : List α) (plan : Plan α) (i : Nat)
    (a : Axis DeviceId) (sp : Setpoint α) : Prop where
  axis : c.axes[i]? = some a
  setpoint : plan.setpoints[i]? = some sp
  role : c.reconciler.roles[i]? = some sp.role
  device : sp.device = lab.nameOf a.device
  near : ∃ x t, xs[i]? = some x ∧ c.reconciler.tolerances[i]? = some t ∧
    Scalar.abs (x - sp.value) ≤ t

theorem near_of_within {es : List α} {plan : Plan α}
    (hlen : es.length = c.axes.length)
    (hplan : Composite.planAxes (controlsTo pace depth) lab c.axes es = .ok plan.setpoints)
    {i : Nat} {a : Axis DeviceId} (ha : c.axes[i]? = some a) (h : c.reconciler.Within es xs i) :
    ∃ sp, lab.Near c xs plan i a sp ∧ es[i]? = some sp.value := by
  obtain ⟨x, e, t, hx, he, ht, hle⟩ := h
  have hsetpoint : plan.setpoints[i]? = some ⟨a.role, lab.nameOf a.device, e⟩ := by
    rw [Composite.planAxes_eq hlen hplan, List.getElem?_zipWith, ha, he, controlsTo_name]
  refine ⟨⟨a.role, lab.nameOf a.device, e⟩, ⟨ha, hsetpoint, ?_, rfl, x, t, hx, ht, hle⟩, he⟩
  rw [← c.axes_roles, List.getElem?_map, ha]
  rfl

/-- **Going where one is.** Let the axes of a composite in master mode be motors at rest, at the
positions `xs`, and let a fresh read give the number `v`. Then the axes are still there, and a plan
for `v` has one setpoint for each axis, which is `Near` it. A move to `v` starts the gate for its
active state and axes for these setpoints, and no other device. -/
theorem replan_near [LawfulNaN α] (lab lab' : Lab α) (pace : Pace) (depth : Nat)
    (c : Composite DeviceId α) (xs : List α) (v : α) (plan : Plan α) (hmode : c.mode = .master)
    (hrest : List.Forall₂ (fun a x => lab.StandsAt a.device x) c.axes xs)
    (hread : c.read (controlsTo pace depth) fresh lab = (.ok (.scalar v), lab'))
    (hplan : c.plan (controlsTo pace depth) lab' (.scalar v) = .ok plan) :
    List.Forall₂ (fun a x => lab'.StandsAt a.device x) c.axes xs ∧
    plan.setpoints.length = c.axes.length ∧
    (∀ i < c.axes.length, ∃ a sp, lab'.Near c xs plan i a sp) ∧
    let run := c.moveTo (controlsTo pace depth).recorded (.scalar v) (lab', [])
    c.moveTo (controlsTo pace depth) (.scalar v) lab' = (run.1, run.2.1) ∧
    ∀ d target answer, .start d target answer ∈ run.2.2 →
      (∃ g ∈ c.gate, d = g.device ∧ target = .state g.active) ∨
      ∃ i a sp, lab'.Near c xs plan i a sp ∧ d = a.device ∧ target = .scalar sp.value := by
  have hk := controlsTo_nonStartsWithin (α := α) pace depth
  have hnonStartRun := Composite.read_within (c := c) hk fresh lab
  rw [hread] at hnonStartRun
  obtain ⟨-, -, es, hes, hcount, hwithin⟩ :=
    Reconciler.reconcile_some_iff.mp (reconciled_standing hmode hrest (congrArg Prod.fst hread))
  obtain ⟨values, -, hv, ha, -, -⟩ := Composite.plan_scalar_ok hplan
  obtain ⟨hforward, hlen⟩ := Composite.setpointValues_ok hv
  obtain rfl : values = es := Except.ok.inj (hforward.symm.trans hes)
  have hnear : ∀ {i a}, c.axes[i]? = some a →
      ∃ sp, lab'.Near c xs plan i a sp ∧ values[i]? = some sp.value := by
    intro i a hi
    obtain ⟨hlt, -⟩ := List.getElem?_eq_some_iff.mp hi
    exact near_of_within hlen ha hi (hwithin i (c.axes_length ▸ hlt))
  refine ⟨hrest.imp fun a x hx => NonStartRun.standsAt hnonStartRun hx, ?_, ?_, ?_, ?_⟩
  · rw [Composite.planAxes_eq hlen ha, List.length_zipWith, hlen, Nat.min_self]
  · intro i hi
    obtain ⟨sp, hsp, -⟩ := hnear (List.getElem?_eq_getElem hi)
    exact ⟨_, sp, hsp⟩
  · exact (Composite.moveTo_mirrors c _ (.scalar v) (lab', [])).symm
  · intro d target answer hstart
    obtain ⟨exchanges, r, hmoves, -, htrace⟩ :=
      Composite.moveTo_asks (w := (lab', [])) hmode hplan
    rw [htrace] at hstart
    rcases hmoves.start_of_mem hstart with hgate | ⟨es', hes', horder⟩
    · exact .inl hgate
    · obtain rfl : es' = values := Except.ok.inj (hes'.symm.trans hforward)
      obtain ⟨⟨a, e⟩, hmem, horder⟩ := List.mem_map.mp horder
      obtain ⟨i, hi⟩ := List.mem_iff_getElem?.mp hmem
      obtain ⟨ha, he⟩ := List.getElem?_zip_eq_some.mp hi
      obtain ⟨sp, hsp, hvalue⟩ := hnear ha
      obtain rfl : e = sp.value := Option.some.inj (he.symm.trans hvalue)
      cases horder
      exact .inr ⟨i, a, sp, hsp, rfl, rfl⟩

/-! ## Example -/

/-- Every look takes 7 ns. -/
def ticking : Pace := ⟨fun _ => 7, fun _ => 0⟩

/-- The setpoint of the second axis for the position 2 of the first is 5, and it stands at 5.25. The
first axis has an outdated reading in its cache. -/
def askew : Lab Float :=
  { empty with devices := [
    .switch (Switch.make "gate" ["in", "out"] none),
    .motor { Motor.make "a" with position := 2, cache := .put 4 0 },
    .motor { Motor.make "b" with pacing := .realistic, motion := some ⟨0, 5.25, 0, 0, 0⟩ }] }

theorem replan_near_askew :
    List.Forall₂ (fun a x => askew.StandsAt a.device x)
      (Composite.pair 0 1 2 "out" Composite.in_ne_out).axes [2, 5.25] ∧
    ∃ lab' plan, (Composite.pair 0 1 2 "out" Composite.in_ne_out).read
        (controlsTo ticking 1) fresh askew = (.ok (.scalar 2), lab') ∧
      (Composite.pair 0 1 2 "out" Composite.in_ne_out).plan
        (controlsTo ticking 1) lab' (.scalar 2) = .ok plan ∧
      ∀ i < 2, ∃ a sp, lab'.Near (Composite.pair 0 1 2 "out" Composite.in_ne_out) [2, 5.25]
        plan i a sp := by
  let c := Composite.pair 0 1 2 "out" Composite.in_ne_out
  have hrest : List.Forall₂ (fun a x => askew.StandsAt a.device x) c.axes [2, 5.25] :=
    .cons ⟨_, rfl, rfl, rfl⟩ (.cons ⟨_, rfl, rfl, rfl⟩ .nil)
  have hvalue : (c.read (controlsTo ticking 1) fresh askew).1 = .ok (.scalar 2) := by
    decide +kernel
  have hread : c.read (controlsTo ticking 1) fresh askew =
      (.ok (.scalar 2), (c.read (controlsTo ticking 1) fresh askew).2) := Prod.ext hvalue rfl
  have hplanned : (c.plan (controlsTo ticking 1)
      (c.read (controlsTo ticking 1) fresh askew).2 (.scalar 2)).isOk = true := by
    decide +kernel
  cases hplan : c.plan (controlsTo ticking 1)
      (c.read (controlsTo ticking 1) fresh askew).2 (.scalar 2) with
  | error e =>
    rw [hplan] at hplanned
    cases hplanned
  | ok plan =>
    obtain ⟨-, -, hnear, -⟩ := replan_near askew _ ticking 1 c [2, 5.25] 2 plan rfl hrest
      hread hplan
    exact ⟨hrest, _, plan, hread, hplan, hnear⟩

end Lab
end Beamline
