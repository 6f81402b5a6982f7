import Beamline.Proofs.Replanning

/-!
Drafts that are built, and the indices used by what was built from them. The reconciler looks up
roles, tolerances and setpoints by their index. `Parts` is a reconciler of which nothing is known,
with these lookups in `Option`. Proved here:

* `exists_build_iff`: a draft is built if and only if it `Fits`;
* `parts_derive`, `parts_checkConsistency`, `parts_reconcile`: for the parts of a reconciler no
  lookup fails, and the results are those of the reconciler;
* `inRange`: so no lookup in a plan, a move or a read of what was built is out of range (`InRange`);
* `miscounts`: setpoints that are not one for each axis are reported before any device is asked;
* `Draft.build_fits` puts these together.
-/

namespace Beamline

variable {ι σ α : Type} [Scalar α]

/-! ## Reconciling by number -/

/-- The fields of a reconciler, with no relation between their lengths. -/
structure Parts (α : Type) where
  device : String
  transform : Transform α
  tolerances : List α

namespace Parts

def derive (p : Parts α) : Reading α → Option (Except (PositionError α) (Option α))
  | .parked => some (.ok none)
  | .positions ps => do
    let role ← p.transform.roles[p.transform.primary]?
    let actual := ps.getD p.transform.primary Scalar.nan
    let derived := p.transform.inverse actual
    if Scalar.isFinite derived then some (.ok (some derived))
    else some (.error (.undetermined p.device role actual))

def primaryError (p : Parts α) (derived : α) (ps : List α) (detail : Disagreement α) :
    Option (PositionError α) := do
  let role ← p.transform.roles[p.transform.primary]?
  let tolerance ← p.tolerances[p.transform.primary]?
  some ⟨p.device, role, derived, ps.getD p.transform.primary Scalar.nan, Scalar.nan, tolerance,
    detail⟩

/-- Compare the roles from index `i` on, with lookups that may fail, up to the first that is not
within its tolerance. -/
def compareFrom (p : Parts α) (derived : α) (es ps : List α) (i : Nat) :
    List String → Option (Except (PositionError α) Unit)
  | [] => some (.ok ())
  | role :: roles => do
    let actual := ps.getD i Scalar.nan
    let expected ← es[i]?
    let tolerance ← p.tolerances[i]?
    if Scalar.abs (actual - expected) ≤ tolerance then p.compareFrom derived es ps (i + 1) roles
    else some (.error ⟨p.device, role, derived, actual, expected, tolerance,
      .deviates actual expected tolerance⟩)

def checkConsistency (p : Parts α) (derived : α) (ps : List α) :
    Option (Except (PositionError α) Unit) :=
  match p.transform.forward derived with
  | .error e => (p.primaryError derived ps (.unreachable e)).map .error
  | .ok es =>
    if es.length = p.transform.roles.length then p.compareFrom derived es ps 0 p.transform.roles
    else (p.primaryError derived ps
      (.setpointCount es.length p.transform.roles.length)).map .error

def reconcile (p : Parts α) (reading : Reading α) :
    Option (Except (PositionError α) (Option α)) := do
  match ← p.derive reading, reading with
  | .error e, _ => some (.error e)
  | .ok (some derived), .positions ps =>
    (p.checkConsistency derived ps).map (·.map fun _ => some derived)
  | .ok derived, _ => some (.ok derived)

end Parts

namespace Reconciler

def parts (r : Reconciler α) : Parts α := ⟨r.device, r.transform, r.tolerances⟩

theorem parts_transform (r : Reconciler α) : r.parts.transform = r.transform := rfl

theorem parts_tolerances (r : Reconciler α) : r.parts.tolerances = r.tolerances := rfl

theorem primaryRole_found (r : Reconciler α) :
    r.transform.roles[r.transform.primary]? = some r.primaryRole :=
  List.getElem?_eq_getElem r.primary_lt

theorem primaryTolerance_found (r : Reconciler α) :
    r.tolerances[r.transform.primary]? = some r.primaryTolerance :=
  List.getElem?_eq_getElem (r.length_eq ▸ r.primary_lt)

theorem parts_derive (r : Reconciler α) (reading : Reading α) :
    r.parts.derive reading = some (r.derive reading) := by
  cases reading with
  | parked => rfl
  | positions ps =>
    unfold Parts.derive derive
    dsimp only
    rw [parts_transform, primaryRole_found, Option.bind_eq_bind, Option.bind_some]
    exact (apply_ite some _ _ _).symm

theorem parts_primaryError (r : Reconciler α) (derived : α) (ps : List α)
    (detail : Disagreement α) :
    r.parts.primaryError derived ps detail = some (r.primaryError derived ps detail) := by
  simp only [Parts.primaryError, parts_transform, parts_tolerances, primaryRole_found,
    primaryTolerance_found, Option.bind_eq_bind, Option.bind_some]
  rfl

/-- The result of a list of comparisons: the error of the first that fails. -/
def verdict (r : Reconciler α) (derived : α) (cs : List (Comparison α)) :
    Except (PositionError α) Unit :=
  match cs.find? fun c => !c.isWithin with
  | some c => .error (r.deviation derived c)
  | none => .ok ()

theorem verdict_cons (r : Reconciler α) (derived : α) (c : Comparison α)
    (cs : List (Comparison α)) :
    r.verdict derived (c :: cs) =
      if c.isWithin then r.verdict derived cs else .error (r.deviation derived c) := by
  unfold verdict
  rw [List.find?_cons]
  cases c.isWithin <;> rfl

theorem parts_compareFrom {r : Reconciler α} {derived : α} {es ps : List α} {i : Nat}
    {roles : List String} (hes : es.length = i + roles.length)
    (hts : r.tolerances.length = i + roles.length) :
    r.parts.compareFrom derived es ps i roles =
      some (r.verdict derived
        (Comparison.all roles (es.drop i) (r.tolerances.drop i) (ps.drop i))) := by
  induction roles generalizing i with
  | nil => rfl
  | cons role roles ih =>
    rw [List.length_cons] at hes hts
    have hi : i < es.length := by omega
    have hi' : i < r.tolerances.length := by omega
    have hactual : (ps.drop i).headD Scalar.nan = ps.getD i Scalar.nan := by
      rw [List.headD_eq_head?_getD, List.head?_drop, List.getD_eq_getElem?_getD]
    let c : Comparison α := ⟨role, ps.getD i Scalar.nan, es[i], r.tolerances[i]⟩
    have hstep : r.parts.compareFrom derived es ps i (role :: roles) =
        if c.isWithin then r.parts.compareFrom derived es ps (i + 1) roles
        else some (.error (r.deviation derived c)) := by
      rw [Parts.compareFrom, List.getElem?_eq_getElem hi, parts_tolerances,
        List.getElem?_eq_getElem hi']
      simp only [Option.bind_eq_bind, Option.bind_some, c, Comparison.isWithin, decide_eq_true_eq]
      rfl
    rw [hstep, ih (by omega) (by omega), List.drop_eq_getElem_cons hi,
      List.drop_eq_getElem_cons hi', Comparison.all, List.tail_drop, hactual, verdict_cons]
    exact (apply_ite some _ _ _).symm

theorem checkConsistency_counted {r : Reconciler α} {derived : α} {es : List α} (ps : List α)
    (hforward : r.transform.forward derived = .ok es) (hcount : es.length = r.roles.length) :
    r.checkConsistency derived ps =
      r.verdict derived (Comparison.all r.roles es r.tolerances ps) := by
  unfold checkConsistency
  rw [comparisons_eq hforward hcount]
  rfl

theorem parts_checkConsistency (r : Reconciler α) (derived : α) (ps : List α) :
    r.parts.checkConsistency derived ps = some (r.checkConsistency derived ps) := by
  unfold Parts.checkConsistency
  simp only [parts_primaryError, Option.map_some, parts_transform,
    show r.transform.roles = r.roles from rfl]
  cases hforward : r.transform.forward derived with
  | error e => rw [checkConsistency_unreachable ps hforward]
  | ok es =>
    dsimp only
    by_cases hcount : es.length = r.roles.length
    · have hes : es.length = 0 + r.roles.length := by rw [hcount, Nat.zero_add]
      have hts : r.tolerances.length = 0 + r.roles.length := by
        rw [r.length_eq, Nat.zero_add, roles]
      rw [if_pos hcount, checkConsistency_counted ps hforward hcount, parts_compareFrom hes hts]
      rfl
    · rw [if_neg hcount, checkConsistency_miscounted ps hforward hcount]

theorem parts_reconcile (r : Reconciler α) (reading : Reading α) :
    r.parts.reconcile reading = some (r.reconcile reading) := by
  unfold Parts.reconcile reconcile
  rw [parts_derive, Option.bind_eq_bind, Option.bind_some]
  rcases r.derive reading with e | derived
  · rfl
  · cases reading with
    | parked => cases derived <;> rfl
    | positions ps =>
      cases derived with
      | none => rfl
      | some derived =>
        dsimp only
        rw [parts_checkConsistency]
        rfl

theorem parts_of_make {device : String} {transform : Transform α} {tolerances : List α}
    {r : Reconciler α} (h : make device transform tolerances = .ok r) :
    r.parts = ⟨device, transform, tolerances⟩ := by
  obtain ⟨rfl, rfl, rfl⟩ := fields_of_make h
  rfl

end Reconciler

/-! ## Drafts that are built -/

namespace Draft

/-- The conditions on a draft that `build` checks. -/
structure Fits (d : Draft ι α) : Prop where
  roles : d.axes.map (·.1.role) = d.transform.roles
  some_role : d.transform.roles ≠ []
  primary : d.transform.primary < d.transform.roles.length
  limits : d.limits.min ≤ d.limits.max
  tolerances : ∀ a ∈ d.axes, Scalar.isFinite a.2 = true ∧ 0 ≤ a.2
  states : ∀ g ∈ d.gate, g.active ≠ g.parked

theorem build_keeps {d : Draft ι α} {c : Composite ι α} (h : d.build = .ok c) :
    c.name = d.name ∧ c.axes = d.axes.map (·.1) ∧ c.gate = d.gate ∧ c.limits = d.limits ∧
      c.reconciler.parts = ⟨d.name, d.transform, d.axes.map (·.2)⟩ := by
  unfold build at h
  simp only at h
  split at h
  · split at h
    · cases h
    · split at h
      · split at h
        · cases h
        · split at h
          · cases h
          · rename_i hmake
            cases h
            exact ⟨rfl, rfl, rfl, rfl, Reconciler.parts_of_make hmake⟩
      · cases h
  · cases h

theorem fits_of_build {d : Draft ι α} {c : Composite ι α} (h : d.build = .ok c) : d.Fits := by
  obtain ⟨-, haxes, hgate, hlimits, hparts⟩ := build_keeps h
  obtain ⟨-, htransform, htolerances⟩ := Parts.mk.inj hparts
  have hprimary := htransform ▸ c.reconciler.primary_lt
  have hroles : c.axes.map (·.role) = c.reconciler.transform.roles := c.axes_roles
  rw [haxes, htransform, List.map_map] at hroles
  refine ⟨hroles, List.ne_nil_of_length_pos (Nat.zero_lt_of_lt hprimary), hprimary, ?_, ?_, ?_⟩
  · exact Limits.isOrdered_iff.mp (hlimits ▸ c.limits_ordered)
  · intro a ha
    have hmem : a.2 ∈ c.reconciler.tolerances := htolerances ▸ List.mem_map_of_mem ha
    exact isTolerance_iff.mp (c.reconciler.tolerances_ok a.2 hmem)
  · exact hgate ▸ c.gate_states

theorem exists_build_iff (d : Draft ι α) : (∃ c, d.build = .ok c) ↔ d.Fits := by
  constructor
  · rintro ⟨c, hc⟩
    exact fits_of_build hc
  · intro h
    rcases build_cases h.roles h.primary (Limits.isOrdered_iff.mpr h.limits) h.states with
      ⟨-, c, hc, -⟩ | ⟨-, a, ha, hbad, -⟩
    · exact ⟨c, hc⟩
    · rw [isTolerance_iff.mpr (h.tolerances a ha)] at hbad
      cases hbad

end Draft

theorem not_le_of_isNaN_right {x y : Float} (h : y.isNaN = true) : ¬ x ≤ y := by
  intro hle
  have hmodel : x.toModel.unpack.le y.toModel.unpack = true := of_decide_eq_true hle
  rw [unpack_of_isNaN h] at hmodel
  cases hx : x.toModel.unpack <;> rw [hx] at hmodel <;> cases hmodel

theorem Limits.isNaN_of_ordered {l : Limits Float} (h : l.min ≤ l.max) :
    l.min.isNaN = false ∧ l.max.isNaN = false := by
  constructor
  · exact Bool.eq_false_iff.mpr fun hnan => not_le_of_isNaN hnan h
  · exact Bool.eq_false_iff.mpr fun hnan => not_le_of_isNaN_right hnan h

namespace Composite

/-! ## Indices in range -/

/-- No lookup by index fails: with lookups in `Option`, reconciling has some result, the same one.
Also, the lists that are gone through together have the same lengths: positions, setpoints and
roles. -/
structure InRange (c : Composite ι α) : Prop where
  derive (reading : Reading α) :
    c.reconciler.parts.derive reading = some (c.reconciler.derive reading)
  check (x : α) (ps : List α) :
    c.reconciler.parts.checkConsistency x ps = some (c.reconciler.checkConsistency x ps)
  reconcile (reading : Reading α) :
    c.reconciler.parts.reconcile reading = some (c.reconciler.reconcile reading)
  read {σ : Type} {k : Controls ι σ α} {maxAge : Nat} {s : σ} {reading : Reading α} :
    c.mode = .master → (c.readRaw k maxAge s).1 = .ok reading →
      ∃ answer, c.reconciler.parts.reconcile reading = some answer ∧
        (c.read k maxAge s).1 = match answer with
          | .error e => .error (.position e)
          | .ok x => .ok (.ofOption x)
  positions {σ : Type} {k : Controls ι σ α} {maxAge : Nat} {s : σ} {ps : List α} :
    (c.readRaw k maxAge s).1 = .ok (.positions ps) → ps.length = c.reconciler.roles.length
  setpoints {σ : Type} {k : Controls ι σ α} {s : σ} {x : α} {p : Plan α} :
    c.plan k s (.scalar x) = .ok p → p.setpoints.map (·.role) = c.reconciler.roles

omit [Scalar α] in
theorem roles_of_planAxes {k : Controls ι σ α} {s : σ} {axes : List (Axis ι)} {values : List α}
    {sps : List (Setpoint α)} (hlen : values.length = axes.length)
    (h : planAxes k s axes values = .ok sps) : sps.map (·.role) = axes.map (·.role) := by
  rw [planAxes_eq hlen h, List.map_zipWith, ← List.map_uncurry_zip_eq_zipWith]
  change (axes.zip values).map (Axis.role ∘ Prod.fst) = _
  rw [← List.map_map, List.map_fst_zip (Nat.le_of_eq hlen.symm)]

theorem inRange (c : Composite ι α) : c.InRange where
  derive := c.reconciler.parts_derive
  check := c.reconciler.parts_checkConsistency
  reconcile := c.reconciler.parts_reconcile
  read hmode hraw := ⟨_, c.reconciler.parts_reconcile _, by rw [read_fst hmode, hraw]; rfl⟩
  positions h := by rw [length_of_readAxes (readAxes_of_readRaw h), c.axes_length]
  setpoints h := by
    obtain ⟨values, -, hvalues, hplan, -⟩ := plan_scalar_ok h
    rw [roles_of_planAxes (setpointValues_ok hvalues).2 hplan, c.axes_roles]

/-! ## Too few setpoints, or too many -/

/-- `forward x` gives `n` setpoints, where `n` is not the number of axes. A plan for `x` and a
reading that stands for `x` fail with an error that has both numbers, and a move to `x` asks no
device. -/
structure Miscounts (c : Composite ι α) (x : α) (n : Nat) : Prop where
  plan {σ : Type} (k : Controls ι σ α) (s : σ) : c.checkTarget (.scalar x) = .ok () →
    c.plan k s (.scalar x) = .error (.configuration (.setpointCount c.name n c.axes.length))
  move {σ : Type} (k : Controls ι σ α) (s : σ) :
    ∃ e, c.plan k s (.scalar x) = .error e ∧ c.moveTo k (.scalar x) s = (.error e, s)
  check (ps : List α) : c.reconciler.checkConsistency x ps =
    .error (c.reconciler.primaryError x ps (.setpointCount n c.reconciler.roles.length))
  reconcile (ps : List α) : c.reconciler.derive (.positions ps) = .ok (some x) →
    c.reconciler.reconcile (.positions ps) =
      .error (c.reconciler.primaryError x ps (.setpointCount n c.reconciler.roles.length))

theorem miscounts {c : Composite ι α} {x : α} {es : List α}
    (hforward : c.reconciler.transform.forward x = .ok es) (hcount : es.length ≠ c.axes.length) :
    c.Miscounts x es.length := by
  have hplan : ∀ {σ : Type} (k : Controls ι σ α) (s : σ), c.checkTarget (.scalar x) = .ok () →
      c.plan k s (.scalar x) =
        .error (.configuration (.setpointCount c.name es.length c.axes.length)) := by
    intro σ k s htarget
    have hvalues : c.setpointValues x =
        .error (.configuration (.setpointCount c.name es.length c.axes.length)) := by
      simp only [setpointValues, hforward, if_neg hcount]
    exact except_bind_eq_error.mpr
      (.inr ⟨(), htarget, except_bind_eq_error.mpr (.inl hvalues)⟩)
  have hcheck : ∀ ps, c.reconciler.checkConsistency x ps = .error (c.reconciler.primaryError x ps
      (.setpointCount es.length c.reconciler.roles.length)) := fun ps =>
    Reconciler.checkConsistency_miscounted ps hforward (c.axes_length ▸ hcount)
  refine ⟨hplan, fun k s => ?_, hcheck, fun ps hderive => ?_⟩
  · obtain ⟨e, he⟩ : ∃ e, c.plan k s (.scalar x) = .error e := by
      cases htarget : c.checkTarget (.scalar x) with
      | error e => exact ⟨e, except_bind_eq_error.mpr (.inl htarget)⟩
      | ok => exact ⟨_, hplan k s htarget⟩
    exact ⟨e, he, moveTo_of_plan_error he⟩
  · unfold Reconciler.reconcile
    rw [hderive]
    dsimp only
    rw [hcheck ps]
    rfl

end Composite

/-- **What fits is built, and its indices are in range.** A draft is built if and only if it `Fits`;
its limits are then not NaN. What is built is `InRange`, for any number of positions and whatever
`forward` gives; and it `Miscounts` each `x` for which that is not one setpoint for each axis. -/
theorem Draft.build_fits (d : Draft ι Float) :
    ((∃ c, d.build = .ok c) ↔ d.Fits) ∧
      (d.Fits → d.limits.min.isNaN = false ∧ d.limits.max.isNaN = false) ∧
      ∀ c, d.build = .ok c → c.InRange ∧
        ∀ x es, d.transform.forward x = .ok es → es.length ≠ c.axes.length →
          c.Miscounts x es.length := by
  refine ⟨d.exists_build_iff, fun h => Limits.isNaN_of_ordered h.limits, fun c hc => ?_⟩
  refine ⟨c.inRange, fun x es hforward hcount => Composite.miscounts ?_ hcount⟩
  obtain ⟨-, htransform, -⟩ := Parts.mk.inj (build_keeps hc).2.2.2.2
  rw [htransform, hforward]

/-- Two axes, with a transform that gives one setpoint. -/
theorem Draft.build_fits_scant :
    ∃ c, Draft.build (⟨"slit", "mm", ⟨["gap", "center"], 1, fun x => .ok [x], id⟩, none, none,
      [(⟨"gap", 0⟩, 0.01), (⟨"center", 1⟩, 0.01)], ⟨0, 5⟩, .master⟩ : Draft Nat Float) = .ok c ∧
      c.InRange ∧ c.Miscounts 2 1 := by
  let d : Draft Nat Float := ⟨"slit", "mm", ⟨["gap", "center"], 1, fun x => .ok [x], id⟩, none,
    none, [(⟨"gap", 0⟩, 0.01), (⟨"center", 1⟩, 0.01)], ⟨0, 5⟩, .master⟩
  obtain ⟨hbuild, -, hlists⟩ := Draft.build_fits d
  have hfits : d.Fits := by
    refine ⟨rfl, by decide, by decide, by decide, ?_, by simp [d]⟩
    decide
  obtain ⟨c, hc⟩ := hbuild.mpr hfits
  obtain ⟨hrange, hcounts⟩ := hlists c hc
  refine ⟨c, hc, hrange, hcounts 2 [2] rfl ?_⟩
  rw [(build_keeps hc).2.1]
  decide

end Beamline
