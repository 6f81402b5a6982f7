import Beamline.Proofs.Dispatch

/-!
`Reconciler.reconcile`, for any transform and any lists of positions, tolerances and setpoints. Of
the numbers it is assumed that NaN is kept by differences and `abs` and is below nothing
(`LawfulNaN`, which is proved of binary64). Proved here:

* `isWithin_iff`, `find?_comparison_eq_some`: the comparison that fails first, in terms of indices;
* `reconcile_some_iff`: which positions are reconciled to a number;
* `reconcile_error_iff`: which error others have (`Fails`);
* `reconcile_none_iff`: `.ok none` is the result for `.parked` only;
* `reconcile_exact` puts these together.
-/

namespace Beamline

/-! ## Missing positions -/

class LawfulNaN (α : Type) [Scalar α] : Prop where
  isNaN_nan : Scalar.isNaN (Scalar.nan : α) = true
  isNaN_sub_left (x y : α) : Scalar.isNaN x = true → Scalar.isNaN (x - y) = true
  isNaN_sub_right (x y : α) : Scalar.isNaN y = true → Scalar.isNaN (x - y) = true
  isNaN_abs (x : α) : Scalar.isNaN x = true → Scalar.isNaN (Scalar.abs x) = true
  not_le (x y : α) : Scalar.isNaN x = true → ¬ x ≤ y

theorem unpack_of_isNaN {x : Float} (h : x.isNaN = true) : x.toModel.unpack = .notANumber := by
  have hu : x.toModel.unpack.isNaN = true := h
  cases hx : x.toModel.unpack with
  | notANumber => rfl
  | infinity s => rw [hx] at hu; cases hu
  | zero s => rw [hx] at hu; cases hu
  | finite s m e hm => rw [hx] at hu; cases hu

theorem isNaN_packed : (Float.ofModel (.pack .notANumber)).isNaN = true := by decide

theorem sub_notANumber (format : Float.Model.Format) (u : Float.Model.UnpackedFloat) :
    u.sub format .notANumber = .notANumber := by
  cases u <;> rfl

theorem isNaN_sub {x y : Float} (h : x.isNaN = true ∨ y.isNaN = true) :
    (x - y).isNaN = true := by
  have hsub : x.toModel.unpack.sub .binary64 y.toModel.unpack = .notANumber := by
    rcases h with h | h
    · rw [unpack_of_isNaN h]
      rfl
    · rw [unpack_of_isNaN h]
      exact sub_notANumber _ _
  have hpack : x - y = .ofModel (.pack .notANumber) :=
    congrArg (fun u => Float.ofModel (.pack u)) hsub
  rw [hpack]
  exact isNaN_packed

theorem isNaN_abs {x : Float} (h : x.isNaN = true) : x.abs.isNaN = true := by
  have hpack : x.abs = .ofModel (.pack .notANumber) :=
    congrArg (fun u => Float.ofModel (.pack (Float.Model.UnpackedFloat.abs u))) (unpack_of_isNaN h)
  rw [hpack]
  exact isNaN_packed

theorem not_le_of_isNaN {x y : Float} (h : x.isNaN = true) : ¬ x ≤ y := by
  intro hle
  have hmodel : x.toModel.unpack.le y.toModel.unpack = true := of_decide_eq_true hle
  rw [unpack_of_isNaN h] at hmodel
  cases hmodel

instance : LawfulNaN Float where
  isNaN_nan := by decide
  isNaN_sub_left _ _ h := isNaN_sub (.inl h)
  isNaN_sub_right _ _ h := isNaN_sub (.inr h)
  isNaN_abs _ h := isNaN_abs h
  not_le _ _ h := not_le_of_isNaN h

variable {α : Type} [Scalar α]

theorem not_within_of_isNaN [LawfulNaN α] {p e t : α}
    (h : Scalar.isNaN p = true ∨ Scalar.isNaN e = true) : ¬ Scalar.abs (p - e) ≤ t := by
  have hsub : Scalar.isNaN (p - e) = true := by
    rcases h with h | h
    · exact LawfulNaN.isNaN_sub_left p e h
    · exact LawfulNaN.isNaN_sub_right p e h
  exact LawfulNaN.not_le _ t (LawfulNaN.isNaN_abs _ hsub)

/-! ## Comparisons by index -/

/-- Positions that are missing are compared as NaN. -/
theorem Comparison.getElem?_all {roles : List String} {es ts ps : List α} {i : Nat}
    {c : Comparison α} :
    (all roles es ts ps)[i]? = some c ↔ ∃ role e t, roles[i]? = some role ∧ es[i]? = some e ∧
      ts[i]? = some t ∧ c = ⟨role, ps.getD i Scalar.nan, e, t⟩ := by
  induction roles generalizing es ts ps i with
  | nil => simp [all]
  | cons role roles ih =>
    cases es with
    | nil => simp [all]
    | cons e es =>
      cases ts with
      | nil => simp [all]
      | cons t ts =>
        cases i with
        | zero => cases ps <;> simp [all, eq_comm]
        | succ i => cases ps <;> simp [all, ih]

theorem Comparison.length_all {roles : List String} {es ts : List α}
    (he : es.length = roles.length) (ht : ts.length = roles.length) (ps : List α) :
    (all roles es ts ps).length = roles.length := by
  induction roles generalizing es ts ps with
  | nil => simp [all]
  | cons role roles ih =>
    obtain ⟨e, es, rfl⟩ := List.exists_cons_of_length_eq_add_one he
    obtain ⟨t, ts, rfl⟩ := List.exists_cons_of_length_eq_add_one ht
    simp only [all, List.length_cons, Nat.add_right_cancel_iff]
    exact ih (by simpa using he) (by simpa using ht) ps.tail

namespace Reconciler

variable {r : Reconciler α} {es ps : List α} {d : α} {i : Nat}

/-- The `i`-th position is there, and differs from the `i`-th setpoint by at most the tolerance. -/
def Within (r : Reconciler α) (es ps : List α) (i : Nat) : Prop :=
  ∃ p e t, ps[i]? = some p ∧ es[i]? = some e ∧ r.tolerances[i]? = some t ∧
    Scalar.abs (p - e) ≤ t

/-- The errors of positions whose primary one has the number `d`. -/
inductive Disagrees (r : Reconciler α) (ps : List α) (d : α) : PositionError α → Prop
  | unreachable {e : TransformError α} (hforward : r.transform.forward d = .error e) :
      Disagrees r ps d ⟨r.device, r.primaryRole, d, r.primaryPosition ps, Scalar.nan,
        r.primaryTolerance, .unreachable e⟩
  | miscounted {es : List α} (hforward : r.transform.forward d = .ok es)
      (hcount : es.length ≠ r.roles.length) :
      Disagrees r ps d ⟨r.device, r.primaryRole, d, r.primaryPosition ps, Scalar.nan,
        r.primaryTolerance, .setpointCount es.length r.roles.length⟩
  /-- The first role that is not `Within`, with all that was compared there. -/
  | deviates {es : List α} {i : Nat} {role : String} {e t : α}
      (hforward : r.transform.forward d = .ok es) (hcount : es.length = r.roles.length)
      (hrole : r.roles[i]? = some role) (hsetpoint : es[i]? = some e)
      (htolerance : r.tolerances[i]? = some t)
      (hbefore : ∀ j < i, r.Within es ps j) (hout : ¬ r.Within es ps i) :
      Disagrees r ps d ⟨r.device, role, d, ps.getD i Scalar.nan, e, t,
        .deviates (ps.getD i Scalar.nan) e t⟩

/-- The errors of positions, by the step of `reconcile` that fails. -/
inductive Fails (r : Reconciler α) (ps : List α) : PositionError α → Prop
  | undetermined (h : Scalar.isFinite (r.transform.inverse (r.primaryPosition ps)) = false) :
      Fails r ps ⟨r.device, r.primaryRole, Scalar.nan, r.primaryPosition ps, Scalar.nan, 0,
        .undetermined⟩
  | disagrees {e : PositionError α}
      (hfinite : Scalar.isFinite (r.transform.inverse (r.primaryPosition ps)) = true)
      (h : r.Disagrees ps (r.transform.inverse (r.primaryPosition ps)) e) : Fails r ps e

theorem isWithin_iff [LawfulNaN α] {c : Comparison α}
    (hc : (Comparison.all r.roles es r.tolerances ps)[i]? = some c) :
    c.isWithin = true ↔ r.Within es ps i := by
  obtain ⟨role, e, t, -, he, ht, rfl⟩ := Comparison.getElem?_all.mp hc
  cases hp : ps[i]? with
  | some p => simp [Comparison.isWithin, Within, hp, he, ht]
  | none =>
    have hnan := not_within_of_isNaN (e := e) (t := t) (.inl (LawfulNaN.isNaN_nan (α := α)))
    simp [Comparison.isWithin, Within, hp, hnan]

theorem position_of_within [LawfulNaN α] (h : r.Within es ps i) :
    ∃ p, ps[i]? = some p ∧ Scalar.isNaN p = false := by
  obtain ⟨p, e, t, hp, -, -, hle⟩ := h
  refine ⟨p, hp, ?_⟩
  cases hnan : Scalar.isNaN p with
  | false => rfl
  | true => exact absurd hle (not_within_of_isNaN (.inl hnan))

theorem find?_comparison_eq_none [LawfulNaN α] (hcount : es.length = r.roles.length) :
    (Comparison.all r.roles es r.tolerances ps).find? (fun c => !c.isWithin) = none ↔
      ∀ i < r.roles.length, r.Within es ps i := by
  rw [List.find?_eq_none]
  constructor
  · intro h i hi
    have hc := List.getElem?_eq_getElem (Comparison.length_all hcount r.length_eq ps ▸ hi)
    exact (isWithin_iff hc).mp (by simpa using h _ (List.getElem_mem _))
  · intro h c hc
    obtain ⟨i, hi⟩ := List.mem_iff_getElem?.mp hc
    have hlt := Comparison.length_all hcount r.length_eq ps ▸ (List.getElem?_eq_some_iff.mp hi).1
    simpa using (isWithin_iff hi).mpr (h i hlt)

theorem find?_comparison_eq_some [LawfulNaN α] {c : Comparison α} :
    (Comparison.all r.roles es r.tolerances ps).find? (fun c => !c.isWithin) = some c ↔
      ∃ i, (Comparison.all r.roles es r.tolerances ps)[i]? = some c ∧
        (∀ j < i, r.Within es ps j) ∧ ¬ r.Within es ps i := by
  rw [List.find?_eq_some_iff_getElem]
  constructor
  · rintro ⟨hout, i, hi, hc, hbefore⟩
    have hget := List.getElem?_eq_some_iff.mpr ⟨hi, hc⟩
    refine ⟨i, hget, ?_, ?_⟩
    · intro j hj
      exact (isWithin_iff (List.getElem?_eq_getElem (Nat.lt_trans hj hi))).mp
        (by simpa using hbefore j hj)
    · rw [← isWithin_iff hget]
      simpa using hout
  · rintro ⟨i, hget, hbefore, hout⟩
    obtain ⟨hi, hc⟩ := List.getElem?_eq_some_iff.mp hget
    refine ⟨?_, i, hi, hc, ?_⟩
    · simpa using mt (isWithin_iff hget).mp hout
    · intro j hj
      simpa using (isWithin_iff (List.getElem?_eq_getElem (Nat.lt_trans hj hi))).mpr (hbefore j hj)

/-! ## All roles -/

theorem comparisons_eq (hforward : r.transform.forward d = .ok es)
    (hcount : es.length = r.roles.length) :
    r.comparisons d ps = .ok (Comparison.all r.roles es r.tolerances ps) := by
  simp only [comparisons, hforward, if_pos hcount]

theorem checkConsistency_unreachable {e : TransformError α} (ps : List α)
    (hforward : r.transform.forward d = .error e) :
    r.checkConsistency d ps = .error (r.primaryError d ps (.unreachable e)) := by
  simp only [checkConsistency, comparisons, hforward]

theorem checkConsistency_miscounted (ps : List α) (hforward : r.transform.forward d = .ok es)
    (hcount : es.length ≠ r.roles.length) :
    r.checkConsistency d ps =
      .error (r.primaryError d ps (.setpointCount es.length r.roles.length)) := by
  simp only [checkConsistency, comparisons, hforward, if_neg hcount]

theorem checkConsistency_ok_iff [LawfulNaN α] :
    r.checkConsistency d ps = .ok () ↔ ∃ es, r.transform.forward d = .ok es ∧
      es.length = r.roles.length ∧ ∀ i < r.roles.length, r.Within es ps i := by
  cases hforward : r.transform.forward d with
  | error e => simp [checkConsistency_unreachable ps hforward]
  | ok es =>
    by_cases hcount : es.length = r.roles.length
    · simp only [Except.ok.injEq, exists_eq_left', hcount, true_and]
      rw [← find?_comparison_eq_none hcount]
      simp only [checkConsistency, comparisons_eq hforward hcount]
      cases (Comparison.all r.roles es r.tolerances ps).find? fun c => !c.isWithin <;> simp
    · simp [checkConsistency_miscounted ps hforward hcount, hcount]

theorem disagrees_of_checkConsistency [LawfulNaN α] {e : PositionError α}
    (h : r.checkConsistency d ps = .error e) : r.Disagrees ps d e := by
  cases hforward : r.transform.forward d with
  | error e₀ =>
    rw [checkConsistency_unreachable ps hforward] at h
    cases h
    exact .unreachable hforward
  | ok es =>
    by_cases hcount : es.length = r.roles.length
    · simp only [checkConsistency, comparisons_eq hforward hcount] at h
      cases hfind : (Comparison.all r.roles es r.tolerances ps).find? fun c => !c.isWithin with
      | none =>
        rw [hfind] at h
        cases h
      | some c =>
        rw [hfind] at h
        cases h
        obtain ⟨i, hc, hbefore, hout⟩ := find?_comparison_eq_some.mp hfind
        obtain ⟨role, e, t, hrole, he, ht, rfl⟩ := Comparison.getElem?_all.mp hc
        exact .deviates hforward hcount hrole he ht hbefore hout
    · rw [checkConsistency_miscounted ps hforward hcount] at h
      cases h
      exact .miscounted hforward hcount

theorem checkConsistency_of_disagrees [LawfulNaN α] {e : PositionError α}
    (h : r.Disagrees ps d e) : r.checkConsistency d ps = .error e := by
  cases h with
  | unreachable hforward => exact checkConsistency_unreachable ps hforward
  | miscounted hforward hcount => exact checkConsistency_miscounted ps hforward hcount
  | deviates hforward hcount hrole he ht hbefore hout =>
    have hc : (Comparison.all r.roles _ r.tolerances ps)[_]? = some _ :=
      Comparison.getElem?_all.mpr ⟨_, _, _, hrole, he, ht, rfl⟩
    have hfind := find?_comparison_eq_some.mpr ⟨_, hc, hbefore, hout⟩
    simp only [checkConsistency, comparisons_eq hforward hcount, hfind, deviation]

theorem reconcile_positions (hfinite :
    Scalar.isFinite (r.transform.inverse (r.primaryPosition ps)) = true) :
    r.reconcile (.positions ps) =
      (r.checkConsistency (r.transform.inverse (r.primaryPosition ps)) ps).map
        fun _ => some (r.transform.inverse (r.primaryPosition ps)) := by
  simp only [reconcile, derive, hfinite, if_true]

theorem reconcile_undetermined (hfinite :
    Scalar.isFinite (r.transform.inverse (r.primaryPosition ps)) = false) :
    r.reconcile (.positions ps) =
      .error ⟨r.device, r.primaryRole, Scalar.nan, r.primaryPosition ps, Scalar.nan, 0,
        .undetermined⟩ := by
  simp only [reconcile, derive, hfinite, Bool.false_eq_true, if_false, PositionError.undetermined]

theorem reconcile_none_iff {reading : Reading α} :
    r.reconcile reading = .ok none ↔ reading = .parked := by
  cases reading with
  | parked => simp [reconcile, derive]
  | positions ps =>
    cases hfinite : Scalar.isFinite (r.transform.inverse (r.primaryPosition ps)) with
    | true =>
      rw [reconcile_positions hfinite, except_map_eq_ok]
      simp
    | false => simp [reconcile_undetermined hfinite]

theorem reconcile_some_iff [LawfulNaN α] :
    r.reconcile (.positions ps) = .ok (some d) ↔
      d = r.transform.inverse (ps.getD r.transform.primary Scalar.nan) ∧
      Scalar.isFinite d = true ∧ ∃ es, r.transform.forward d = .ok es ∧
        es.length = r.roles.length ∧ ∀ i < r.roles.length, r.Within es ps i := by
  change _ ↔ d = r.transform.inverse (r.primaryPosition ps) ∧ _
  rw [← checkConsistency_ok_iff]
  cases hfinite : Scalar.isFinite (r.transform.inverse (r.primaryPosition ps)) with
  | true =>
    rw [reconcile_positions hfinite, except_map_eq_ok]
    constructor
    · rintro ⟨⟨⟩, hcheck, hd⟩
      cases hd
      exact ⟨rfl, hfinite, hcheck⟩
    · rintro ⟨rfl, -, hcheck⟩
      exact ⟨(), hcheck, rfl⟩
  | false =>
    rw [reconcile_undetermined hfinite]
    constructor
    · rintro ⟨⟩
    · rintro ⟨rfl, h, -⟩
      rw [hfinite] at h
      cases h

theorem reconcile_error_iff [LawfulNaN α] {e : PositionError α} :
    r.reconcile (.positions ps) = .error e ↔ r.Fails ps e := by
  cases hfinite : Scalar.isFinite (r.transform.inverse (r.primaryPosition ps)) with
  | true =>
    rw [reconcile_positions hfinite, except_map_eq_error]
    constructor
    · intro h
      exact .disagrees hfinite (disagrees_of_checkConsistency h)
    · rintro (h | ⟨-, h⟩)
      · rw [hfinite] at h
        cases h
      · exact checkConsistency_of_disagrees h
  | false =>
    rw [reconcile_undetermined hfinite]
    constructor
    · rintro ⟨⟩
      exact .undetermined hfinite
    · rintro (h | ⟨h, -⟩)
      · rfl
      · rw [hfinite] at h
        cases h

/-- **Exact reconciliation.** For any reconciler and any list of positions: they are reconciled to
`d` if and only if `d` is `inverse` of the primary position and finite, and `forward d` has one
setpoint for each role, all of them `Within`. Then every role has a position that is not NaN. The
result is an error if and only if it `Fails` with that error, and `.ok none` if and only if the
reading is `.parked`. -/
theorem reconcile_exact [LawfulNaN α] (r : Reconciler α) (ps : List α) :
    (∀ d, r.reconcile (.positions ps) = .ok (some d) ↔
      d = r.transform.inverse (ps.getD r.transform.primary Scalar.nan) ∧
      Scalar.isFinite d = true ∧ ∃ es, r.transform.forward d = .ok es ∧
        es.length = r.roles.length ∧ ∀ i < r.roles.length, r.Within es ps i) ∧
    (∀ d, r.reconcile (.positions ps) = .ok (some d) →
      ∀ i < r.roles.length, ∃ p, ps[i]? = some p ∧ Scalar.isNaN p = false) ∧
    (∀ e, r.reconcile (.positions ps) = .error e ↔ r.Fails ps e) ∧
    ∀ reading, r.reconcile reading = .ok none ↔ reading = .parked := by
  refine ⟨fun d => reconcile_some_iff, ?_, fun e => reconcile_error_iff,
    fun reading => reconcile_none_iff⟩
  intro d h i hi
  obtain ⟨-, -, es, -, -, hwithin⟩ := reconcile_some_iff.mp h
  exact position_of_within (hwithin i hi)

/-- The second position is missing, and the error names its role. -/
theorem reconcile_exact_short :
    LawfulNaN Float ∧ Composite.pairReconciler.Fails [2]
      ⟨"pair", "b", 2, Scalar.nan, 5, 0.5, .deviates Scalar.nan 5 0.5⟩ := by
  obtain ⟨-, -, herror, -⟩ := reconcile_exact Composite.pairReconciler [2]
  have hrun : Composite.pairReconciler.reconcile (.positions [2]) =
      .error ⟨"pair", "b", 2, Scalar.nan, 5, 0.5, .deviates Scalar.nan 5 0.5⟩ := by
    decide +kernel
  exact ⟨inferInstance, (herror _).mp hrun⟩

end Reconciler
end Beamline
