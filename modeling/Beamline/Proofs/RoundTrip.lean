import Beamline.Geometry.Bragg
import Beamline.Geometry.DoubleCrystal
import Beamline.Proofs.ReadBack
import Mathlib.Analysis.SpecialFunctions.Trigonometric.Inverse

/-!
The code of the geometries `DoubleCrystal` and `Bragg`, at the real numbers (`Exact`) with angles in
degrees. Proved here, for wavelengths up to the cutoff of each crystal:

* `DoubleCrystal.inverse_forward`, `Bragg.inverse_forward`: `inverse` of the primary setpoint for a
  wavelength is that wavelength;
* `DoubleCrystal.forward_inverse`, `Bragg.forward_inverse`: the primary setpoint for `inverse p` is
  `p`;
* `geometries_round_trip`: so the reconciler reads the setpoints for `v` as `v` with all tolerances
  (`ReadsBack`), and a primary position is kept (`Retraces`).
-/

namespace Beamline

@[ext]
structure Exact where
  val : ℝ

namespace Exact

/-- `nan` is 0, which no geometry accepts as a wavelength. -/
noncomputable instance : Scalar Exact where
  add x y := ⟨x.val + y.val⟩
  sub x y := ⟨x.val - y.val⟩
  mul x y := ⟨x.val * y.val⟩
  div x y := ⟨x.val / y.val⟩
  le x y := x.val ≤ y.val
  lt x y := x.val < y.val
  decideLE _ _ := Classical.propDecidable _
  decideLT _ _ := Classical.propDecidable _
  abs x := ⟨|x.val|⟩
  ofNat n := ⟨n⟩
  nan := ⟨0⟩
  infinity := ⟨0⟩
  negInfinity := ⟨0⟩
  isNaN _ := false
  isFinite _ := true
  seconds n := ⟨n / 10 ^ 9⟩
  nanoseconds? x := if x.val < 0 then none else some ⌊x.val * 10 ^ 9⌋₊
  draw k := ⟨k / 2 ^ 53⟩
  text _ := ""
  fixed _ _ := ""

/-- `tan` is 0 at 90 degrees, and so is a quotient by it, as is the custom for the reals. -/
noncomputable instance : Angles Exact where
  arcsin x := ⟨Real.arcsin x.val * (180 / Real.pi)⟩
  sin x := ⟨Real.sin (x.val * (Real.pi / 180))⟩
  cos x := ⟨Real.cos (x.val * (Real.pi / 180))⟩
  tan x := ⟨Real.tan (x.val * (Real.pi / 180))⟩

variable {x y : Exact}

theorem val_sub (x y : Exact) : (x - y).val = x.val - y.val := rfl

theorem val_mul (x y : Exact) : (x * y).val = x.val * y.val := rfl

theorem val_abs (x : Exact) : (Scalar.abs x).val = |x.val| := rfl

theorem val_zero : (0 : Exact).val = 0 := Nat.cast_zero

theorem val_one : (1 : Exact).val = 1 := Nat.cast_one

theorem le_iff : x ≤ y ↔ x.val ≤ y.val := Iff.rfl

theorem lt_iff : x < y ↔ x.val < y.val := Iff.rfl

theorem pos_iff : 0 < x ↔ 0 < x.val := by
  rw [lt_iff, val_zero]

protected theorem le_of_lt (h : x < y) : x ≤ y := LT.lt.le (lt_iff.mp h)

/-! ## Angles

Three laws, and on which side of zero and of the right angle sines and arcsines are. Nothing else
about angles is used below, and nothing at all about tangents. -/

theorem sin_arcsin (h : |x.val| ≤ 1) : Angles.sin (Angles.arcsin x) = x := by
  have hpi := Real.pi_pos.ne'
  obtain ⟨hlo, hhi⟩ := abs_le.mp h
  ext
  change Real.sin (Real.arcsin x.val * (180 / Real.pi) * (Real.pi / 180)) = x.val
  rw [mul_assoc, show 180 / Real.pi * (Real.pi / 180) = 1 by field_simp, mul_one,
    Real.sin_arcsin hlo hhi]

theorem arcsin_sin (h : |y.val| ≤ 90) : Angles.arcsin (Angles.sin y) = y := by
  have hpi := Real.pi_pos
  obtain ⟨hlo, hhi⟩ := abs_le.mp h
  ext
  change Real.arcsin (Real.sin (y.val * (Real.pi / 180))) * (180 / Real.pi) = y.val
  rw [Real.arcsin_sin (by nlinarith) (by nlinarith)]
  field_simp

theorem cos_complement (y : Exact) : Angles.cos (90 - y) = Angles.sin y := by
  ext
  change Real.cos ((90 - y.val) * (Real.pi / 180)) = Real.sin (y.val * (Real.pi / 180))
  rw [← Real.cos_pi_div_two_sub]
  congr 1
  ring

theorem sin_mem (hpos : 0 < y.val) (hle : y.val ≤ 90) :
    0 < (Angles.sin y).val ∧ (Angles.sin y).val ≤ 1 := by
  have hpi := Real.pi_pos
  exact ⟨Real.sin_pos_of_pos_of_lt_pi (by positivity) (by nlinarith), Real.sin_le_one _⟩

theorem arcsin_pos (h : 0 < x.val) : 0 < (Angles.arcsin x).val :=
  mul_pos (Real.arcsin_pos.mpr h) (div_pos (by norm_num) Real.pi_pos)

theorem arcsin_le (x : Exact) : (Angles.arcsin x).val ≤ 90 := by
  have hpi := Real.pi_pos
  calc Real.arcsin x.val * (180 / Real.pi) ≤ Real.pi / 2 * (180 / Real.pi) :=
        mul_le_mul_of_nonneg_right (Real.arcsin_le_pi_div_two x.val) (by positivity)
    _ = 90 := by field_simp; norm_num

theorem arcsin_lt (h : x.val < 1) : (Angles.arcsin x).val < 90 := by
  have hpi := Real.pi_pos
  calc Real.arcsin x.val * (180 / Real.pi) < Real.pi / 2 * (180 / Real.pi) :=
        mul_lt_mul_of_pos_right (Real.arcsin_lt_pi_div_two.mpr h) (by positivity)
    _ = 90 := by field_simp; norm_num

theorem arcsin?_quotient {v d : Exact} (hv : 0 < v) (hd : 0 < d) (hle : v ≤ 2 * d) :
    0 < (v / (2 * d)).val ∧ |(v / (2 * d)).val| ≤ 1 ∧
      arcsin? (v / (2 * d)) = some (Angles.arcsin (v / (2 * d))) := by
  have hv' : 0 < v.val := pos_iff.mp hv
  have hd' : 0 < d.val := pos_iff.mp hd
  have hle' : v.val ≤ 2 * d.val := le_iff.mp hle
  have hpos : 0 < v.val / (2 * d.val) := by positivity
  have hone : |(v / (2 * d)).val| ≤ 1 := by
    change |v.val / (2 * d.val)| ≤ 1
    rw [abs_of_pos hpos, div_le_one (by positivity)]
    exact hle'
  refine ⟨hpos, hone, if_pos ?_⟩
  rw [le_iff, val_abs, val_one]
  exact hone

theorem quotient_lt_one {v d : Exact} (hd : 0 < d) (hlt : v < 2 * d) : (v / (2 * d)).val < 1 := by
  have hd' : 0 < d.val := pos_iff.mp hd
  exact (div_lt_one (show (0 : ℝ) < 2 * d.val by positivity)).mpr (lt_iff.mp hlt)

theorem mul_quotient {v d : Exact} (hd : 0 < d) : 2 * d * (v / (2 * d)) = v := by
  have hd' : 0 < d.val := pos_iff.mp hd
  ext
  change 2 * d.val * (v.val / (2 * d.val)) = v.val
  field_simp

theorem quotient_mul {s d : Exact} (hd : 0 < d) : 2 * d * s / (2 * d) = s := by
  have hd' : 0 < d.val := pos_iff.mp hd
  ext
  change 2 * d.val * s.val / (2 * d.val) = s.val
  field_simp

theorem wavelength_mem {y d : Exact} (hd : 0 < d) (hpos : 0 < y.val) (hle : y.val ≤ 90) :
    0 < 2 * d * Angles.sin y ∧ 2 * d * Angles.sin y ≤ 2 * d := by
  have hd' : 0 < d.val := pos_iff.mp hd
  obtain ⟨hsin, hone⟩ := sin_mem hpos hle
  rw [pos_iff, le_iff, val_mul, val_mul]
  change 0 < 2 * d.val * (Angles.sin y).val ∧ 2 * d.val * (Angles.sin y).val ≤ 2 * d.val
  exact ⟨by positivity, by nlinarith⟩

end Exact

/-! ## One crystal -/

namespace Bragg

variable {g : Bragg Exact} {v p : Exact}

theorem forward_eq (hd : 0 < g.spacing) (hv : 0 < v) (hle : v ≤ 2 * g.spacing) :
    g.forward v = .ok [2 * Angles.arcsin (v / (2 * g.spacing)),
      2 * Angles.arcsin (v / (2 * g.spacing)) / 2 + g.offset] := by
  unfold forward
  rw [if_pos ⟨rfl, hv⟩, (Exact.arcsin?_quotient hv hd hle).2.2]

theorem inverse_forward (hd : 0 < g.spacing) (hv : 0 < v) (hle : v ≤ 2 * g.spacing) :
    g.inverse (2 * Angles.arcsin (v / (2 * g.spacing))) = v := by
  obtain ⟨hpos, hone, -⟩ := Exact.arcsin?_quotient hv hd hle
  have htheta := Exact.arcsin_pos hpos
  have hright := Exact.arcsin_le (v / (2 * g.spacing))
  have hhalf : 2 * Angles.arcsin (v / (2 * g.spacing)) / 2 =
      Angles.arcsin (v / (2 * g.spacing)) := by
    ext
    change 2 * (Angles.arcsin (v / (2 * g.spacing))).val / 2 = _
    ring
  unfold inverse
  rw [if_pos, hhalf, Exact.sin_arcsin hone, Exact.mul_quotient hd]
  rw [Exact.pos_iff, Exact.le_iff]
  change 0 < 2 * (Angles.arcsin (v / (2 * g.spacing))).val ∧
    2 * (Angles.arcsin (v / (2 * g.spacing))).val ≤ 180
  constructor <;> linarith

theorem forward_inverse (hd : 0 < g.spacing) (hpos : 0 < p) (hle : p ≤ 180) :
    g.forward (g.inverse p) = .ok [p, p / 2 + g.offset] := by
  have hpos' : 0 < p.val := Exact.pos_iff.mp hpos
  have hle' : p.val ≤ 180 := Exact.le_iff.mp hle
  have hhalf : 0 < (p / 2).val ∧ (p / 2).val ≤ 90 := by
    change 0 < p.val / 2 ∧ p.val / 2 ≤ 90
    constructor <;> linarith
  have hangle : Angles.arcsin (2 * g.spacing * Angles.sin (p / 2) / (2 * g.spacing)) = p / 2 := by
    rw [Exact.quotient_mul hd, Exact.arcsin_sin (abs_le.mpr ⟨by linarith, hhalf.2⟩)]
  have hdouble : 2 * (p / 2) = p := by
    ext
    change 2 * (p.val / 2) = p.val
    ring
  obtain ⟨hwave, hreach⟩ := Exact.wavelength_mem hd hhalf.1 hhalf.2
  rw [inverse, if_pos ⟨hpos, hle⟩, forward_eq hd hwave hreach, hangle, hdouble]

end Bragg

/-! ## Two crystals -/

namespace DoubleCrystal

variable {g : DoubleCrystal Exact} {v p : Exact}

theorem forward_eq (hd₁ : 0 < g.dvalue1) (hd₂ : 0 < g.dvalue2) (hv : 0 < v)
    (hle₁ : v ≤ 2 * g.dvalue1) (hle₂ : v ≤ 2 * g.dvalue2) :
    g.forward v = .ok [180 - 2 * Angles.arcsin (v / (2 * g.dvalue1)),
      2 * Angles.arcsin (v / (2 * g.dvalue2)),
      g.distance / Angles.tan (180 - 2 * Angles.arcsin (v / (2 * g.dvalue1)))] := by
  unfold forward
  rw [if_pos ⟨rfl, hv⟩, (Exact.arcsin?_quotient hv hd₁ hle₁).2.2]
  dsimp only
  rw [(Exact.arcsin?_quotient hv hd₂ hle₂).2.2]

theorem inverse_forward (hd₁ : 0 < g.dvalue1) (hv : 0 < v) (hlt : v < 2 * g.dvalue1) :
    g.inverse (180 - 2 * Angles.arcsin (v / (2 * g.dvalue1))) = v := by
  obtain ⟨hpos, hone, -⟩ := Exact.arcsin?_quotient hv hd₁ (Exact.le_of_lt hlt)
  have htheta := Exact.arcsin_pos hpos
  have hright := Exact.arcsin_lt (Exact.quotient_lt_one hd₁ hlt)
  have hhalf : (180 - 2 * Angles.arcsin (v / (2 * g.dvalue1))) / 2 =
      90 - Angles.arcsin (v / (2 * g.dvalue1)) := by
    ext
    change (180 - 2 * (Angles.arcsin (v / (2 * g.dvalue1))).val) / 2 =
      90 - (Angles.arcsin (v / (2 * g.dvalue1))).val
    ring
  unfold inverse
  rw [if_pos, hhalf, Exact.cos_complement, Exact.sin_arcsin hone, Exact.mul_quotient hd₁]
  rw [Exact.pos_iff, Exact.lt_iff]
  change 0 < 180 - 2 * (Angles.arcsin (v / (2 * g.dvalue1))).val ∧
    180 - 2 * (Angles.arcsin (v / (2 * g.dvalue1))).val < 180
  constructor <;> linarith

theorem forward_inverse (hd₁ : 0 < g.dvalue1) (hd₂ : 0 < g.dvalue2) (hpos : 0 < p) (hlt : p < 180)
    (hreach₂ : g.inverse p ≤ 2 * g.dvalue2) :
    ∃ phi2 translation, g.forward (g.inverse p) = .ok [p, phi2, translation] := by
  have hpos' : 0 < p.val := Exact.pos_iff.mp hpos
  have hlt' : p.val < 180 := Exact.lt_iff.mp hlt
  have hrest : 0 < (90 - p / 2).val ∧ (90 - p / 2).val ≤ 90 := by
    change 0 < 90 - p.val / 2 ∧ 90 - p.val / 2 ≤ 90
    constructor <;> linarith
  have hcomplement : p / 2 = 90 - (90 - p / 2) := by
    ext
    change p.val / 2 = 90 - (90 - p.val / 2)
    ring
  have hwave : g.inverse p = 2 * g.dvalue1 * Angles.sin (90 - p / 2) := by
    rw [inverse, if_pos ⟨hpos, hlt⟩, ← Exact.cos_complement, ← hcomplement]
  have hangle : Angles.arcsin (g.inverse p / (2 * g.dvalue1)) = 90 - p / 2 := by
    rw [hwave, Exact.quotient_mul hd₁, Exact.arcsin_sin (abs_le.mpr ⟨by linarith, hrest.2⟩)]
  have hdouble : 180 - 2 * (90 - p / 2) = p := by
    ext
    change 180 - 2 * (90 - p.val / 2) = p.val
    ring
  obtain ⟨hwave₀, hreach₁⟩ := Exact.wavelength_mem hd₁ hrest.1 hrest.2
  rw [← hwave] at hwave₀ hreach₁
  rw [forward_eq hd₁ hd₂ hwave₀ hreach₁ hreach₂, hangle, hdouble]
  exact ⟨_, _, rfl⟩

end DoubleCrystal

/-! ## Round trips -/

namespace Transform

variable {α : Type} [Scalar α]

/-- With all tolerances at least 0, the reconciler made from `t` reads the setpoints for `v` as `v`.
-/
def ReadsBack (t : Transform α) (v : α) : Prop :=
  ∃ es, t.forward v = .ok es ∧ ∀ device tolerances, tolerances.length = t.roles.length →
    (∀ x ∈ tolerances, 0 ≤ x) → ∃ r, Reconciler.make device t tolerances = .ok r ∧
      r.reconcile (.positions es) = .ok (some v)

/-- The primary setpoint for the wavelength of `p` is `p`. -/
def Retraces (t : Transform α) (p : α) : Prop :=
  ∃ es, t.forward (t.inverse p) = .ok es ∧ es[t.primary]? = some p

theorem readsBack_of_inverse {t : Transform Exact} {v p : Exact} {es : List Exact}
    (hprimary : t.primary < t.roles.length) (hforward : t.forward v = .ok es)
    (hlen : es.length = t.roles.length) (hp : es[t.primary]? = some p) (hback : t.inverse p = v) :
    t.ReadsBack v := by
  refine ⟨es, hforward, fun device tolerances hts hnonneg => ?_⟩
  have htolerances : ∀ x ∈ tolerances, isTolerance x = true :=
    fun x hx => isTolerance_iff.mpr ⟨rfl, hnonneg x hx⟩
  rcases @Reconciler.make_cases _ _ device t tolerances hts hprimary with
    ⟨_, r, hr⟩ | ⟨_, x, hx, hbad, _⟩
  · obtain rfl := Reconciler.transform_of_make hr
    have hself : ∀ e ∈ es, ∀ x ∈ r.tolerances, Scalar.abs (e - e) ≤ x := by
      intro e _ x hx
      have hnonneg := (isTolerance_iff.mp (r.tolerances_ok x hx)).2
      have hzero : Scalar.abs (e - e) = 0 := by
        ext
        rw [Exact.val_abs, Exact.val_sub, sub_self, abs_zero, Exact.val_zero]
      rwa [hzero]
    have hinverse : r.transform.inverse (r.primaryPosition es) = v := by
      rw [Reconciler.primaryPosition, List.getD_eq_getElem?_getD, hp]
      exact hback
    exact ⟨r, hr, r.reconcile_setpoints hself hforward hlen rfl hinverse⟩
  · rw [htolerances x hx] at hbad
    cases hbad

end Transform

theorem DoubleCrystal.readsBack {g : DoubleCrystal Exact} (hd₁ : 0 < g.dvalue1)
    (hd₂ : 0 < g.dvalue2) {v : Exact} (hv : 0 < v) (hlt₁ : v < 2 * g.dvalue1)
    (hle₂ : v ≤ 2 * g.dvalue2) : g.transform.ReadsBack v :=
  Transform.readsBack_of_inverse (Nat.zero_lt_succ 2)
    (forward_eq hd₁ hd₂ hv (Exact.le_of_lt hlt₁) hle₂) rfl rfl (inverse_forward hd₁ hv hlt₁)

theorem DoubleCrystal.retraces {g : DoubleCrystal Exact} (hd₁ : 0 < g.dvalue1)
    (hd₂ : 0 < g.dvalue2) {p : Exact} (hpos : 0 < p) (hlt : p < 180)
    (hle₂ : g.transform.inverse p ≤ 2 * g.dvalue2) : g.transform.Retraces p := by
  obtain ⟨phi2, translation, hforward⟩ := forward_inverse hd₁ hd₂ hpos hlt hle₂
  exact ⟨_, hforward, rfl⟩

theorem Bragg.readsBack {g : Bragg Exact} (hd : 0 < g.spacing) {v : Exact} (hv : 0 < v)
    (hle : v ≤ 2 * g.spacing) : g.transform.ReadsBack v :=
  Transform.readsBack_of_inverse (Nat.zero_lt_succ 1) (forward_eq hd hv hle) rfl rfl
    (inverse_forward hd hv hle)

theorem Bragg.retraces {g : Bragg Exact} (hd : 0 < g.spacing) {p : Exact} (hpos : 0 < p)
    (hle : p ≤ 180) : g.transform.Retraces p :=
  ⟨_, forward_inverse hd hpos hle, rfl⟩

/-- **Round trip.** For every `DoubleCrystal` with spacings `d₁` and `d₂`: a wavelength from 0 to
`2 * d₁` and `2 * d₂` `ReadsBack`, unless it is `2 * d₁`; and a primary position between 0 and 180
whose wavelength is at most `2 * d₂` `Retraces`. For every `Bragg` with spacing `d`: a positive
wavelength up to `2 * d` `ReadsBack`, and a positive primary position up to 180 `Retraces`. -/
theorem geometries_round_trip :
    (∀ d₁ d₂ distance : Exact, ∀ g, DoubleCrystal.make d₁ d₂ distance = .ok g →
      (∀ v, 0 < v → v < 2 * d₁ → v ≤ 2 * d₂ → g.transform.ReadsBack v) ∧
      ∀ p, 0 < p → p < 180 → g.transform.inverse p ≤ 2 * d₂ → g.transform.Retraces p) ∧
    ∀ d offset : Exact, ∀ g, Bragg.make d offset = .ok g →
      (∀ v, 0 < v → v ≤ 2 * d → g.transform.ReadsBack v) ∧
      ∀ p, 0 < p → p ≤ 180 → g.transform.Retraces p := by
  refine ⟨fun d₁ d₂ distance g hmake => ?_, fun d offset g hmake => ?_⟩
  · obtain ⟨⟨-, hd₁⟩, ⟨-, hd₂⟩, -, rfl⟩ := DoubleCrystal.make_ok hmake
    exact ⟨fun v hv hlt₁ hle₂ => DoubleCrystal.readsBack hd₁ hd₂ hv hlt₁ hle₂,
      fun p hpos hlt hle₂ => DoubleCrystal.retraces hd₁ hd₂ hpos hlt hle₂⟩
  · obtain ⟨⟨-, hd⟩, -, rfl⟩ := Bragg.make_ok hmake
    exact ⟨fun v hv hle => Bragg.readsBack hd hv hle,
      fun p hpos hle => Bragg.retraces hd hpos hle⟩

/-- Two different crystals below both cutoffs, and a single one at its cutoff. -/
theorem geometries_round_trip_cutoff :
    ∃ g h, DoubleCrystal.make (3 : Exact) 4 97 = .ok g ∧ Bragg.make (2 : Exact) 10 = .ok h ∧
      ((0 : Exact) < 2 ∧ (2 : Exact) < 2 * 3 ∧ (2 : Exact) ≤ 2 * 4) ∧ g.transform.ReadsBack 2 ∧
      ((0 : Exact) < 90 ∧ (90 : Exact) < 180 ∧ g.transform.inverse 90 ≤ 2 * 4) ∧
      g.transform.Retraces 90 ∧
      ((0 : Exact) < 4 ∧ (4 : Exact) ≤ 2 * 2) ∧ h.transform.ReadsBack 4 ∧
      ((0 : Exact) < 180 ∧ (180 : Exact) ≤ 180) ∧ h.transform.Retraces 180 := by
  obtain ⟨hdouble, hbragg⟩ := geometries_round_trip
  have hpos : ∀ n : Nat, (0 : Exact) < Scalar.ofNat (n + 1) := by
    intro n
    rw [Exact.pos_iff]
    exact Nat.cast_pos.mpr n.succ_pos
  have hg : DoubleCrystal.make (3 : Exact) 4 97 = .ok ⟨3, 4, 97⟩ := by
    simp only [DoubleCrystal.make, DoubleCrystal.positive]
    rw [if_pos ⟨rfl, hpos 2⟩, if_pos ⟨rfl, hpos 3⟩, if_pos ⟨rfl, hpos 96⟩]
    rfl
  have hh : Bragg.make (2 : Exact) 10 = .ok ⟨2, 10⟩ := by
    rw [Bragg.make, if_pos ⟨rfl, hpos 1⟩]
    exact if_pos rfl
  have hv : (2 : Exact) < 2 * 3 ∧ (2 : Exact) ≤ 2 * 4 := by
    change (2 : ℝ) < 2 * 3 ∧ (2 : ℝ) ≤ 2 * 4
    norm_num
  have hp : (90 : Exact) < 180 := by
    change (90 : ℝ) < 180
    norm_num
  have hinverse : (DoubleCrystal.mk (3 : Exact) 4 97).transform.inverse 90 ≤ 2 * 4 := by
    change DoubleCrystal.inverse _ _ ≤ _
    rw [DoubleCrystal.inverse, if_pos ⟨hpos 89, hp⟩]
    change 2 * 3 * Real.cos (90 / 2 * (Real.pi / 180)) ≤ (2 : ℝ) * 4
    linarith [Real.cos_le_one (90 / 2 * (Real.pi / 180))]
  have hcutoff : (4 : Exact) ≤ 2 * 2 := by
    change (4 : ℝ) ≤ 2 * 2
    norm_num
  have hstraight : (180 : Exact) ≤ 180 := le_refl (180 : ℝ)
  obtain ⟨hread, hretrace⟩ := hdouble 3 4 97 _ hg
  obtain ⟨hread', hretrace'⟩ := hbragg 2 10 _ hh
  exact ⟨_, _, hg, hh, ⟨hpos 1, hv⟩, hread 2 (hpos 1) hv.1 hv.2, ⟨hpos 89, hp, hinverse⟩,
    hretrace 90 (hpos 89) hp hinverse, ⟨hpos 3, hcutoff⟩, hread' 4 (hpos 3) hcutoff,
    ⟨hpos 179, hstraight⟩, hretrace' 180 (hpos 179) hstraight⟩

end Beamline
