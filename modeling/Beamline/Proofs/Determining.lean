import Beamline.Geometry.Bragg
import Beamline.Geometry.DoubleCrystal
import Beamline.Proofs.Reaching

/-!
The setpoints of the geometries in binary64: which of them are finite, and for which the reconciler
finds a finite wavelength (`Determines`). Of the angle functions a few bits are assumed
(`Angles.Sound`). Proved here, for parameters of at most `2 ^ 900`:

* `Bragg.forward_ok`, `DoubleCrystal.forward_ok`: the setpoints, when there are any;
* `Bragg.forward_determines_iff`: the setpoints of one crystal are finite, and determine a
  wavelength if and only if the quotient of wavelength and spacing is not rounded to 0;
* `DoubleCrystal.forward_determines_iff`: those of two crystals fail both at the cutoff of the
  first;
* `forward_determined_iff` puts these together;
* `cutoff_sends_infinite`: an infinite setpoint.
-/

namespace Beamline

/-! ## Arithmetic that stays finite -/

namespace Rounding

theorem represents_unit : Represents 1 1 := by decide +kernel

theorem represents_two : Represents 2 2 := by decide +kernel

theorem represents_straight : Represents 180 180 := by decide +kernel

variable {d p t x y : Float} {a b c : ℚ} {n m : Nat}

theorem inRange_of_le {k : Nat} (hk : k ≤ 1000) (h : |a| ≤ 2 ^ k) : InRange a := ⟨k, hk, h⟩

theorem bounded_twice (hn : n ≤ 900) (hx : Bounded n x) : Bounded (n + 2) (2 * x) := by
  obtain ⟨a, ha, hle⟩ := hx
  have hpos : (0 : ℚ) < 2 ^ n := by positivity
  have hdouble : |2 * a| < 2 ^ (n + 2) := by
    rw [abs_mul, abs_two, pow_add]
    linarith
  obtain ⟨c, hc, hrounds⟩ := represents_two.mul ha (inRange_of_le (by omega) hdouble.le)
  exact ⟨c, hc, hrounds.within _ hdouble⟩

theorem isFinite_mul_of_le_one (hn : n ≤ 1000) (hx : Bounded n x) (ht : Represents t b)
    (hb : |b| ≤ 1) : (x * t).isFinite = true := by
  obtain ⟨a, ha, hle⟩ := hx
  have hprod : |a * b| ≤ 2 ^ n := by
    rw [abs_mul]
    exact (mul_le_of_le_one_right (abs_nonneg a) hb).trans hle
  obtain ⟨c, hc, -⟩ := ha.mul ht (inRange_of_le hn hprod)
  exact hc.isFinite

theorem bounded_half (hp : Represents p c) (hc : |c| ≤ 511) : Bounded 8 (p / 2) := by
  have hhalf : |c / 2| < 2 ^ 8 := by
    rw [abs_div, abs_two]
    linarith
  obtain ⟨d, hd, hrounds⟩ :=
    hp.div represents_two (by norm_num) (inRange_of_le (by norm_num) hhalf.le)
  exact ⟨d, hd, hrounds.within _ hhalf⟩

theorem isFinite_add (hn : n ≤ 900) (hm : m ≤ n) (hx : Bounded m x) (hy : Bounded n y) :
    (x + y).isFinite = true := by
  obtain ⟨a, ha, hle⟩ := hx
  obtain ⟨b, hb, hle'⟩ := hy
  have hpow : (2 : ℚ) ^ m ≤ 2 ^ n := pow_le_pow_right₀ (by norm_num) hm
  have hsum : |a + b| ≤ 2 ^ (n + 1) := by
    rw [pow_succ]
    linarith [abs_add_le a b]
  obtain ⟨c, hc, -⟩ := ha.add hb (inRange_of_le (by omega) hsum)
  exact hc.isFinite

theorem isFinite_wavelength {f : Float → Float}
    (hf : ∀ x, x.isFinite = true → ∃ b, Represents (f x) b ∧ |b| ≤ 1) (hd : Bounded 900 d)
    (hp : Represents p c) (hc : |c| ≤ 511) : (2 * d * f (p / 2)).isFinite = true := by
  obtain ⟨_, hhalf, -⟩ := bounded_half hp hc
  obtain ⟨b, hb, hle⟩ := hf _ hhalf.isFinite
  exact isFinite_mul_of_le_one (by norm_num) (bounded_twice le_rfl hd) hb hle

end Rounding

open Rounding

/-! ## Angles that are computed -/

/-- What is assumed of `arcsin` in degrees: the sign, and bounds by two lines through zero. -/
structure IsArcsine (sine angle : ℚ) : Prop where
  lower : 57 * |sine| ≤ |angle|
  upper : |angle| ≤ 90 * |sine|
  nonneg : 0 ≤ sine → 0 ≤ angle
  nonpos : sine ≤ 0 → angle ≤ 0
  /-- For the largest number below 1. -/
  below : sine < 1 → angle ≤ 90 - 1 / 2 ^ 21

/-- The assumptions on the angle functions of binary64: two exact values, and bounds. -/
structure Angles.Sound (angles : Angles Float) : Prop where
  arcsin_one : angles.arcsin 1 = 90
  tan_zero : angles.tan 0 = 0
  arcsin : ∀ x a, Represents x a → |a| ≤ 1 → ∃ b, Represents (angles.arcsin x) b ∧ IsArcsine a b
  sin : ∀ x, x.isFinite = true → ∃ b, Represents (angles.sin x) b ∧ |b| ≤ 1
  cos : ∀ x, x.isFinite = true → ∃ b, Represents (angles.cos x) b ∧ |b| ≤ 1
  /-- At 180 and 360 degrees the tangent is not 0, as no number of radians is a multiple of pi. -/
  tan : ∀ x a, Represents x a → 1 / 2 ^ 22 ≤ a → a < 512 →
    ∃ b, Represents (angles.tan x) b ∧ 1 / 2 ^ 60 ≤ |b|

section
variable {t x : Float} {a b c : ℚ}

/-- The bounds on twice an arcsine that follow. -/
structure Turns (sine angle : ℚ) : Prop where
  bounded : |angle| ≤ 181
  pos_iff : 0 < angle ↔ 0 < sine
  below : sine < 1 → angle ≤ 180 - 1 / 2 ^ 21
  lower : 1 / 2 ^ 48 ≤ sine → 1 / 2 ^ 42 ≤ angle

theorem turns (hle : |a| ≤ 1) (hb : Represents t b) (h : IsArcsine a b) :
    ∃ c, Represents (2 * t) c ∧ Turns a c := by
  have hright : |b| ≤ 90 := by linarith [h.upper]
  have hrange : |2 * b| ≤ 2 ^ 8 := by
    rw [abs_mul, abs_two]
    linarith
  obtain ⟨c, hc, hrounds⟩ := represents_two.mul hb (inRange_of_le (by norm_num) hrange)
  have hrough := abs_le.mp hrounds.rough
  have hnear := abs_le.mp hrounds.near
  rw [abs_mul, abs_two] at hrough hnear
  have hpos : 0 < a → 57 * a ≤ b := by
    intro hpos
    have hlower := h.lower
    rwa [abs_of_pos hpos, abs_of_nonneg (h.nonneg hpos.le)] at hlower
  refine ⟨c, hc, ?_, ⟨fun hcpos => ?_, fun hapos => ?_⟩, fun hlt => ?_, fun hlarge => ?_⟩
  · have hb := abs_le.mp hright
    rw [abs_le]
    constructor <;> linarith
  · by_contra hnot
    linarith [hrounds.nonpos (by linarith [h.nonpos (not_lt.mp hnot)])]
  · -- an angle may be so small that rounding is off by as much as the angle itself
    have hbpos : 0 < b := by linarith [hpos hapos]
    rw [abs_of_pos hbpos] at hnear
    linarith [hb.least_le hbpos]
  · linarith [h.below hlt]
  · have hbound := hpos (by linarith)
    linarith

theorem supplement (hc : Represents (2 * t) c) (h : Turns a c) :
    ∃ p, Represents (180 - 2 * t) p ∧ |p| ≤ 511 ∧ (a < 1 → 1 / 2 ^ 22 ≤ p) ∧
      (1 / 2 ^ 48 ≤ a → p < 180) := by
  have hturn := abs_le.mp h.bounded
  have hdiff : |180 - c| ≤ 361 := by
    rw [abs_le]
    constructor <;> linarith
  obtain ⟨p, hp, hrounds⟩ := represents_straight.sub hc
    (inRange_of_le (k := 9) (by norm_num) (hdiff.trans (by norm_num)))
  have hrough := abs_le.mp hrounds.rough
  refine ⟨p, hp, ?_, fun hlt => ?_, fun hlarge => ?_⟩
  · have hrest := abs_le.mp hdiff
    rw [abs_le]
    constructor <;> linarith
  · have hbelow := h.below hlt
    rw [abs_of_pos (by linarith)] at hrough
    linarith
  · -- rounding adds less than `2 ^ -42` below 180
    have hlower := h.lower hlarge
    rcases abs_cases (180 - c) with ⟨habs, -⟩ | ⟨habs, -⟩
    · rw [habs] at hrough
      linarith
    · rw [habs] at hrough
      linarith

variable [angles : Angles Float]

theorem arcsin?_ok (hangles : angles.Sound) (h : arcsin? x = some t) :
    t = Angles.arcsin x ∧ ∃ a c, Represents x a ∧ a ≤ 1 ∧ Represents (2 * t) c ∧ Turns a c := by
  unfold arcsin? at h
  split at h
  · rename_i hle
    obtain rfl := Option.some.inj h
    obtain ⟨a, ha⟩ := represents_of_isFinite (isFinite_of_abs_le represents_unit hle)
    have hle' : |a| ≤ 1 := ha.abs.le represents_unit hle
    obtain ⟨b, hb, harcsine⟩ := hangles.arcsin x a ha hle'
    obtain ⟨c, hc, hturns⟩ := turns hle' hb harcsine
    exact ⟨rfl, a, c, ha, (abs_le.mp hle').2, hc, hturns⟩
  · cases h

theorem twice_arcsin_one (hangles : angles.Sound) (hx : Represents x 1) :
    2 * Angles.arcsin x = 180 := by
  rw [hx.inj represents_unit (by norm_num), hangles.arcsin_one]
  decide

theorem supplement_cutoff (hangles : angles.Sound) (hx : Represents x 1) :
    180 - 2 * Angles.arcsin x = 0 := by
  rw [twice_arcsin_one hangles hx]
  decide

end

/-! ## What setpoints lead back to -/

namespace Transform

variable {α : Type} [Scalar α]

def primarySetpoint (t : Transform α) (es : List α) : α := es.getD t.primary Scalar.nan

/-- The wavelength of the primary setpoint is finite. -/
def Determines (t : Transform α) (es : List α) : Prop :=
  Scalar.isFinite (t.inverse (t.primarySetpoint es)) = true

end Transform

/-! ## One crystal -/

namespace Bragg

variable [angles : Angles Float] {g : Bragg Float} {v : Float} {es : List Float}

theorem forward_ok (h : g.forward v = .ok es) :
    ∃ t, arcsin? (v / (2 * g.spacing)) = some t ∧ es = [2 * t, 2 * t / 2 + g.offset] := by
  unfold forward at h
  split at h
  · split at h
    · cases h
    · rename_i t ht
      exact ⟨t, ht, (Except.ok.inj h).symm⟩
  · cases h

theorem inverse_isFinite_iff (hangles : angles.Sound) (hd : Bounded 900 g.spacing) {p : Float}
    {c : ℚ} (hp : Represents p c) (hc : |c| ≤ 511) :
    Scalar.isFinite (g.inverse p) = true ↔ 0 < c ∧ c ≤ 180 := by
  have hrange : 0 < p ∧ p ≤ 180 ↔ 0 < c ∧ c ≤ 180 := by
    rw [represents_zero.lt_iff hp, hp.le_iff represents_straight]
  rw [← hrange]
  unfold inverse
  split
  · rename_i hin
    exact iff_of_true (isFinite_wavelength hangles.sin hd hp hc) hin
  · rename_i hout
    exact iff_of_false (by decide) hout

theorem forward_determines_iff (hangles : angles.Sound) (hd : Bounded 900 g.spacing)
    (ho : Bounded 900 g.offset) (h : g.forward v = .ok es) :
    (∀ e ∈ es, Scalar.isFinite e = true) ∧
      (g.transform.Determines es ↔ 0 < v / (2 * g.spacing)) := by
  obtain ⟨t, ht, rfl⟩ := forward_ok h
  obtain ⟨rfl, a, c, ha, hle, hc, hturns⟩ := arcsin?_ok hangles ht
  have hbounded : |c| ≤ 511 := by linarith [hturns.bounded]
  refine ⟨?_, ?_⟩
  · intro e he
    simp only [List.mem_cons, List.not_mem_nil, or_false] at he
    rcases he with rfl | rfl
    · exact hc.isFinite
    · exact isFinite_add le_rfl (by norm_num) (bounded_half hc hbounded) ho
  · have hstraight : c ≤ 180 := by
      rcases hle.lt_or_eq with hlt | rfl
      · linarith [hturns.below hlt]
      · rw [twice_arcsin_one hangles ha] at hc
        exact (hc.le_iff represents_straight).mp (by decide)
    rw [represents_zero.lt_iff ha, ← hturns.pos_iff]
    exact (inverse_isFinite_iff hangles hd hc hbounded).trans (and_iff_left hstraight)

end Bragg

/-! ## Two crystals -/

namespace DoubleCrystal

variable [angles : Angles Float] {g : DoubleCrystal Float} {t v : Float} {es : List Float}

theorem forward_ok (h : g.forward v = .ok es) :
    ∃ t₁ t₂, arcsin? (v / (2 * g.dvalue1)) = some t₁ ∧ arcsin? (v / (2 * g.dvalue2)) = some t₂ ∧
      es = [180 - 2 * t₁, 2 * t₂, g.distance / Angles.tan (180 - 2 * t₁)] := by
  unfold forward at h
  split at h
  · split at h
    · cases h
    · rename_i t₁ ht₁
      split at h
      · cases h
      · rename_i t₂ ht₂
        exact ⟨t₁, t₂, ht₁, ht₂, (Except.ok.inj h).symm⟩
  · cases h

theorem inverse_isFinite_iff (hangles : angles.Sound) (hd : Bounded 900 g.dvalue1) {p : Float}
    {c : ℚ} (hp : Represents p c) (hc : |c| ≤ 511) :
    Scalar.isFinite (g.inverse p) = true ↔ 0 < c ∧ c < 180 := by
  have hrange : 0 < p ∧ p < 180 ↔ 0 < c ∧ c < 180 := by
    rw [represents_zero.lt_iff hp, hp.lt_iff represents_straight]
  rw [← hrange]
  unfold inverse
  split
  · rename_i hin
    exact iff_of_true (isFinite_wavelength hangles.cos hd hp hc) hin
  · rename_i hout
    exact iff_of_false (by decide) hout

theorem stage_isFinite (hangles : angles.Sound) (hl : Bounded 900 g.distance) {p : Float} {c : ℚ}
    (hp : Represents p c) (hc : |c| ≤ 511) (hpos : 1 / 2 ^ 22 ≤ c) :
    (g.distance / Angles.tan p).isFinite = true := by
  obtain ⟨l, hl, hle⟩ := hl
  obtain ⟨b, hb, hlarge⟩ := hangles.tan p c hp hpos (by linarith [(abs_le.mp hc).2])
  have hbpos : 0 < |b| := lt_of_lt_of_le (by norm_num) hlarge
  have hquotient : |l / b| ≤ 2 ^ (900 + 60) := by
    rw [abs_div, pow_add, div_le_iff₀ hbpos]
    have hpow : (0 : ℚ) < 2 ^ 900 := by positivity
    calc |l| ≤ 2 ^ 900 * 1 := hle.trans_eq (mul_one _).symm
      _ ≤ 2 ^ 900 * (2 ^ 60 * |b|) := by
          refine mul_le_mul_of_nonneg_left ?_ hpow.le
          linarith
      _ = 2 ^ 900 * 2 ^ 60 * |b| := (mul_assoc _ _ _).symm
  obtain ⟨q, hq, -⟩ := hl.div hb (abs_pos.mp hbpos) (inRange_of_le (by norm_num) hquotient)
  exact hq.isFinite

theorem stage_infinite (hangles : angles.Sound) (l : Float) :
    ¬ Scalar.isFinite (l / Angles.tan (0 : Float)) = true := by
  have hinfinite : (l / (0 : Float)).isFinite = false := isFinite_div_zero represents_zero
  rw [hangles.tan_zero, Bool.not_eq_true]
  exact hinfinite

theorem forward_determines_iff (hangles : angles.Sound) (hd : Bounded 900 g.dvalue1)
    (hl : Bounded 900 g.distance) (h : g.forward v = .ok es) :
    ((∀ e ∈ es, Scalar.isFinite e = true) ↔ v / (2 * g.dvalue1) < 1) ∧
      (g.transform.Determines es ↔
        v / (2 * g.dvalue1) < 1 ∧ g.transform.primarySetpoint es < 180) ∧
      ∀ a, Represents (v / (2 * g.dvalue1)) a → 1 / 2 ^ 48 ≤ a →
        g.transform.primarySetpoint es < 180 := by
  obtain ⟨t₁, t₂, ht₁, ht₂, rfl⟩ := forward_ok h
  obtain ⟨rfl, a, c, ha, hle, hc, hturns⟩ := arcsin?_ok hangles ht₁
  obtain ⟨-, _, _, -, -, hc₂, -⟩ := arcsin?_ok hangles ht₂
  obtain ⟨p, hp, hbounded, hpos, hbelow⟩ := supplement hc hturns
  have hlt : v / (2 * g.dvalue1) < 1 ↔ a < 1 := ha.lt_iff represents_unit
  have hstraight : (180 - 2 * Angles.arcsin (v / (2 * g.dvalue1)) : Float) < 180 ↔ p < 180 :=
    hp.lt_iff represents_straight
  have hcutoff : ¬ a < 1 → (180 - 2 * Angles.arcsin (v / (2 * g.dvalue1)) : Float) = 0 := by
    intro hnot
    obtain rfl : a = 1 := le_antisymm hle (not_lt.mp hnot)
    exact supplement_cutoff hangles ha
  refine ⟨?_, ?_, ?_⟩
  · rw [hlt]
    constructor
    · intro hfinite
      by_contra hnot
      have hstage := hfinite _ (.tail _ (.tail _ (.head _)))
      rw [hcutoff hnot] at hstage
      exact stage_infinite hangles g.distance hstage
    · intro hlt e he
      simp only [List.mem_cons, List.not_mem_nil, or_false] at he
      rcases he with rfl | rfl | rfl
      · exact hp.isFinite
      · exact hc₂.isFinite
      · exact stage_isFinite hangles hl hp hbounded (hpos hlt)
  · refine (inverse_isFinite_iff hangles hd hp hbounded).trans ?_
    rw [hlt]
    refine and_congr ⟨fun hp0 => ?_, fun hlt => ?_⟩ hstraight.symm
    · by_contra hnot
      rw [hcutoff hnot] at hp
      exact hp0.ne (Option.some.inj (represents_zero.symm.trans hp))
    · linarith [hpos hlt]
  · intro a' ha' hlarge
    obtain rfl : a' = a := Option.some.inj (ha'.symm.trans ha)
    exact hstraight.mpr (hbelow hlarge)

end DoubleCrystal

/-- **What is sent can be read.** Let the parameters be at most `2 ^ 900` in magnitude, and let
`forward v` be some setpoints. For `Bragg` they are finite, and determine a wavelength if and only
if `0 < v / (2 * d)`. For `DoubleCrystal` they are finite if and only if `v / (2 * d₁) < 1`, and
determine a wavelength if and only if moreover the primary setpoint is less than 180, as it is for
`v / (2 * d₁) ≥ 2 ^ (-48)`. -/
theorem forward_determined_iff (angles : Angles Float) (hangles : angles.Sound) :
    (∀ d offset : Float, ∀ g, Bragg.make d offset = .ok g →
      Bounded 900 d → Bounded 900 offset → ∀ v es, g.transform.forward v = .ok es →
        (∀ e ∈ es, Scalar.isFinite e = true) ∧ (g.transform.Determines es ↔ 0 < v / (2 * d))) ∧
    ∀ d₁ d₂ distance : Float, ∀ g, DoubleCrystal.make d₁ d₂ distance = .ok g →
      Bounded 900 d₁ → Bounded 900 distance → ∀ v es, g.transform.forward v = .ok es →
        ((∀ e ∈ es, Scalar.isFinite e = true) ↔ v / (2 * d₁) < 1) ∧
        (g.transform.Determines es ↔
          v / (2 * d₁) < 1 ∧ g.transform.primarySetpoint es < 180) ∧
        ∀ a, Represents (v / (2 * d₁)) a → 1 / 2 ^ 48 ≤ a →
          g.transform.primarySetpoint es < 180 := by
  refine ⟨fun d offset g hmake hd ho v es h => ?_, fun d₁ d₂ distance g hmake hd hl v es h => ?_⟩
  · obtain ⟨-, -, rfl⟩ := Bragg.make_ok hmake
    exact Bragg.forward_determines_iff hangles hd ho h
  · obtain ⟨-, -, -, rfl⟩ := DoubleCrystal.make_ok hmake
    exact DoubleCrystal.forward_determines_iff (g := ⟨d₁, d₂, distance⟩) hangles hd hl h

/-! ## Examples -/

namespace Angles

/-- Angle functions made of straight lines, with the values of the real ones that the examples use.
-/
@[reducible]
def sampled : Angles Float where
  arcsin x := if x = 1 then 90 else if x = 0.5 then 30.000000000000004 else 60 * x
  sin _ := 0.5
  cos _ := 0.5000000000000001
  tan x := if x = 0 then 0 else -1.7320508075688783

theorem isArcsine_of_rounds {x : Float} {a b : ℚ} (ha : Represents x a) (hle : |a| ≤ 1)
    (h : Rounds (60 * a) b) : IsArcsine a b := by
  have hnear : |b - 60 * a| ≤ 2 * |a| := by
    rcases eq_or_ne a 0 with rfl | hne
    · rw [mul_zero] at h ⊢
      rw [le_antisymm (h.nonpos le_rfl) (h.nonneg le_rfl)]
      norm_num
    · have hleast := ha.abs.least_le (abs_pos.mpr hne)
      have hnear := h.near
      rw [abs_mul, abs_of_pos (by norm_num : (0 : ℚ) < 60)] at hnear
      linarith [abs_nonneg a]
  have hlower := abs_sub_abs_le_abs_sub (60 * a) b
  have hupper := abs_sub_abs_le_abs_sub b (60 * a)
  rw [abs_sub_comm, abs_mul, abs_of_pos (by norm_num : (0 : ℚ) < 60)] at hlower
  rw [abs_mul, abs_of_pos (by norm_num : (0 : ℚ) < 60)] at hupper
  exact {
    lower := by linarith [abs_nonneg a]
    upper := by linarith [abs_nonneg a]
    nonneg := fun hpos => h.nonneg (by linarith)
    nonpos := fun hneg => h.nonpos (by linarith)
    below := fun _ => by linarith [le_abs_self b] }

theorem sampled_sound : sampled.Sound where
  arcsin_one := by decide
  tan_zero := by decide
  arcsin x a ha hle := by
    have hsixty : Represents 60 60 := by decide +kernel
    change ∃ b,
      Represents (if x = 1 then 90 else if x = 0.5 then 30.000000000000004 else 60 * x) b ∧ _
    split
    · rename_i hx
      obtain rfl : a = 1 := Option.some.inj ((hx ▸ ha).symm.trans (by decide +kernel))
      exact ⟨90, by decide +kernel, by constructor <;> norm_num⟩
    · split
      · rename_i hx
        obtain rfl : a = 1 / 2 := Option.some.inj ((hx ▸ ha).symm.trans (by decide +kernel))
        exact ⟨8444249301319681 / 2 ^ 48, by decide +kernel, by constructor <;> norm_num⟩
      · have hrange : |60 * a| ≤ 2 ^ 6 := by
          rw [abs_mul, abs_of_pos (by norm_num : (0 : ℚ) < 60)]
          linarith
        obtain ⟨b, hb, hrounds⟩ := hsixty.mul ha (inRange_of_le (by norm_num) hrange)
        exact ⟨b, hb, isArcsine_of_rounds ha hle hrounds⟩
  sin _ _ := ⟨1 / 2, by change Represents 0.5 _; decide +kernel, by norm_num⟩
  cos _ _ := ⟨4503599627370497 / 2 ^ 53, by change Represents 0.5000000000000001 _; decide +kernel,
    by norm_num⟩
  tan x a ha hpos _ := by
    have hne : x ≠ 0 := by
      rintro rfl
      have hzero : a = 0 := Option.some.inj (ha.symm.trans represents_zero)
      rw [hzero] at hpos
      norm_num at hpos
    change ∃ b, Represents (if x = 0 then 0 else -1.7320508075688783) b ∧ _
    rw [if_neg hne]
    exact ⟨-(7800463371553967 / 2 ^ 52), by decide +kernel, by norm_num⟩

end Angles
/-- A wavelength below the cutoff, for both geometries. -/
theorem forward_determined_iff_sampled :
    Angles.sampled.Sound ∧
      (∃ g, DoubleCrystal.make (1 : Float) 1 1 = .ok g ∧ Bounded 900 1 ∧
        ∃ es, (@DoubleCrystal.transform Float _ Angles.sampled g).forward 1 = .ok es ∧
          (∀ e ∈ es, Scalar.isFinite e = true) ∧
          (@DoubleCrystal.transform Float _ Angles.sampled g).Determines es) ∧
      ∃ g, Bragg.make (1 : Float) 0 = .ok g ∧ Bounded 900 0 ∧
        ∃ es, (@Bragg.transform Float _ Angles.sampled g).forward 1 = .ok es ∧
          (∀ e ∈ es, Scalar.isFinite e = true) ∧
          (@Bragg.transform Float _ Angles.sampled g).Determines es := by
  have hone : Bounded 900 1 := ⟨1, represents_unit, abs_one.trans_le (one_le_two_pow 900)⟩
  have hzero : Bounded 900 0 := ⟨0, by decide, by norm_num⟩
  obtain ⟨hbragg, hdouble⟩ := forward_determined_iff Angles.sampled Angles.sampled_sound
  have hmake : DoubleCrystal.make (1 : Float) 1 1 = .ok ⟨1, 1, 1⟩ := by decide
  have hmake' : Bragg.make (1 : Float) 0 = .ok ⟨1, 0⟩ := by decide
  have hes : (@DoubleCrystal.transform Float _ Angles.sampled ⟨1, 1, 1⟩).forward 1 =
      .ok [120, 60.00000000000001, -0.5773502691896254] := by decide +kernel
  have hes' : (@Bragg.transform Float _ Angles.sampled ⟨1, 0⟩).forward 1 =
      .ok [60.00000000000001, 30.000000000000004] := by decide +kernel
  obtain ⟨hfinite, hdetermines, -⟩ := hdouble 1 1 1 _ hmake hone hone 1 _ hes
  obtain ⟨hfinite', hdetermines'⟩ := hbragg 1 0 _ hmake' hone hzero 1 _ hes'
  refine ⟨Angles.sampled_sound, ⟨_, hmake, hone, _, hes, hfinite.mpr ?_, hdetermines.mpr ⟨?_, ?_⟩⟩,
    _, hmake', hzero, _, hes', hfinite', hdetermines'.mpr ?_⟩
  · decide
  · decide
  · decide
  · decide

/-- At the cutoff the stage is sent to infinity and the primary setpoint determines no wavelength.
For the least positive number as a wavelength, the quotient with the spacing is 0. -/
theorem cutoff_sends_infinite :
    Angles.sampled.Sound ∧
      (∃ g, DoubleCrystal.make (1 : Float) 1 1 = .ok g ∧
        (@DoubleCrystal.transform Float _ Angles.sampled g).forward 2 =
          .ok [0, 180, positiveInfinity] ∧
        ¬ (@DoubleCrystal.transform Float _ Angles.sampled g).Determines
          [0, 180, positiveInfinity]) ∧
      ∃ g, Bragg.make (1 : Float) 0 = .ok g ∧
        (@Bragg.transform Float _ Angles.sampled g).forward (Float.ofBits 1) = .ok [0, 0] ∧
        ¬ (@Bragg.transform Float _ Angles.sampled g).Determines [0, 0] := by
  refine ⟨Angles.sampled_sound, ⟨⟨1, 1, 1⟩, ?_, ?_, ?_⟩, ⟨1, 0⟩, ?_, ?_, ?_⟩
  · decide
  · decide +kernel
  · unfold Transform.Determines
    decide
  · decide
  · decide
  · unfold Transform.Determines
    decide

end Beamline
