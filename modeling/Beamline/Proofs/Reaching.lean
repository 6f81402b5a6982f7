import Beamline.Driver
import Beamline.Proofs.Spans
import Beamline.Proofs.Travelling

/-!
Which validated `MotorSettings` give a motor of binary64 that never panics. Proved here:

* `step_within`, `bounded_underway`: on its way the axis is at most twice as far from zero as the
  limits and its initial position, whatever is lost by rounding;
* `span_within`: at a speed of at least `2 ^ (n - 60)` every distance within that is a duration;
* `neverPanics_of_bounded`: so limits within `2 ^ n` and such a speed keep a motor from panicking;
* `validated_motor_panics_iff`: which requests panic, for every table that `validate` accepts;
* `speedless_motor_panics`: a table with the speed NaN is accepted, and its motor panics.
-/

namespace Beamline

namespace Rounding

variable {a b c d t bound : ℚ}

/-- `step_within` for a move towards smaller numbers; the other direction is its mirror image. -/
theorem below_within (hbound : 1 ≤ bound) (ha : |a| ≤ 2 * bound) (hb : |b| ≤ bound) (hle : b ≤ a)
    (hc : 0 ≤ c ∧ c ≤ 9 / 8) (hd : Rounds (b - a) d) (ht : Rounds (d * c) t) (hne : t ≠ 0) :
    |a + t| < 2 * bound := by
  have hd0 : d ≤ 0 := hd.nonpos (by linarith)
  have hdc0 : d * c ≤ 0 := mul_nonpos_of_nonpos_of_nonneg hd0 hc.1
  have hdc : 9 / 8 * d ≤ d * c := by nlinarith [hc.2]
  have ht0 : t < 0 := lt_of_le_of_ne (ht.nonpos hdc0) hne
  have hdnear := hd.rough
  have htnear := ht.rough
  rw [abs_of_nonpos (by linarith : b - a ≤ 0), abs_le] at hdnear
  rw [abs_of_nonpos hdc0, abs_le] at htnear
  rw [abs_le] at ha hb
  rw [abs_lt]
  constructor <;> linarith

theorem step_within (hbound : 1 ≤ bound) (ha : |a| ≤ 2 * bound) (hb : |b| ≤ bound)
    (hc : 0 ≤ c ∧ c ≤ 9 / 8) (hd : Rounds (b - a) d) (ht : Rounds (d * c) t) (hne : t ≠ 0) :
    |a + t| < 2 * bound := by
  rcases le_total b a with hle | hle
  · exact below_within hbound ha hb hle hc hd ht hne
  · have hd' : Rounds (-b - -a) (-d) := by
      rw [neg_sub_neg, ← neg_sub]
      exact hd.neg
    have ht' : Rounds (-d * c) (-t) := by
      rw [neg_mul]
      exact ht.neg
    have h := below_within (a := -a) (b := -b) hbound (by rwa [abs_neg]) (by rwa [abs_neg])
      (neg_le_neg hle) hc hd' ht' (neg_ne_zero.mpr hne)
    rwa [← neg_add, abs_neg] at h

/-- `x` is finite, and at most `2 ^ n` in magnitude. -/
def Bounded (n : Nat) (x : Float) : Prop := ∃ q, Represents x q ∧ |q| ≤ 2 ^ n

variable {n : Nat} {p x f speed : Float}

theorem one_le_two_pow (n : Nat) : (1 : ℚ) ≤ 2 ^ n := one_le_pow₀ (by norm_num)

theorem distance_within (hn : n ≤ 900) (hp : |a| ≤ 2 * 2 ^ n) (hx : |b| ≤ 2 ^ n)
    (ha : Represents p a) (hb : Represents x b) :
    ∃ d, Represents (x - p) d ∧ Rounds (b - a) d ∧ |d| ≤ 4 * 2 ^ n := by
  have hone := one_le_two_pow n
  have hway : |b - a| ≤ 3 * 2 ^ n := by
    refine (abs_sub b a).trans ?_
    linarith
  obtain ⟨d, hd, hround⟩ := hb.sub ha ⟨n + 2, by omega, hway.trans (by rw [pow_add]; linarith)⟩
  refine ⟨d, hd, hround, ?_⟩
  have hnear := hround.rough
  have htriangle := abs_sub_abs_le_abs_sub d (b - a)
  linarith

/-- A place between `p` and `x`, at a fraction of up to `9 / 8`. -/
theorem bounded_underway (hn : n ≤ 900) (hp : Bounded (n + 1) p) (hx : Bounded n x)
    (hf : ∃ c, Represents f c ∧ 0 ≤ c ∧ c ≤ 9 / 8) : Bounded (n + 1) (p + (x - p) * f) := by
  obtain ⟨a, ha, habound⟩ := hp
  obtain ⟨b, hb, hbbound⟩ := hx
  obtain ⟨c, hc, hcbounds⟩ := hf
  have hone := one_le_two_pow n
  rw [pow_succ'] at habound
  obtain ⟨d, hd, hdround, hdbound⟩ := distance_within hn habound hbbound ha hb
  have hpart : |d * c| ≤ 2 ^ (n + 3) := by
    rw [abs_mul, abs_of_nonneg hcbounds.1, pow_add]
    nlinarith [abs_nonneg d]
  obtain ⟨t, ht, htround⟩ := hd.mul hc ⟨n + 3, by omega, hpart⟩
  by_cases hne : t = 0
  · rw [hne] at ht
    exact ⟨a, ha.add_zero ht, by rwa [pow_succ']⟩
  · have hwithin := step_within hone habound hbbound hcbounds hdround htround hne
    rw [← pow_succ'] at hwithin
    obtain ⟨s, hs, hsround⟩ := ha.add ht ⟨n + 1, by omega, hwithin.le⟩
    exact ⟨s, hs, hsround.within _ hwithin⟩

theorem span_within (hn : n ≤ 900) (hp : Bounded (n + 1) p) (hx : Bounded n x)
    (hspeed : ∃ v, Represents speed v ∧ 2 ^ n ≤ v * 2 ^ 60) :
    (spanOfSeconds ((x - p).abs / speed)).isSome = true := by
  obtain ⟨a, ha, habound⟩ := hp
  obtain ⟨b, hb, hbbound⟩ := hx
  obtain ⟨v, hv, hvbound⟩ := hspeed
  have hone := one_le_two_pow n
  have hv0 : 0 < v := by
    by_contra hv0
    linarith
  rw [pow_succ'] at habound
  obtain ⟨d, hd, -, hdbound⟩ := distance_within hn habound hbbound ha hb
  have htime : |d| / v ≤ 2 ^ 62 := by
    rw [div_le_iff₀ hv0]
    linarith
  have htime0 : 0 ≤ |d| / v := by positivity
  obtain ⟨q, hq, hround⟩ :=
    hd.abs.div hv hv0.ne' ⟨62, by norm_num, by rwa [abs_of_nonneg htime0]⟩
  refine spanOfSeconds_isSome hq (hround.nonneg htime0) ?_
  have hnear := hround.rough
  rw [abs_of_nonneg htime0, abs_le] at hnear
  linarith

end Rounding

open Rounding

namespace Motor

variable {m : Motor Float} {range : Limits Float} {n : Nat} {p x : Float}

theorem travelTime_lt {distance : Float} {travel : Nat} (h : m.travelTime distance = some travel) :
    travel < twoTo 64 * tenTo 9 := by
  unfold travelTime at h
  split at h
  · cases h
    decide
  · exact spanOfSeconds_lt h

theorem Admits.bounded (hlimits : m.limits = some range) (hmin : Bounded n range.min)
    (hmax : Bounded n range.max) (hx : m.Admits x) : Bounded n x := by
  obtain ⟨a, ha, habound⟩ := hmin
  obtain ⟨b, hb, hbbound⟩ := hmax
  obtain ⟨q, hq⟩ := represents_of_isFinite hx.1
  obtain ⟨hlo, hhi⟩ := Limits.contains_iff.mp (hx.2 range hlimits)
  refine ⟨q, hq, abs_le.mpr ⟨?_, ?_⟩⟩
  · exact (abs_le.mp habound).1.trans (ha.le hq hlo)
  · exact (hq.le hb hhi).trans (abs_le.mp hbbound).2

theorem Reaches.bounded (hn : n ≤ 900) (hlimits : m.limits = some range)
    (hmin : Bounded n range.min) (hmax : Bounded n range.max) (hposition : Bounded n m.position)
    (hp : m.Reaches p) : Bounded (n + 1) p := by
  have hwider : ∀ {x}, Bounded n x → Bounded (n + 1) x := by
    rintro x ⟨q, hq, hbound⟩
    exact ⟨q, hq, hbound.trans (pow_le_pow_right₀ (by norm_num) (Nat.le_succ n))⟩
  induction hp with
  | start => exact hwider hposition
  | arrived hx => exact hwider (hx.bounded hlimits hmin hmax)
  | @underway p x travel elapsed _ hx htravel hlt ih =>
    exact bounded_underway hn ih (hx.bounded hlimits hmin hmax)
      (part_le hlt (travelTime_lt htravel))

/-- A travel time is at least a second below `durationEnd` (`travelTime_lt`). -/
theorem movesEnd_of_settlingTime (h : m.settlingTime < tenTo 9) : m.MovesEnd := by
  intro distance travel htravel
  unfold travelTime at htravel
  split at htravel
  · cases htravel
    have hroom : tenTo 9 ≤ durationEnd := by decide
    omega
  · have hle := spanOfSeconds_le htravel
    omega

theorem neverPanics_of_bounded (hquiet : m.faults.Quiet) (hends : m.MovesEnd)
    (hrest : m.motion = none) (hn : n ≤ 900) (hlimits : m.limits = some range)
    (hmin : Bounded n range.min) (hmax : Bounded n range.max) (hposition : Bounded n m.position)
    (hspeed : ∃ v, Represents m.speed v ∧ 2 ^ n ≤ v * 2 ^ 60) : m.NeverPanics := by
  rw [neverPanics_iff hquiet hends hrest]
  intro p x hp hx
  unfold travelTime
  split
  · rfl
  · exact span_within hn (hp.bounded hn hlimits hmin hmax hposition)
      (hx.bounded hlimits hmin hmax) hspeed

end Motor

namespace MotorSettings

/-- Limits and initial position are at most `2 ^ n` in magnitude, and the speed is at least
`2 ^ (n - 60)`. -/
structure Confined (s : MotorSettings) (n : Nat) : Prop where
  limits : ∃ range, s.limits = some range ∧ Bounded n range.min ∧ Bounded n range.max
  position : Bounded n s.position
  speed : ∃ v, Represents s.speed v ∧ 2 ^ n ≤ v * 2 ^ 60

/-- `travelTime` of the motor with these settings is none for `distance`. -/
def Endless (s : MotorSettings) (distance : Float) : Prop :=
  s.pacing = .realistic ∧ spanOfSeconds (distance.abs / s.speed) = none

theorem travelTime_eq_none_iff (s : MotorSettings) (name : String) (distance : Float) :
    (s.motor name).travelTime distance = none ↔ s.Endless distance := by
  unfold Motor.travelTime Endless
  split
  · rename_i hpacing
    refine iff_of_false (by simp) ?_
    rintro ⟨hrealistic, -⟩
    cases hpacing.symm.trans hrealistic
  · rename_i hpacing
    exact (and_iff_right hpacing).symm

theorem movesEnd (s : MotorSettings) (name : String) : (s.motor name).MovesEnd := by
  refine Motor.movesEnd_of_settlingTime ?_
  unfold Motor.settlingTime
  split
  · decide
  · exact (by decide : Timing.motor.settling < tenTo 9)

theorem neverPanics_iff_endless (s : MotorSettings) (name : String) :
    (s.motor name).NeverPanics ↔
      ∀ p x, (s.motor name).Reaches p → (s.motor name).Admits x → ¬ s.Endless (x - p) := by
  rw [Motor.neverPanics_iff Faults.quiet_none (s.movesEnd name) rfl]
  refine forall₄_congr fun p x _ _ => ?_
  rw [← travelTime_eq_none_iff s name, Option.isSome_iff_ne_none]

theorem Confined.neverPanics {s : MotorSettings} {n : Nat} (h : s.Confined n) (hn : n ≤ 900)
    (name : String) : (s.motor name).NeverPanics := by
  obtain ⟨range, hlimits, hmin, hmax⟩ := h.limits
  exact Motor.neverPanics_of_bounded Faults.quiet_none (s.movesEnd name) rfl hn hlimits hmin hmax
    h.position h.speed

theorem endless_of_infinite {s : MotorSettings} (hpacing : s.pacing = .realistic) {distance : Float}
    (h : distance.isFinite = false) : s.Endless distance :=
  ⟨hpacing, spanOfSeconds_infinite (isFinite_div (isFinite_abs h))⟩

theorem endless_of_nan {s : MotorSettings} (hpacing : s.pacing = .realistic)
    (h : s.speed.isNaN = true) (distance : Float) : s.Endless distance :=
  ⟨hpacing, spanOfSeconds_infinite (isFinite_div_nan h)⟩

/-- The largest finite number. -/
def utmost : Float := Float.ofBits 0x7fefffffffffffff

/-- Necessary for a realistic motor that admits some target and never panics. -/
theorem needed (s : MotorSettings) {name : String} (hpacing : s.pacing = .realistic) {x : Float}
    (hx : (s.motor name).Admits x) (hnever : (s.motor name).NeverPanics) :
    s.limits ≠ none ∧ s.speed.isNaN = false ∧ s.position.isFinite = true := by
  rw [neverPanics_iff_endless] at hnever
  refine ⟨fun hlimits => ?_, ?_, ?_⟩
  · -- from one end of the range of binary64 it is too far to the other
    have hadmits : ∀ y : Float, y.isFinite = true → (s.motor name).Admits y := by
      intro y hy
      refine ⟨hy, fun range hrange => ?_⟩
      cases hlimits.symm.trans hrange
    have hfar : (utmost - -utmost).isFinite = false := by decide
    exact hnever _ _ (.arrived (hadmits (-utmost) (by decide)))
      (hadmits utmost (by decide)) (endless_of_infinite hpacing hfar)
  · rw [← Bool.not_eq_true]
    intro hnan
    exact hnever _ x .start hx (endless_of_nan hpacing hnan _)
  · rw [← Bool.not_eq_false]
    intro hinfinite
    exact hnever _ x .start hx (endless_of_infinite hpacing (isFinite_sub hinfinite))

end MotorSettings

/-- For every table that `validate` accepts the driver builds a motor. After any run without `place`
a request to it panics if and only if it is a start to an admitted target at an `Endless` distance
from the position at that time. So the motor never panics if and only if no distance from a reached
place to an admitted target is `Endless`. For an instant motor that is so; for a realistic one it is
if the settings are `Confined n` with `n ≤ 900`; and a realistic one that admits any target needs
limits, a speed that is a number and a finite initial position for it. -/
theorem validated_motor_panics_iff (name : String) (v : Toml)
    (h : motorDriver.validate v = .ok ()) :
    ∃ s, MotorSettings.ofToml? v = some s ∧
      motorDriver.build name v = .ok (.motor (s.motor name)) ∧
      (∀ xs, Motor.Unhandled xs → ∀ now q,
        Motor.Panics (Motor.serve now q (Motor.serve.after xs (s.motor name))).1 ↔
          ∃ x, q = .start (.scalar x) ∧ (s.motor name).Admits x ∧
            s.Endless (x - (Motor.serve.after xs (s.motor name)).positionAt now)) ∧
      ((s.motor name).NeverPanics ↔
        ∀ p x, (s.motor name).Reaches p → (s.motor name).Admits x → ¬ s.Endless (x - p)) ∧
      (s.pacing = .instant → (s.motor name).NeverPanics) ∧
      (∀ n ≤ 900, s.Confined n → (s.motor name).NeverPanics) ∧
      (s.pacing = .realistic → ∀ x, (s.motor name).Admits x → (s.motor name).NeverPanics →
        s.limits ≠ none ∧ s.speed.isNaN = false ∧ s.position.isFinite = true) := by
  cases hs : MotorSettings.ofToml? v with
  | none =>
    simp only [motorDriver, hs] at h
    cases h
  | some s =>
    have hnever := s.neverPanics_iff_endless name
    refine ⟨s, rfl, ?_, fun xs hxs now q => ?_, hnever, fun hinstant => ?_,
      fun n hn hconfined => hconfined.neverPanics hn name,
      fun hpacing x hx hnever => s.needed hpacing hx hnever⟩
    · simp only [motorDriver, hs]
    · have hfollows := (Motor.Follows.refl (m := s.motor name) rfl).after Faults.quiet_none hxs
      simp only [hfollows.panics_iff Faults.quiet_none (s.movesEnd name),
        MotorSettings.travelTime_eq_none_iff]
    · refine hnever.mpr fun p x _ _ hendless => ?_
      cases hinstant.symm.trans hendless.1

/-- An axis with limits -100 and 100 and a speed of 2.5. -/
def stageTable : Toml := .table .header
  [("limits", .list false [.integer (-100), .integer 100]), ("speed", .float 2.5),
    ("mode", .text "realistic")]

theorem validated_motor_panics_iff_stage :
    motorDriver.validate stageTable = .ok () ∧
      ∃ m, motorDriver.build "stage" stageTable = .ok (.motor m) ∧ m.pacing = .realistic ∧
        m.NeverPanics := by
  have h : motorDriver.validate stageTable = .ok () := except_eq_ok_of_isOk (by decide)
  have hread : MotorSettings.ofToml? stageTable =
      some ⟨0, 2.5, "mm", some ⟨-100, 100⟩, .realistic⟩ := by decide
  obtain ⟨s, hs, hbuild, -, -, -, hconfined, -⟩ := validated_motor_panics_iff "stage" stageTable h
  obtain rfl := Option.some.inj (hread.symm.trans hs)
  refine ⟨h, _, hbuild, rfl, hconfined 7 (by decide) ⟨⟨_, rfl, ?_, ?_⟩, ?_, ?_⟩⟩
  · exact ⟨-100, by decide +kernel, by norm_num⟩
  · exact ⟨100, by decide +kernel, by norm_num⟩
  · exact ⟨0, by decide, by norm_num⟩
  · exact ⟨5 / 2, by decide +kernel, by norm_num⟩

/-- The check `speed ≤ 0` is false of NaN. -/
def speedlessTable : Toml := .table .header
  [("speed", .float notANumber), ("mode", .text "realistic")]

/-- `speedlessTable` is accepted, and a start of the motor built from it panics. -/
theorem speedless_motor_panics :
    motorDriver.validate speedlessTable = .ok () ∧
      ∃ m, motorDriver.build "m" speedlessTable = .ok (.motor m) ∧ ¬ m.NeverPanics ∧
        Motor.Panics (Motor.serve 0 (.start (.scalar 1)) m).1 := by
  have h : motorDriver.validate speedlessTable = .ok () := except_eq_ok_of_isOk (by decide)
  let s : MotorSettings := ⟨0, notANumber, "mm", none, .realistic⟩
  have hread : MotorSettings.ofToml? speedlessTable = some s := by decide
  have hadmits : (s.motor "m").Admits 1 := ⟨by decide, by simp [s, MotorSettings.motor]⟩
  have hnan : s.speed.isNaN = true := by decide
  refine ⟨h, s.motor "m", by simp only [motorDriver, hread], fun hnever => ?_, ?_⟩
  · cases hnan.symm.trans (s.needed rfl hadmits hnever).2.1
  · refine (Motor.panics_serve_iff Faults.quiet_none rfl 0 _).mpr ⟨1, rfl, hadmits, ?_⟩
    exact (s.travelTime_eq_none_iff "m" _).mpr (MotorSettings.endless_of_nan rfl hnan _)

end Beamline
