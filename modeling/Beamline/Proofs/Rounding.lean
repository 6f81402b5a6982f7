import Beamline.Proofs.Fractions

/-!
Error bounds of binary64 arithmetic. `Rounds q p` says what is used of rounding `q` to `p`: a
relative and an absolute error, the same sign, and no power of two in between. Proved here:

* `roundWithAccuracy_rounds`: `UnpackedFloat.roundWithAccuracy` rounds a magnitude of which the
  mantissa is the `WholePart`;
* `add_rounds`, `mul_rounds`, `div_rounds`: the operations on canonical numbers round the exact
  result, if that is `InRange`;
* `Represents.add`, `Represents.sub`, `Represents.mul`, `Represents.div`: the same of `Float`.
-/

namespace Beamline.Rounding

open Float.Model (Format UnpackedFloat totalExponent)
open Float.Model.UnpackedFloat

/-- `p` is `q` rounded to binary64, by either neighbour of `q`. -/
structure Rounds (q p : ℚ) : Prop where
  near : |p - q| ≤ |q| / 2 ^ 50 + 2 ^ (-1074 : Int)
  within : ∀ k : Nat, |q| < 2 ^ k → |p| ≤ 2 ^ k
  nonneg : 0 ≤ q → 0 ≤ p
  nonpos : q ≤ 0 → p ≤ 0

/-- At most `2 ^ 1000` in magnitude, so that nothing overflows. -/
def InRange (q : ℚ) : Prop := ∃ k : Nat, k ≤ 1000 ∧ |q| ≤ 2 ^ k

theorem Rounds.refl (q : ℚ) : Rounds q q where
  near := by
    rw [sub_self, abs_zero]
    positivity
  within _ h := h.le
  nonneg h := h
  nonpos h := h

theorem Rounds.neg {q p : ℚ} (h : Rounds q p) : Rounds (-q) (-p) where
  near := by
    rw [← neg_sub', abs_neg, abs_neg]
    exact h.near
  within k hk := by
    rw [abs_neg] at hk ⊢
    exact h.within k hk
  nonneg hq := neg_nonneg.mpr (h.nonpos (neg_nonneg.mp hq))
  nonpos hq := neg_nonpos.mpr (h.nonneg (neg_nonpos.mp hq))

theorem Rounds.factor {q p : ℚ} (h : Rounds q p) (s : Sign) :
    Rounds (factor s * q) (factor s * p) := by
  cases s
  · rw [factor_negative, neg_one_mul, neg_one_mul]
    exact h.neg
  · rw [factor_positive, one_mul, one_mul]
    exact h

theorem inRange_factor {q : ℚ} {s : Sign} : InRange (factor s * q) ↔ InRange q := by
  simp only [InRange, abs_mul, abs_factor, one_mul]

/-! ## Rounding a mantissa -/

theorem mantissa_shiftRight (em : ExtendedMantissa) (k : Nat) :
    (em >>> k).mantissa = em.mantissa / 2 ^ k := by
  change (k.repeat ExtendedMantissa.shiftRightOne em).mantissa = _
  induction k with
  | zero => simp [Nat.repeat]
  | succ k ih =>
    simp only [Nat.repeat, ExtendedMantissa.shiftRightOne, ih, Nat.div_div_eq_div_mul, Nat.pow_succ]

theorem mantissa_ofAccuracy (m : Nat) (a : Accuracy) :
    (ExtendedMantissa.ofMantissaAndAccuracy m a).mantissa = m := by
  cases a with
  | exact => rfl
  | inexact o => cases o <;> rfl

theorem roundedMantissa_near (em : ExtendedMantissa) :
    em.mantissa ≤ em.roundedMantissa ∧ em.roundedMantissa ≤ em.mantissa + 1 := by
  unfold ExtendedMantissa.roundedMantissa
  cases em.accuracy with
  | exact => exact ⟨Nat.le_refl _, Nat.le_succ _⟩
  | inexact o => cases o <;> simp only [Accuracy.roundToNearestEven] <;> omega

/-- Shifting out `k` bits and rounding adds at most half of `2 ^ k`. -/
theorem roundedMantissa_half (m k : Nat) :
    2 * ((ExtendedMantissa.mk m false false >>> k).roundedMantissa * 2 ^ k) ≤ 2 * m + 2 ^ k := by
  cases k with
  | zero =>
    change 2 * (m * 2 ^ 0) ≤ _
    omega
  | succ k =>
    obtain ⟨em, hem, hmantissa⟩ : ∃ em : ExtendedMantissa,
        ExtendedMantissa.mk m false false >>> (k + 1) = em.shiftRightOne ∧
          em.mantissa = m / 2 ^ k := ⟨_, rfl, mantissa_shiftRight _ k⟩
    have hwhole : em.mantissa * 2 ^ k ≤ m := hmantissa ▸ Nat.div_mul_le_self m (2 ^ k)
    have hsplit := Nat.div_add_mod em.mantissa 2
    have hround : 2 * em.shiftRightOne.roundedMantissa ≤ em.mantissa + 1 := by
      unfold ExtendedMantissa.shiftRightOne ExtendedMantissa.roundedMantissa
      rcases Nat.mod_two_eq_zero_or_one em.mantissa with h | h <;>
        cases em.roundBit <;> cases em.stickyBit <;>
        simp [h, ExtendedMantissa.accuracy, Accuracy.roundToNearestEven] <;> omega
    have hscaled := Nat.mul_le_mul_right (2 ^ k) hround
    rw [hem, Nat.pow_succ]
    rw [Nat.mul_assoc, Nat.add_mul, Nat.one_mul] at hscaled
    generalize em.shiftRightOne.roundedMantissa = r at *
    have hcomm : r * (2 ^ k * 2) = r * 2 ^ k * 2 := (Nat.mul_assoc ..).symm
    omega

/-- The least exponent, from -1074 on, at which the mantissa has at most 53 bits. -/
def least (m : Nat) (e : Int) : Int := max ((m.log2 : Int) + e - 52) (-1074)

theorem targetExponent_eq (m : Nat) (e : Int) :
    Format.binary64.targetExponent (totalExponent m e) = least m e := by
  have hmin : Format.binary64.minExponent = -1074 := by decide
  have hbits : Format.binary64.mantissaBits = 53 := by decide
  simp only [Format.targetExponent, totalExponent, least, hmin, hbits]
  omega

theorem div_least_lt (m : Nat) (e : Int) : m / 2 ^ (least m e - e).toNat < 2 ^ 53 := by
  rw [Nat.div_lt_iff_lt_mul (Nat.two_pow_pos _), ← Nat.pow_add]
  refine Nat.lt_of_lt_of_le Nat.lt_log2_self (Nat.pow_le_pow_right (by decide) ?_)
  unfold least
  omega

theorem le_div_least {m : Nat} {e : Int} (hm : 0 < m) (he : e ≤ least m e)
    (h : -1074 < least m e) : 2 ^ 52 ≤ m / 2 ^ (least m e - e).toNat := by
  rw [Nat.le_div_iff_mul_le (Nat.two_pow_pos _), ← Nat.pow_add]
  refine Nat.le_trans (Nat.pow_le_pow_right (by decide) ?_) (Nat.log2_self_le (Nat.ne_of_gt hm))
  unfold least at *
  omega

/-- A mantissa rounded up to `2 ^ 53` has one bit too many, every other one fits. -/
theorem least_of_fit {r : Nat} {e : Int} (hr : r ≤ 2 ^ 53) (he : -1074 ≤ e) :
    (r < 2 ^ 53 ∧ (least r e - e).toNat = 0) ∨ (r = 2 ^ 53 ∧ (least r e - e).toNat = 1) := by
  rcases Nat.lt_or_eq_of_le hr with h | rfl
  · have hlog : r.log2 ≤ 52 := by
      rcases Nat.eq_zero_or_pos r with rfl | hpos
      · decide
      · exact Nat.lt_succ_iff.mp ((Nat.log2_lt (Nat.ne_of_gt hpos)).mpr h)
    refine .inl ⟨h, ?_⟩
    unfold least
    omega
  · refine .inr ⟨rfl, ?_⟩
    rw [least, Nat.log2_two_pow]
    omega

/-- The number with mantissa `r` at exponent `e`, shifted once more where `r = 2 ^ 53`. -/
def carry (s : Sign) (r : Nat) (e : Int) : UnpackedFloat :=
  if h : r / 2 ^ (least r e - e).toNat = 0 then .zero s
  else .finite s (r / 2 ^ (least r e - e).toNat) (e + (least r e - e).toNat) (Nat.pos_of_ne_zero h)

theorem carry_canonical (s : Sign) {r : Nat} {e : Int} (hr : r ≤ 2 ^ 53) (hmin : -1074 ≤ e)
    (hmax : e ≤ 970) (hnormal : 2 ^ 52 ≤ r ∨ e = -1074) : Canonical (carry s r e) := by
  unfold carry
  rcases least_of_fit hr hmin with ⟨hlt, hk⟩ | ⟨rfl, hk⟩
  · simp only [hk, Nat.pow_zero, Nat.div_one]
    split
    · exact .zero s
    · exact .finite hlt (by omega) (by omega) (by omega)
  · simp only [hk]
    exact .finite (by decide) (by omega) (by omega) (.inl (by decide))

theorem exact_carry (s : Sign) {r : Nat} {e : Int} (hr : r ≤ 2 ^ 53) (hmin : -1074 ≤ e) :
    exact (carry s r e) = factor s * (r * 2 ^ e) := by
  unfold carry
  rcases least_of_fit hr hmin with ⟨hlt, hk⟩ | ⟨rfl, hk⟩
  · simp only [hk, Nat.pow_zero, Nat.div_one]
    split
    · rename_i hzero
      rw [hzero, Nat.cast_zero, zero_mul, mul_zero]
      rfl
    · rw [exact_finite, Nat.cast_zero, add_zero]
  · have hdouble : (2 : ℚ) ^ (e + ((1 : Nat) : Int)) = 2 ^ e * 2 := by
      rw [Nat.cast_one, zpow_add_one₀ (by norm_num)]
    have hhalf : ((2 ^ 53 / 2 ^ 1 : Nat) : ℚ) * 2 = (2 ^ 53 : Nat) := by norm_num
    simp only [hk]
    rw [dif_neg (by decide), exact_finite, hdouble, ← hhalf]
    ring

/-- The result has one of the two mantissas next to the exact one, and an exact magnitude is
exceeded by at most half a unit. -/
theorem roundWithAccuracy_eq (s : Sign) (m : Nat) (e : Int) (a : Accuracy) (he : e ≤ least m e) :
    ∃ r, m / 2 ^ (least m e - e).toNat ≤ r ∧ r ≤ m / 2 ^ (least m e - e).toNat + 1 ∧
      (a = .exact → 2 * (r * 2 ^ (least m e - e).toNat) ≤ 2 * m + 2 ^ (least m e - e).toNat) ∧
      roundWithAccuracy Format.binary64 s m e a = carry s r (least m e) := by
  have hnear := roundedMantissa_near
    (ExtendedMantissa.ofMantissaAndAccuracy m a >>> (least m e - e).toNat)
  rw [mantissa_shiftRight, mantissa_ofAccuracy] at hnear
  refine ⟨_, hnear.1, hnear.2, ?_, ?_⟩
  · rintro rfl
    exact roundedMantissa_half m _
  · have hexponent : e + ((least m e - e).toNat : Int) = least m e := by omega
    simp only [roundWithAccuracy, shiftToTargetExponent, shiftToExponent, targetExponent_eq,
      mantissa_shiftRight, mantissa_ofAccuracy, hexponent, carry]

/-! ## Magnitudes -/

theorem two_zpow_split {t e : Int} (h : e ≤ t) : (2 : ℚ) ^ t = 2 ^ (t - e).toNat * 2 ^ e := by
  rw [← zpow_natCast, ← zpow_add₀ (by norm_num)]
  congr 1
  omega

theorem two_zpow_log2_le {m : Nat} (hm : 0 < m) (e : Int) :
    (2 : ℚ) ^ ((m.log2 : Int) + e) ≤ m * 2 ^ e := by
  rw [zpow_add₀ (by norm_num), zpow_natCast]
  have hlog : ((2 ^ m.log2 : Nat) : ℚ) ≤ m := by
    exact_mod_cast Nat.log2_self_le (Nat.ne_of_gt hm)
  rw [Nat.cast_pow, Nat.cast_ofNat] at hlog
  exact mul_le_mul_of_nonneg_right hlog (two_zpow_pos e).le

/-- `m * 2 ^ e` is `q` rounded down to a multiple of `2 ^ e`, and `m` has at least the 53 bits that
the result keeps, or `e` is below the least exponent. -/
structure WholePart (m : Nat) (e : Int) (q : ℚ) : Prop where
  positive : 0 < q
  lower : m * (2 : ℚ) ^ e ≤ q
  upper : q ≤ (m + 1) * (2 : ℚ) ^ e
  fits : e ≤ least m e

namespace WholePart

variable {m k : Nat} {e : Int} {q : ℚ}

theorem least_or_pos (h : WholePart m e q) : least m e = -1074 ∨ 0 < m := by
  rcases Nat.eq_zero_or_pos m with rfl | hm
  · have hfits := h.fits
    have hlog : Nat.log2 0 = 0 := by decide
    unfold least at *
    omega
  · exact .inr hm

theorem leading_le (h : WholePart m e q) (hm : 0 < m) : (2 : ℚ) ^ ((m.log2 : Int) + e) ≤ q :=
  (two_zpow_log2_le hm e).trans h.lower

theorem least_le (h : WholePart m e q) (hq : InRange q) : least m e ≤ 948 := by
  obtain ⟨k, hk, hq⟩ := hq
  rcases h.least_or_pos with hleast | hm
  · omega
  · have hpow : (2 : ℚ) ^ ((m.log2 : Int) + e) ≤ 2 ^ (k : Int) := by
      rw [zpow_natCast]
      exact (h.leading_le hm).trans ((le_abs_self q).trans hq)
    have hexponent := (zpow_le_zpow_iff_right₀ (by norm_num)).mp hpow
    unfold least
    omega

theorem normal (h : WholePart m e q) :
    2 ^ 52 ≤ m / 2 ^ (least m e - e).toNat ∨ least m e = -1074 := by
  rcases h.least_or_pos with hleast | hm
  · exact .inr hleast
  · by_cases hleast : least m e = -1074
    · exact .inr hleast
    · have hmin : -1074 ≤ least m e := le_max_right _ _
      exact .inl (le_div_least hm h.fits (lt_of_le_of_ne hmin (Ne.symm hleast)))

theorem unit_le_or (h : WholePart m e q) :
    least m e = -1074 ∨ (2 : ℚ) ^ least m e ≤ q / 2 ^ 52 := by
  by_cases hleast : least m e = -1074
  · exact .inl hleast
  · have hexponent : least m e = (m.log2 : Int) + e - 52 := by
      unfold least at *
      omega
    have hlead := h.leading_le (h.least_or_pos.resolve_left hleast)
    have hsplit : (2 : ℚ) ^ ((m.log2 : Int) + e) = 2 ^ least m e * 2 ^ 52 := by
      rw [hexponent, ← zpow_natCast, ← zpow_add₀ (by norm_num)]
      congr 1
      norm_num
    rw [hsplit] at hlead
    exact .inr ((le_div_iff₀ (by norm_num)).mpr hlead)

theorem unit_le (h : WholePart m e q) : (2 : ℚ) ^ least m e ≤ q / 2 ^ 50 + 2 ^ (-1074 : Int) := by
  have hpositive := h.positive
  have hmin := two_zpow_pos (-1074)
  rcases h.unit_le_or with hleast | hunit
  · rw [hleast]
    linarith
  · linarith

theorem least_le_of_lt (h : WholePart m e q) (hk : q < 2 ^ k) : least m e ≤ k := by
  by_cases hleast : least m e = -1074
  · omega
  · have hexponent : least m e ≤ (m.log2 : Int) + e := by
      unfold least at *
      omega
    have hpow : (2 : ℚ) ^ ((m.log2 : Int) + e) < 2 ^ (k : Int) := by
      rw [zpow_natCast]
      exact (h.leading_le (h.least_or_pos.resolve_left hleast)).trans_lt hk
    exact hexponent.trans ((zpow_lt_zpow_iff_right₀ (by norm_num)).mp hpow).le

/-- The exact magnitude lies between the two mantissas at the exponent of the result. -/
theorem neighbours (h : WholePart m e q) :
    ((m / 2 ^ (least m e - e).toNat : Nat) : ℚ) * 2 ^ least m e ≤ q ∧
      q ≤ ((m / 2 ^ (least m e - e).toNat : Nat) + 1) * 2 ^ least m e := by
  have hpos := two_zpow_pos e
  rw [two_zpow_split h.fits, ← mul_assoc, ← mul_assoc]
  generalize (least m e - e).toNat = k
  have hbelow : ((m / 2 ^ k : Nat) : ℚ) * 2 ^ k ≤ m := by
    exact_mod_cast Nat.div_mul_le_self m (2 ^ k)
  have habove : (m : ℚ) + 1 ≤ ((m / 2 ^ k : Nat) + 1) * 2 ^ k := by
    exact_mod_cast Nat.lt_mul_of_div_lt (Nat.lt_succ_self _) (Nat.two_pow_pos k)
  exact ⟨(mul_le_mul_of_nonneg_right hbelow hpos.le).trans h.lower,
    h.upper.trans (mul_le_mul_of_nonneg_right habove hpos.le)⟩

/-- Both sides are multiples of `2 ^ least m e`. -/
theorem above_le (h : WholePart m e q) (hk : q < 2 ^ k) :
    ((m / 2 ^ (least m e - e).toNat : Nat) + 1) * (2 : ℚ) ^ least m e ≤ 2 ^ k := by
  have hbelow := h.neighbours.1.trans_lt hk
  have hpos := two_zpow_pos (least m e)
  have hunit := two_zpow_split (h.least_le_of_lt hk)
  rw [zpow_natCast] at hunit
  rw [hunit] at hbelow ⊢
  have hlt := lt_of_mul_lt_mul_right hbelow hpos.le
  refine mul_le_mul_of_nonneg_right ?_ hpos.le
  exact_mod_cast Nat.succ_le_of_lt (by exact_mod_cast hlt)

/-- Either neighbour `r` satisfies `Rounds`. -/
theorem rounds (h : WholePart m e q) {r : Nat} (hlo : m / 2 ^ (least m e - e).toNat ≤ r)
    (hhi : r ≤ m / 2 ^ (least m e - e).toNat + 1) : Rounds q (r * 2 ^ least m e) := by
  have hpos := two_zpow_pos (least m e)
  obtain ⟨hbelow, habove⟩ := h.neighbours
  have hlo' : ((m / 2 ^ (least m e - e).toNat : Nat) : ℚ) ≤ r := by exact_mod_cast hlo
  have hhi' : (r : ℚ) ≤ (m / 2 ^ (least m e - e).toNat : Nat) + 1 := by exact_mod_cast hhi
  have hrlo := mul_le_mul_of_nonneg_right hlo' hpos.le
  have hrhi := mul_le_mul_of_nonneg_right hhi' hpos.le
  refine ⟨?_, fun k hk => ?_, fun _ => by positivity, fun hq => absurd h.positive (not_lt.mpr hq)⟩
  · rw [abs_of_pos h.positive]
    refine le_trans ?_ h.unit_le
    rw [abs_le]
    constructor <;> linarith
  · rw [abs_of_pos h.positive] at hk
    rw [abs_of_nonneg (by positivity)]
    exact hrhi.trans (h.above_le hk)

end WholePart

theorem roundWithAccuracy_rounds (s : Sign) {m : Nat} {e : Int} (a : Accuracy) {q : ℚ}
    (h : WholePart m e q) (hq : InRange q) :
    Canonical (roundWithAccuracy Format.binary64 s m e a) ∧
      Rounds (factor s * q) (exact (roundWithAccuracy Format.binary64 s m e a)) := by
  obtain ⟨r, hlo, hhi, -, hround⟩ := roundWithAccuracy_eq s m e a h.fits
  have hr : r ≤ 2 ^ 53 := hhi.trans (div_least_lt m e)
  have hmin : -1074 ≤ least m e := le_max_right _ _
  have hmax := h.least_le hq
  have hnormal := h.normal
  rw [hround, exact_carry s hr hmin]
  exact ⟨carry_canonical s hr hmin (by omega) (by omega), (h.rounds hlo hhi).factor s⟩

theorem least_shift {m : Nat} (hm : 0 < m) (e : Int) (j : Nat) :
    least (m * 2 ^ j) (e - j) = least m e := by
  have hlog : (m * 2 ^ j).log2 = m.log2 + j := by
    have hpos : m * 2 ^ j ≠ 0 := Nat.ne_of_gt (Nat.mul_pos hm (Nat.two_pow_pos j))
    rw [Nat.log2_eq_iff hpos, Nat.pow_add, Nat.add_right_comm, Nat.pow_add]
    exact ⟨Nat.mul_le_mul_right _ (Nat.log2_self_le (Nat.ne_of_gt hm)),
      Nat.mul_lt_mul_of_pos_right Nat.lt_log2_self (Nat.two_pow_pos j)⟩
  unfold least
  rw [hlog]
  omega

theorem mantissa_shift (m j : Nat) (e : Int) :
    ((m * 2 ^ j : Nat) : ℚ) * 2 ^ (e - j) = m * 2 ^ e := by
  rw [Nat.cast_mul, Nat.cast_pow, Nat.cast_ofNat, mul_assoc, ← zpow_natCast,
    ← zpow_add₀ (by norm_num)]
  congr 2
  omega

/-- `UnpackedFloat.round` first appends zero bits to the mantissa, until it has 53 of them. -/
theorem round_eq (s : Sign) {m : Nat} (hm : 0 < m) (e : Int) :
    ∃ (m' : Nat) (e' : Int), (m' : ℚ) * 2 ^ e' = m * 2 ^ e ∧ WholePart m' e' (m' * 2 ^ e') ∧
      UnpackedFloat.round Format.binary64 s m e =
        roundWithAccuracy Format.binary64 s m' e' .exact := by
  have hpos := two_zpow_pos (e - ((e - least m e).toNat : Int))
  have hm' : 0 < m * 2 ^ (e - least m e).toNat := Nat.mul_pos hm (Nat.two_pow_pos _)
  refine ⟨m * 2 ^ (e - least m e).toNat, e - ((e - least m e).toNat : Int),
    mantissa_shift m _ e, ⟨mul_pos (by exact_mod_cast hm') hpos, le_rfl, ?_, ?_⟩, ?_⟩
  · rw [add_mul]
    linarith
  · rw [least_shift hm]
    omega
  · simp only [UnpackedFloat.round, decreaseExponent, targetExponent_eq, Nat.shiftLeft_eq]

theorem round_rounds (s : Sign) {m : Nat} {e : Int} (hm : 0 < m)
    (hq : InRange (m * 2 ^ e)) :
    Canonical (UnpackedFloat.round Format.binary64 s m e) ∧
      Rounds (factor s * (m * 2 ^ e)) (exact (UnpackedFloat.round Format.binary64 s m e)) := by
  obtain ⟨m', e', hexact, hwhole, hround⟩ := round_eq s hm e
  rw [hround, ← hexact]
  exact roundWithAccuracy_rounds s .exact hwhole (hexact ▸ hq)

theorem normalize_cases (m e : Int) (zero : Sign) :
    m = 0 ∧ UnpackedFloat.normalize Format.binary64 m e zero = .zero zero ∨
      ∃ (s : Sign) (n : Nat), 0 < n ∧ (m : ℚ) = factor s * n ∧
        UnpackedFloat.normalize Format.binary64 m e zero =
          UnpackedFloat.round Format.binary64 s n e := by
  unfold UnpackedFloat.normalize
  split
  · rename_i h
    have hneg : m < 0 := Int.compare_eq_lt.mp h
    refine .inr ⟨.negative, (-m).toNat, by omega, ?_, rfl⟩
    have hcast : (((-m).toNat : Int) : ℚ) = -m := by
      rw [Int.toNat_of_nonneg (by omega), Int.cast_neg]
    rw [Int.cast_natCast] at hcast
    rw [hcast, factor_negative, neg_one_mul, neg_neg]
  · rename_i h
    exact .inl ⟨Int.compare_eq_eq.mp h, rfl⟩
  · rename_i h
    have hgt : 0 < m := Int.compare_eq_gt.mp h
    refine .inr ⟨.positive, m.toNat, by omega, ?_, rfl⟩
    have hcast : ((m.toNat : Int) : ℚ) = m := by rw [Int.toNat_of_nonneg (by omega)]
    rw [Int.cast_natCast] at hcast
    rw [hcast, factor_positive, one_mul]

theorem normalize_rounds {m e : Int} (hq : InRange (m * 2 ^ e)) (zero : Sign) :
    Canonical (UnpackedFloat.normalize Format.binary64 m e zero) ∧
      Rounds (m * 2 ^ e) (exact (UnpackedFloat.normalize Format.binary64 m e zero)) := by
  rcases normalize_cases m e zero with ⟨rfl, hround⟩ | ⟨s, n, hn, hm, hround⟩
  · rw [hround, Int.cast_zero, zero_mul]
    exact ⟨.zero zero, .refl 0⟩
  · rw [hm, mul_assoc] at hq ⊢
    rw [hround]
    exact round_rounds s hn (inRange_factor.mp hq)

/-! ## Operations -/

section
variable {u v : UnpackedFloat}

theorem shiftLeft_mul (m : Nat) {e t : Int} (h : t ≤ e) :
    ((m <<< (e - t).toNat : Nat) : ℚ) * 2 ^ t = m * 2 ^ e := by
  have hshift := mantissa_shift m (e - t).toNat e
  rw [show e - ((e - t).toNat : Int) = t by omega] at hshift
  rw [Nat.shiftLeft_eq]
  exact hshift

theorem apply_shift (s : Sign) (m : Nat) {e t : Int} (h : t ≤ e) :
    ((s.apply ((m <<< (e - t).toNat : Nat) : Int) : Int) : ℚ) * 2 ^ t = s.apply m * 2 ^ e := by
  rw [apply_eq, apply_eq, mul_assoc, mul_assoc, Int.cast_natCast, Int.cast_natCast,
    shiftLeft_mul m h]

/-- A sum with a zero is exact. Any other is computed on mantissas at a common exponent, and
rounded. -/
theorem add_cases (hu : Canonical u) (hv : Canonical v) :
    Canonical (add Format.binary64 u v) ∧
        exact (add Format.binary64 u v) = exact u + exact v ∨
      ∃ m e : Int, (m : ℚ) * 2 ^ e = exact u + exact v ∧
        add Format.binary64 u v = UnpackedFloat.normalize Format.binary64 m e .positive := by
  have hzero : ∀ s, exact (.zero s) = 0 := fun _ => rfl
  cases hu with
  | zero s =>
    rw [hzero, zero_add]
    cases hv with
    | zero t => cases s <;> cases t <;> exact .inl ⟨.zero _, rfl⟩
    | finite hlt hmin hmax hnormal => exact .inl ⟨.finite hlt hmin hmax hnormal, rfl⟩
  | @finite s₁ m₁ e₁ hm₁ hlt hmin hmax hnormal =>
    cases hv with
    | zero t =>
      rw [hzero, add_zero]
      exact .inl ⟨.finite hlt hmin hmax hnormal, rfl⟩
    | @finite s₂ m₂ e₂ hm₂ hlt' hmin' hmax' hnormal' =>
      refine .inr ⟨_, _, ?_, rfl⟩
      rw [Int.cast_add, add_mul, apply_shift s₁ m₁ (Int.min_le_left e₁ e₂),
        apply_shift s₂ m₂ (Int.min_le_right e₁ e₂)]
      rfl

theorem add_rounds (hu : Canonical u) (hv : Canonical v) (hq : InRange (exact u + exact v)) :
    Canonical (add Format.binary64 u v) ∧
      Rounds (exact u + exact v) (exact (add Format.binary64 u v)) := by
  rcases add_cases hu hv with ⟨hcanonical, hexact⟩ | ⟨m, e, hexact, hround⟩
  · rw [hexact]
    exact ⟨hcanonical, .refl _⟩
  · rw [hround, ← hexact]
    exact normalize_rounds (hexact ▸ hq) .positive

theorem sub_eq_add_opposite (format : Format) (u v : UnpackedFloat) :
    sub format u v = add format u v.neg := by
  have happly : ∀ (s : Sign) (n : Int), (-s).apply n = -s.apply n := by
    intro s n
    cases s
    · exact (Int.neg_neg n).symm
    · rfl
  cases u <;> cases v <;> try rfl
  simp only [sub, add, neg, happly]
  rfl

theorem factor_mul (s t : Sign) : factor (s * t) = factor s * factor t := by
  cases s <;> cases t
  · change factor .positive = _
    norm_num [factor_positive, factor_negative]
  · change factor .negative = _
    norm_num [factor_positive, factor_negative]
  · change factor .negative = _
    norm_num [factor_positive, factor_negative]
  · change factor .positive = _
    norm_num [factor_positive, factor_negative]

theorem factor_div (s t : Sign) : factor (s / t) = factor s * factor t := by
  rw [← factor_mul]
  cases s <;> cases t <;> rfl

theorem inv_factor (s : Sign) : (factor s)⁻¹ = factor s := by
  cases s <;> norm_num [factor_positive, factor_negative]

theorem log2_mul_le {m₁ m₂ : Nat} (h₁ : 0 < m₁) (h₂ : 0 < m₂) :
    m₁.log2 + m₂.log2 ≤ (m₁ * m₂).log2 := by
  rw [Nat.le_log2 (Nat.ne_of_gt (Nat.mul_pos h₁ h₂)), Nat.pow_add]
  exact Nat.mul_le_mul (Nat.log2_self_le (Nat.ne_of_gt h₁)) (Nat.log2_self_le (Nat.ne_of_gt h₂))

theorem log2_of_normal {m : Nat} (h : 2 ^ 52 ≤ m) : 52 ≤ m.log2 :=
  (Nat.le_log2 (by omega)).mpr h

theorem mul_fits {m₁ m₂ : Nat} {e₁ e₂ : Int} (h₁ : 0 < m₁) (h₂ : 0 < m₂)
    (hnormal₁ : 2 ^ 52 ≤ m₁ ∨ e₁ = -1074) (hnormal₂ : 2 ^ 52 ≤ m₂ ∨ e₂ = -1074) :
    e₁ + e₂ ≤ least (m₁ * m₂) (e₁ + e₂) := by
  have hlog := log2_mul_le h₁ h₂
  unfold least
  rcases hnormal₁ with hm | rfl
  · have := log2_of_normal hm
    omega
  · rcases hnormal₂ with hm | rfl
    · have := log2_of_normal hm
      omega
    · omega

theorem mul_cases (hu : Canonical u) (hv : Canonical v) :
    exact u * exact v = 0 ∧ (∃ s, mul Format.binary64 u v = .zero s) ∨
      ∃ (s : Sign) (m : Nat) (e : Int), WholePart m e (m * 2 ^ e) ∧
        exact u * exact v = factor s * (m * 2 ^ e) ∧
        mul Format.binary64 u v = roundWithAccuracy Format.binary64 s m e .exact := by
  have hzero : ∀ s, exact (.zero s) = 0 := fun _ => rfl
  cases hu with
  | zero s =>
    rw [hzero, zero_mul]
    cases hv <;> exact .inl ⟨rfl, _, rfl⟩
  | @finite s₁ m₁ e₁ hm₁ hlt hmin hmax hnormal =>
    cases hv with
    | zero t =>
      rw [hzero, mul_zero]
      exact .inl ⟨rfl, _, rfl⟩
    | @finite s₂ m₂ e₂ hm₂ hlt' hmin' hmax' hnormal' =>
      have hprod : exact (.finite s₁ m₁ e₁ hm₁) * exact (.finite s₂ m₂ e₂ hm₂) =
          factor (s₁ * s₂) * ((m₁ * m₂ : Nat) * 2 ^ (e₁ + e₂)) := by
        rw [exact_finite, exact_finite, factor_mul, zpow_add₀ (by norm_num)]
        push_cast
        ring
      have hpos := two_zpow_pos (e₁ + e₂)
      have hpositive : (0 : ℚ) < (m₁ * m₂ : Nat) * 2 ^ (e₁ + e₂) :=
        mul_pos (by exact_mod_cast Nat.mul_pos hm₁ hm₂) hpos
      refine .inr ⟨s₁ * s₂, m₁ * m₂, e₁ + e₂, ⟨hpositive, le_rfl, ?_,
        mul_fits hm₁ hm₂ hnormal hnormal'⟩, hprod, rfl⟩
      rw [add_mul]
      linarith

theorem mul_rounds (hu : Canonical u) (hv : Canonical v) (hq : InRange (exact u * exact v)) :
    Canonical (mul Format.binary64 u v) ∧
      Rounds (exact u * exact v) (exact (mul Format.binary64 u v)) := by
  rcases mul_cases hu hv with ⟨hnothing, s, hround⟩ | ⟨s, m, e, hwhole, hexact, hround⟩
  · rw [hnothing, hround]
    exact ⟨.zero s, .refl 0⟩
  · rw [hexact] at hq ⊢
    rw [hround]
    exact roundWithAccuracy_rounds s .exact hwhole (inRange_factor.mp hq)

theorem div_le_whole (m : Nat) {n : Nat} (hn : 0 < n) : (m : ℚ) / n ≤ (m / n : Nat) + 1 := by
  rw [div_le_iff₀ (by exact_mod_cast hn)]
  exact_mod_cast (Nat.lt_mul_of_div_lt (Nat.lt_succ_self _) hn).le

/-- The exponent of the quotient before it is rounded. -/
def quotientExponent (m₁ : Nat) (e₁ : Int) (m₂ : Nat) (e₂ : Int) : Int :=
  min (e₁ - e₂) (max ((m₁.log2 : Int) + e₁ - (m₂.log2 + e₂) - 53) (-1074))

/-- The first mantissa, shifted so that the quotient has that exponent. -/
def dividend (m₁ : Nat) (e₁ : Int) (m₂ : Nat) (e₂ : Int) : Nat :=
  m₁ <<< (e₁ - e₂ - quotientExponent m₁ e₁ m₂ e₂).toNat

theorem divCore_eq (m₁ : Nat) (e₁ : Int) (m₂ : Nat) (e₂ : Int) :
    divCore Format.binary64 m₁ e₁ m₂ e₂ =
      (dividend m₁ e₁ m₂ e₂ / m₂, quotientExponent m₁ e₁ m₂ e₂,
        accuracyOfFraction (dividend m₁ e₁ m₂ e₂ % m₂) m₂) := by
  have htarget : Format.binary64.targetExponent (totalExponent m₁ e₁ - totalExponent m₂ e₂) =
      max ((m₁.log2 : Int) + e₁ - (m₂.log2 + e₂) - 53) (-1074) := by
    have hmin : Format.binary64.minExponent = -1074 := by decide
    have hbits : Format.binary64.mantissaBits = 53 := by decide
    simp only [Format.targetExponent, totalExponent, hmin, hbits]
    omega
  rw [divCore, htarget]
  rfl

theorem div_fits {m₁ m₂ : Nat} (h₁ : 0 < m₁) (h₂ : 0 < m₂) (e₁ e₂ : Int) :
    quotientExponent m₁ e₁ m₂ e₂ ≤
      least (dividend m₁ e₁ m₂ e₂ / m₂) (quotientExponent m₁ e₁ m₂ e₂) := by
  have ht : quotientExponent m₁ e₁ m₂ e₂ ≤ e₁ - e₂ := min_le_left _ _
  have htarget : quotientExponent m₁ e₁ m₂ e₂ ≤
      max ((m₁.log2 : Int) + e₁ - (m₂.log2 + e₂) - 53) (-1074) := min_le_right _ _
  unfold dividend
  generalize quotientExponent m₁ e₁ m₂ e₂ = t at *
  rcases le_max_iff.mp htarget with h | h
  · have hlog : 52 ≤ ((m₁ <<< (e₁ - e₂ - t).toNat) / m₂).log2 := by
      refine log2_of_normal ?_
      rw [Nat.le_div_iff_mul_le h₂, Nat.shiftLeft_eq]
      calc 2 ^ 52 * m₂ ≤ 2 ^ 52 * 2 ^ (m₂.log2 + 1) :=
            Nat.mul_le_mul_left _ Nat.lt_log2_self.le
        _ = 2 ^ (m₂.log2 + 53) := by rw [← Nat.pow_add]; congr 1; omega
        _ ≤ 2 ^ (m₁.log2 + (e₁ - e₂ - t).toNat) := Nat.pow_le_pow_right (by decide) (by omega)
        _ = 2 ^ m₁.log2 * 2 ^ (e₁ - e₂ - t).toNat := Nat.pow_add ..
        _ ≤ m₁ * 2 ^ (e₁ - e₂ - t).toNat :=
            Nat.mul_le_mul_right _ (Nat.log2_self_le (Nat.ne_of_gt h₁))
    unfold least
    omega
  · exact h.trans (le_max_right _ _)

theorem div_wholePart {m₁ m₂ : Nat} (h₁ : 0 < m₁) (h₂ : 0 < m₂) (e₁ e₂ : Int) :
    WholePart (dividend m₁ e₁ m₂ e₂ / m₂) (quotientExponent m₁ e₁ m₂ e₂)
      (m₁ / m₂ * 2 ^ (e₁ - e₂)) := by
  have hpos := two_zpow_pos (quotientExponent m₁ e₁ m₂ e₂)
  have h₁' : (0 : ℚ) < m₁ := by exact_mod_cast h₁
  have h₂' : (0 : ℚ) < m₂ := by exact_mod_cast h₂
  have hshift : (m₁ / m₂ * 2 ^ (e₁ - e₂) : ℚ) =
      (dividend m₁ e₁ m₂ e₂ : ℚ) / m₂ * 2 ^ quotientExponent m₁ e₁ m₂ e₂ := by
    have ht : quotientExponent m₁ e₁ m₂ e₂ ≤ e₁ - e₂ := min_le_left _ _
    rw [div_mul_eq_mul_div, div_mul_eq_mul_div, dividend, shiftLeft_mul m₁ ht]
  refine ⟨mul_pos (div_pos h₁' h₂') (two_zpow_pos _), ?_, ?_, div_fits h₁ h₂ e₁ e₂⟩
  · rw [hshift]
    exact mul_le_mul_of_nonneg_right Nat.cast_div_le hpos.le
  · rw [hshift]
    exact mul_le_mul_of_nonneg_right (div_le_whole _ h₂) hpos.le

theorem div_rounds (hu : Canonical u) (hv : Canonical v) (hne : exact v ≠ 0)
    (hq : InRange (exact u / exact v)) :
    Canonical (div Format.binary64 u v) ∧
      Rounds (exact u / exact v) (exact (div Format.binary64 u v)) := by
  have hzero : ∀ s, exact (.zero s) = 0 := fun _ => rfl
  cases hv with
  | zero t => exact absurd (hzero t) hne
  | @finite s₂ m₂ e₂ hm₂ hlt' hmin' hmax' hnormal' =>
    cases hu with
    | zero s =>
      rw [hzero, zero_div]
      exact ⟨.zero _, .refl 0⟩
    | @finite s₁ m₁ e₁ hm₁ hlt hmin hmax hnormal =>
      have hquotient : exact (.finite s₁ m₁ e₁ hm₁) / exact (.finite s₂ m₂ e₂ hm₂) =
          factor (s₁ / s₂) * (m₁ / m₂ * 2 ^ (e₁ - e₂)) := by
        rw [exact_finite, exact_finite, mul_div_mul_comm, factor_div, mul_div_mul_comm,
          ← zpow_sub₀ (by norm_num), div_eq_mul_inv (factor s₁), inv_factor]
      rw [hquotient] at hq ⊢
      have hround := roundWithAccuracy_rounds (s₁ / s₂)
        (accuracyOfFraction (dividend m₁ e₁ m₂ e₂ % m₂) m₂) (div_wholePart hm₁ hm₂ e₁ e₂)
        (inRange_factor.mp hq)
      simpa only [div, divCore_eq] using hround

end

section
variable {x y : Float} {a b : ℚ}

theorem Represents.add (ha : Represents x a) (hb : Represents y b) (hq : InRange (a + b)) :
    ∃ c, Represents (x + y) c ∧ Rounds (a + b) c := by
  obtain ⟨hx, rfl⟩ := represents_iff.mp ha
  obtain ⟨hy, rfl⟩ := represents_iff.mp hb
  obtain ⟨hcanonical, hrounds⟩ := add_rounds hx hy hq
  exact ⟨_, represents_pack hcanonical, hrounds⟩

theorem Represents.sub (ha : Represents x a) (hb : Represents y b) (hq : InRange (a - b)) :
    ∃ c, Represents (x - y) c ∧ Rounds (a - b) c := by
  obtain ⟨hx, rfl⟩ := represents_iff.mp ha
  obtain ⟨hy, rfl⟩ := represents_iff.mp hb
  rw [sub_eq_add_neg, ← exact_neg] at hq ⊢
  obtain ⟨hcanonical, hrounds⟩ := add_rounds hx (canonical_neg hy) hq
  rw [← sub_eq_add_opposite] at hcanonical hrounds
  exact ⟨_, represents_pack hcanonical, hrounds⟩

theorem Represents.mul (ha : Represents x a) (hb : Represents y b) (hq : InRange (a * b)) :
    ∃ c, Represents (x * y) c ∧ Rounds (a * b) c := by
  obtain ⟨hx, rfl⟩ := represents_iff.mp ha
  obtain ⟨hy, rfl⟩ := represents_iff.mp hb
  obtain ⟨hcanonical, hrounds⟩ := mul_rounds hx hy hq
  exact ⟨_, represents_pack hcanonical, hrounds⟩

theorem Represents.div (ha : Represents x a) (hb : Represents y b) (hne : b ≠ 0)
    (hq : InRange (a / b)) : ∃ c, Represents (x / y) c ∧ Rounds (a / b) c := by
  obtain ⟨hx, rfl⟩ := represents_iff.mp ha
  obtain ⟨hy, rfl⟩ := represents_iff.mp hb
  obtain ⟨hcanonical, hrounds⟩ := div_rounds hx hy hne hq
  exact ⟨_, represents_pack hcanonical, hrounds⟩

theorem Represents.add_zero (ha : Represents x a) (hb : Represents y 0) : Represents (x + y) a := by
  obtain ⟨hx, rfl⟩ := represents_iff.mp ha
  obtain ⟨hy, hzero⟩ := represents_iff.mp hb
  have hsum : Canonical (UnpackedFloat.add Format.binary64 x.toModel.unpack y.toModel.unpack) ∧
      exact (UnpackedFloat.add Format.binary64 x.toModel.unpack y.toModel.unpack) =
        exact x.toModel.unpack := by
    generalize x.toModel.unpack = u at hx
    generalize y.toModel.unpack = v at hy hzero
    cases hy with
    | zero t =>
      cases hx with
      | zero s => cases s <;> cases t <;> exact ⟨.zero _, rfl⟩
      | finite hlt hmin hmax hnormal => exact ⟨.finite hlt hmin hmax hnormal, rfl⟩
    | @finite s m e hm hlt hmin hmax hnormal =>
      have habs := abs_exact_finite s m e hm
      rw [hzero, abs_zero] at habs
      exact absurd habs (mul_pos (by exact_mod_cast hm) (two_zpow_pos e)).ne
  rw [← hsum.2]
  exact represents_pack hsum.1

end

end Beamline.Rounding
