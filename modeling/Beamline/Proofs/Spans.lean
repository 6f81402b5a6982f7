import Beamline.Clock
import Beamline.Proofs.Rounding

/-!
The conversions between seconds in binary64 and counts of nanoseconds, `spanOfSeconds` and
`secondsOfSpan`, and the fraction `secondsOfSpan elapsed / secondsOfSpan travel` of a move. Proved
here:

* `spanOfSeconds_isSome`: every number from 0 to `2 ^ 63` is converted;
* `span_le`: the count is at most half a nanosecond above the exact number of nanoseconds;
* `spanOfSeconds_le`: a count is at least a second below `durationEnd`;
* `represents_seconds`: the relative error of `secondsOfSpan` is at most `2 ^ (-45)`;
* `part_le`: for `elapsed < travel` the fraction is from 0 to `9 / 8`;
* `part_lt`: for `travel ≤ 2 ^ 42`, which is over an hour, it is at most `1 - 2 ^ (-44)`.
-/

namespace Beamline.Rounding

open Float.Model (Format UnpackedFloat)
open Float.Model.UnpackedFloat
open Decimal (Binary)

/-! ## Unpacked numbers -/

/-- The `Binary` of an unpacked number. -/
def binary : UnpackedFloat → Binary
  | .notANumber => .nan
  | .infinity s => .infinite (s == .negative)
  | .zero s => .finite ⟨s == .negative, 0, -1074⟩
  | .finite s m e _ => .finite ⟨s == .negative, m, e⟩

theorem toNat_unpackMantissa (b : BitVec 64) :
    (@unpackMantissa Format.binary64 b).toNat = b.toNat % 2 ^ 52 := by
  rw [unpackMantissa_def, BitVec.extractLsb'_toNat, Nat.shiftRight_zero]

theorem toNat_unpackExponent (b : BitVec 64) :
    (@unpackExponent Format.binary64 b).toNat = b.toNat / 2 ^ 52 % 2 ^ 11 := by
  rw [unpackExponent_def, BitVec.extractLsb'_toNat, Nat.shiftRight_eq_div_pow]

theorem negative_unpackSign (b : BitVec 64) :
    (Sign.ofBitVec (@unpackSign Format.binary64 b) == .negative) = decide (2 ^ 63 ≤ b.toNat) := by
  have hlt := b.isLt
  have hsign : (@unpackSign Format.binary64 b).toNat = b.toNat / 2 ^ 63 := by
    rw [unpackSign_def, BitVec.extractLsb'_toNat, Nat.shiftRight_eq_div_pow]
    change b.toNat / 2 ^ 63 % 2 = b.toNat / 2 ^ 63
    omega
  have hzero : @unpackSign Format.binary64 b = 0#1 ↔ b.toNat < 2 ^ 63 := by
    rw [← BitVec.toNat_inj, hsign, BitVec.toNat_ofNat]
    omega
  by_cases h : b.toNat < 2 ^ 63
  · rw [Sign.ofBitVec, if_pos (hzero.mpr h), decide_eq_false (Nat.not_le_of_lt h)]
    rfl
  · rw [Sign.ofBitVec, if_neg (mt hzero.mp h), decide_eq_true (Nat.le_of_not_lt h)]
    rfl

theorem binary_ofParts (s : Sign) (e : BitVec 11) (m : BitVec 52) :
    binary (ofParts s e m) =
      if e.toNat = 2047 then
        if m.toNat = 0 then .infinite (s == .negative) else .nan
      else if e.toNat = 0 then .finite ⟨s == .negative, m.toNat, -1074⟩
      else .finite ⟨s == .negative, m.toNat + 2 ^ 52, (e.toNat : Int) - 1075⟩ := by
  have h₁ : e = -1#11 ↔ e.toNat = 2047 := BitVec.toNat_inj.symm
  have h₂ : m = 0#52 ↔ m.toNat = 0 := BitVec.toNat_inj.symm
  have h₃ : e = 0#11 ↔ e.toNat = 0 := BitVec.toNat_inj.symm
  simp only [ofParts, h₁, h₂, h₃]
  split
  · split <;> rfl
  · split
    · split
      · rename_i h
        rw [h]
        rfl
      · rfl
    · simp only [binary, Nat.add_comm]

theorem ofFloat_eq (x : Float) : Binary.ofFloat x = binary x.toModel.unpack := by
  have hbits : x.toBits.toNat = x.toModel.toBits.toBitVec.toNat := rfl
  change _ = binary (unpack Format.binary64 x.toModel.toBits.toBitVec)
  rw [unpack_eq, binary_ofParts, toNat_unpackExponent, toNat_unpackMantissa, negative_unpackSign,
    ← hbits]
  rfl

/-- The value of `p` without its sign. -/
def magnitude (p : Decimal.Parts) : ℚ := p.mantissa * 2 ^ p.exponent

variable {x y : Float} {a b q : ℚ}

theorem Represents.parts (h : Represents x a) (hnonneg : 0 ≤ a) :
    ∃ p, Binary.ofFloat x = .finite p ∧ magnitude p = a ∧
      (p.negative && p.mantissa != 0) = false := by
  obtain ⟨hcanonical, rfl⟩ := represents_iff.mp h
  rw [ofFloat_eq]
  generalize x.toModel.unpack = u at hcanonical hnonneg
  cases hcanonical with
  | zero s =>
    refine ⟨_, rfl, ?_, Bool.and_false _⟩
    simp [magnitude, exact]
  | @finite s m e hm hlt hmin hmax hnormal =>
    have hpositive : (0 : ℚ) < m * 2 ^ e := mul_pos (by exact_mod_cast hm) (two_zpow_pos e)
    rw [exact_finite] at hnonneg ⊢
    cases s with
    | positive =>
      rw [factor_positive, one_mul]
      exact ⟨_, rfl, rfl, rfl⟩
    | negative =>
      rw [factor_negative] at hnonneg
      linarith

theorem scaled_le (p : Decimal.Parts) (scale : Nat) :
    (p.scaled scale : ℚ) ≤ magnitude p * scale + 1 / 2 := by
  unfold Decimal.Parts.scaled magnitude
  split
  · rename_i h
    have hpow : ((twoTo p.exponent.toNat : Nat) : ℚ) = 2 ^ p.exponent := by
      rw [show twoTo p.exponent.toNat = 2 ^ p.exponent.toNat from rfl, Nat.cast_pow, ← zpow_natCast,
        Int.toNat_of_nonneg h, Nat.cast_ofNat]
    push_cast
    rw [hpow]
    linarith
  · rename_i h
    have hpow : ((twoTo (-p.exponent).toNat : Nat) : ℚ) = (2 ^ p.exponent)⁻¹ := by
      rw [show twoTo (-p.exponent).toNat = 2 ^ (-p.exponent).toNat from rfl, Nat.cast_pow,
        ← zpow_natCast, Int.toNat_of_nonneg (by omega), Nat.cast_ofNat, zpow_neg]
    have hnear : (2 * (Decimal.roundHalfEven (p.mantissa * scale) (twoTo (-p.exponent).toNat) *
        twoTo (-p.exponent).toNat : Nat) : ℚ) ≤
          2 * (p.mantissa * scale : Nat) + (twoTo (-p.exponent).toNat : Nat) := by
      exact_mod_cast (Decimal.roundHalfEven_near _ _ (twoTo_pos _)).1
    have hpos := two_zpow_pos p.exponent
    rw [Nat.cast_mul, hpow] at hnear
    have hscaled := mul_le_mul_of_nonneg_right hnear hpos.le
    field_simp at hscaled
    push_cast at hscaled
    linarith

/-! ## Conversion to counts -/

theorem spanOfSeconds_isSome (h : Represents x a) (hnonneg : 0 ≤ a) (hle : a ≤ 2 ^ 63) :
    (spanOfSeconds x).isSome = true := by
  obtain ⟨p, hparts, rfl, hsign⟩ := h.parts hnonneg
  have hscaled := scaled_le p (tenTo 9)
  rw [show tenTo 9 = 1000000000 from rfl] at hscaled
  have hshort : ¬ twoTo 64 * tenTo 9 ≤ p.scaled (tenTo 9) := by
    intro hlong
    have hlong' : ((twoTo 64 * tenTo 9 : Nat) : ℚ) ≤ (p.scaled (tenTo 9) : Nat) := by
      exact_mod_cast hlong
    rw [show twoTo 64 * tenTo 9 = 18446744073709551616000000000 from rfl,
      show tenTo 9 = 1000000000 from rfl] at hlong'
    push_cast at hscaled hlong'
    linarith
  unfold spanOfSeconds
  rw [hparts]
  dsimp only
  rw [hsign, decide_eq_false hshort]
  rfl

theorem span_le {span : Nat} (hspan : spanOfSeconds x = some span) (hq : Represents x q)
    (hnonneg : 0 ≤ q) : (span : ℚ) ≤ q * 10 ^ 9 + 1 / 2 := by
  obtain ⟨p, hparts, rfl, -⟩ := hq.parts hnonneg
  unfold spanOfSeconds at hspan
  rw [hparts] at hspan
  dsimp only at hspan
  split at hspan
  · cases hspan
  · cases hspan
    have hscaled := scaled_le p (tenTo 9)
    rwa [show ((tenTo 9 : Nat) : ℚ) = 10 ^ 9 by norm_num [tenTo]] at hscaled

theorem spanOfSeconds_infinite (h : x.isFinite = false) : spanOfSeconds x = none := by
  unfold spanOfSeconds
  rw [ofFloat_eq]
  change x.toModel.unpack.isFinite = false at h
  cases hu : x.toModel.unpack <;> rw [hu] at h
  · rfl
  · rfl
  · cases h
  · cases h

theorem spanOfSeconds_lt {span : Nat} (h : spanOfSeconds x = some span) :
    span < twoTo 64 * tenTo 9 := by
  unfold spanOfSeconds at h
  split at h
  · dsimp only at h
    split at h
    · cases h
    · rename_i hcond
      cases h
      simp only [Bool.or_eq_true, decide_eq_true_eq, not_or] at hcond
      exact Nat.lt_of_not_le hcond.2
  · cases h

theorem mantissa_lt {p : Decimal.Parts} (h : Binary.ofFloat x = .finite p) :
    p.mantissa < twoTo 53 := by
  have hfraction : x.toBits.toNat % twoTo 52 < twoTo 52 := Nat.mod_lt _ (twoTo_pos 52)
  have hdouble : twoTo 53 = twoTo 52 + twoTo 52 := rfl
  unfold Binary.ofFloat at h
  dsimp only at h
  split at h
  · split at h <;> cases h
  · split at h <;> cases h <;> dsimp only <;> omega

theorem roundHalfEven_le (num : Nat) {den : Nat} (h : 0 < den) :
    Decimal.roundHalfEven num den ≤ num := by
  by_contra hlt
  have hnear := (Decimal.roundHalfEven_near num den h).1
  have hmore := Nat.mul_le_mul_right den (Nat.lt_of_not_le hlt)
  have hnum := Nat.le_mul_of_pos_right num h
  rw [Nat.succ_mul] at hmore
  omega

/-- A number of seconds below `2 ^ 64` is at most `2 ^ 64 - 2 ^ 11`, as its mantissa has 53 bits. -/
theorem spanOfSeconds_le {span : Nat} (h : spanOfSeconds x = some span) :
    span + tenTo 9 ≤ durationEnd := by
  have hlt := spanOfSeconds_lt h
  unfold spanOfSeconds at h
  split at h
  · rename_i p hparts
    dsimp only at h
    split at h
    · cases h
    · cases h
      unfold Decimal.Parts.scaled at hlt ⊢
      split at hlt
      · have hwhole := Nat.lt_of_mul_lt_mul_right hlt
        rw [if_pos ‹_›, ← Nat.succ_mul]
        exact Nat.mul_le_mul_right _ hwhole
      · have hfraction := Nat.mul_le_mul_right (tenTo 9) (mantissa_lt hparts)
        have hround := roundHalfEven_le (p.mantissa * tenTo 9) (twoTo_pos (-p.exponent).toNat)
        have hroom : twoTo 53 * tenTo 9 ≤ durationEnd := by decide
        rw [if_neg ‹_›]
        rw [Nat.succ_mul] at hfraction
        omega
  · cases h
/-! ## Conversion to seconds -/

theorem Rounds.rough {p : ℚ} (h : Rounds q p) : |p - q| ≤ |q| / 2 ^ 50 + 1 / 2 ^ 110 := by
  have hleast : (2 : ℚ) ^ (-1074 : Int) ≤ 1 / 2 ^ 110 :=
    (zpow_le_zpow_right₀ (by norm_num) (by norm_num : (-1074 : Int) ≤ -110)).trans (by norm_num)
  exact h.near.trans (add_le_add_right hleast _)

/-- From `2 ^ (-60)` on the absolute part of the error is below the relative one. -/
theorem Rounds.relative {p : ℚ} (h : Rounds q p) (hnonneg : 0 ≤ q)
    (hsmall : q = 0 ∨ 1 / 2 ^ 60 ≤ q) :
    |p - q| ≤ q / 2 ^ 49 := by
  rcases hsmall with rfl | hsmall
  · have hp : p = 0 := le_antisymm (h.nonpos le_rfl) (h.nonneg le_rfl)
    rw [hp]
    norm_num
  · have hnear := h.rough
    rw [abs_of_nonneg hnonneg] at hnear
    linarith

theorem represents_one : Represents (Float.ofBits 0x3FF0000000000000) 1 := by decide +kernel

theorem represents_billion : Represents 1e9 1000000000 := by decide +kernel

theorem represents_zero : Represents 0 0 := by decide

theorem near_trans {a b c : ℚ} (ha : 0 ≤ a) (hb : |b - a| ≤ a / 2 ^ 49)
    (hc : |c - b| ≤ b / 2 ^ 49) :
    |c - a| ≤ a / 2 ^ 47 := by
  rw [abs_le] at *
  constructor <;> linarith

theorem represents_toFloat {m : Nat} (hlt : m < 2 ^ 64) :
    ∃ c, Represents m.toUInt64.toFloat c ∧ Rounds m c := by
  have hof : m.toUInt64.toNat = m := Nat.mod_eq_of_lt hlt
  have hone : ((m : Int) : ℚ) * 2 ^ (0 : Int) = m := by rw [zpow_zero, mul_one, Int.cast_natCast]
  have hrange : InRange (m : ℚ) :=
    ⟨64, by norm_num, by rw [Nat.abs_cast]; exact_mod_cast hlt.le⟩
  rw [← hone] at hrange
  obtain ⟨hcanonical, hrounds⟩ := normalize_rounds hrange .positive
  rw [hone] at hrounds
  refine ⟨_, ?_, hrounds⟩
  have hrepresents := represents_pack hcanonical
  rwa [show ((m : Int)) = (m.toUInt64.toNat : Int) by rw [hof]] at hrepresents ⊢

theorem ofScientific_eq {m : Nat} (hm : 0 < m) :
    Float.Model.ofScientific m 0 =
      .pack (roundWithAccuracy Format.binary64 .positive (m <<< 53 * 1) (-53) .exact) := by
  have hbits : (2 : Int) ^ Format.binary64.exponentBits = 2048 := by decide
  rw [Float.Model.ofScientific, ofScientific, dif_neg (Nat.ne_of_gt hm), hbits, if_neg (by decide),
    if_neg (by omega), if_pos (by decide)]
  rfl

theorem represents_model {m : Nat} (hm : 0 < m) (hlt : m < 2 ^ 64) :
    ∃ c, Represents (Float.ofModel (.ofScientific m 0)) c ∧ Rounds m c := by
  have hpos := two_zpow_pos (-53)
  have hexact : ((m <<< 53 * 1 : Nat) : ℚ) * 2 ^ (-53 : Int) = m := by
    rw [Nat.mul_one, Nat.shiftLeft_eq, Nat.cast_mul, mul_assoc]
    norm_num
  have hfits : -53 ≤ least (m <<< 53 * 1) (-53) := by
    have hlog : 52 ≤ (m <<< 53 * 1).log2 := by
      refine log2_of_normal ?_
      rw [Nat.mul_one, Nat.shiftLeft_eq]
      exact (by decide : 2 ^ 52 ≤ 1 * 2 ^ 53).trans (Nat.mul_le_mul_right _ hm)
    unfold least
    omega
  have hwhole : WholePart (m <<< 53 * 1) (-53) m :=
    ⟨by exact_mod_cast hm, hexact.le, by rw [add_mul, hexact]; linarith, hfits⟩
  obtain ⟨hcanonical, hrounds⟩ := roundWithAccuracy_rounds .positive .exact hwhole
    ⟨64, by norm_num, by rw [Nat.abs_cast]; exact_mod_cast hlt.le⟩
  rw [factor_positive, one_mul] at hrounds
  rw [ofScientific_eq hm]
  exact ⟨_, represents_pack hcanonical, hrounds⟩

/-- A natural number of up to 64 bits is converted with a relative error of at most `2 ^ (-47)`. -/
theorem represents_ofScientific {m : Nat} (hm : 0 < m) (hlt : m < 2 ^ 64) :
    ∃ c, Represents (Float.ofScientific m false 0) c ∧ |c - m| ≤ (m : ℚ) / 2 ^ 47 := by
  have hm' : (1 : ℚ) ≤ m := by exact_mod_cast hm
  have hlt' : (m : ℚ) ≤ 2 ^ 64 := by exact_mod_cast hlt.le
  unfold Float.ofScientific
  split
  · obtain ⟨b, hb, hrounds⟩ := represents_toFloat hlt
    have hnear := hrounds.relative m.cast_nonneg (.inr (by linarith))
    have hb1 : 1 / 2 ≤ b := by linarith [(abs_le.mp hnear).1]
    have hb2 : b ≤ 2 ^ 65 := by linarith [(abs_le.mp hnear).2]
    have hproduct := hb.mul represents_one (by
      rw [mul_one]
      exact ⟨65, by norm_num, by rwa [abs_of_nonneg (by linarith)]⟩)
    rw [mul_one] at hproduct
    obtain ⟨c, hc, hrounds'⟩ := hproduct
    exact ⟨c, hc, near_trans m.cast_nonneg hnear
      (hrounds'.relative (by linarith) (.inr (by linarith)))⟩
  · obtain ⟨c, hc, hrounds⟩ := represents_model hm hlt
    refine ⟨c, hc, (hrounds.relative m.cast_nonneg (.inr (by linarith))).trans ?_⟩
    linarith

theorem represents_nearest {m : Nat} (hlt : m < 2 ^ 64) :
    ∃ c, Represents (Decimal.nearest m 0) c ∧ |c - m| ≤ (m : ℚ) / 2 ^ 47 := by
  have hdigits : (Nat.toDigits 10 m).length ≤ 20 :=
    (Nat.length_toDigits_le_iff (by decide) (by decide)).mpr (hlt.trans_le (by norm_num))
  unfold Decimal.nearest
  dsimp only
  rcases Nat.eq_zero_or_pos m with rfl | hm
  · rw [if_pos (.inl rfl)]
    exact ⟨0, represents_zero, by norm_num⟩
  · rw [if_neg (by omega), if_neg (by omega)]
    exact represents_ofScientific hm hlt

theorem small_of_near {q c least : ℚ} (hq : q = 0 ∨ least ≤ q) (hleast : 0 < least)
    (h : |c - q| ≤ q / 2 ^ 30) : c = 0 ∨ least / 2 ≤ c := by
  rcases hq with rfl | hq
  · left
    rw [sub_zero, zero_div] at h
    exact abs_nonpos_iff.mp h
  · right
    linarith [(abs_le.mp h).1]

theorem cast_eq_zero_or_one_le (m : Nat) : (m : ℚ) = 0 ∨ 1 ≤ (m : ℚ) := by
  rcases Nat.eq_zero_or_pos m with rfl | hm
  · exact .inl Nat.cast_zero
  · exact .inr (by exact_mod_cast hm)

theorem represents_billionths {m : Nat} (hlt : m < 10 ^ 9) :
    ∃ c, Represents (Decimal.nearest m 0 / 1e9) c ∧
      |c - m / 10 ^ 9| ≤ (m : ℚ) / 10 ^ 9 / 2 ^ 46 := by
  obtain ⟨r, hr, hnear⟩ := represents_nearest (hlt.trans (by norm_num))
  have hm : (m : ℚ) ≤ 10 ^ 9 := by exact_mod_cast hlt.le
  have hm0 : (0 : ℚ) ≤ m := m.cast_nonneg
  have hsmall : r = 0 ∨ 1 / 2 ≤ r :=
    small_of_near (cast_eq_zero_or_one_le m) one_pos (hnear.trans (by linarith))
  have hr0 : 0 ≤ r := by rcases hsmall with h | h <;> linarith
  rw [abs_le] at hnear
  obtain ⟨c, hc, hround⟩ := hr.div represents_billion (by norm_num)
    ⟨64, by norm_num, by rw [abs_of_nonneg (by positivity)]; linarith⟩
  have hpart := hround.relative (by positivity) (by
    rcases hsmall with h | h
    · exact .inl (by rw [h, zero_div])
    · exact .inr (by linarith))
  refine ⟨c, hc, ?_⟩
  rw [abs_le] at hpart ⊢
  constructor <;> linarith

theorem represents_seconds {span : Nat} (hlt : span < twoTo 64 * tenTo 9) :
    ∃ c, Represents (secondsOfSpan span) c ∧
      |c - span / 10 ^ 9| ≤ (span : ℚ) / 10 ^ 9 / 2 ^ 45 := by
  have hwhole : span / tenTo 9 < 2 ^ 64 := (Nat.div_lt_iff_lt_mul (tenTo_pos 9)).mpr hlt
  have hleft : span % tenTo 9 < 10 ^ 9 := Nat.mod_lt _ (tenTo_pos 9)
  have hsplit : (span : ℚ) = (span / tenTo 9 : Nat) * 10 ^ 9 + (span % tenTo 9 : Nat) := by
    exact_mod_cast (Nat.div_add_mod' span (tenTo 9)).symm
  obtain ⟨w, hw, hwnear⟩ := represents_nearest hwhole
  obtain ⟨t, ht, htnear⟩ := represents_billionths hleft
  unfold secondsOfSpan
  generalize span / tenTo 9 = whole at *
  generalize span % tenTo 9 = left at *
  have hwhole' : (whole : ℚ) ≤ 2 ^ 64 := by exact_mod_cast hwhole.le
  have hleft' : (left : ℚ) ≤ 10 ^ 9 := by exact_mod_cast hleft.le
  have hw0 : (0 : ℚ) ≤ whole := whole.cast_nonneg
  have hl0 : (0 : ℚ) ≤ left := left.cast_nonneg
  have hwsmall : w = 0 ∨ 1 / 2 ≤ w :=
    small_of_near (cast_eq_zero_or_one_le whole) one_pos (hwnear.trans (by linarith))
  have hscaled : (left : ℚ) / 10 ^ 9 = 0 ∨ 1 / 10 ^ 9 ≤ (left : ℚ) / 10 ^ 9 := by
    rcases cast_eq_zero_or_one_le left with h | h
    · exact .inl (by rw [h, zero_div])
    · exact .inr (by linarith)
  have htsmall : t = 0 ∨ 1 / 10 ^ 9 / 2 ≤ t :=
    small_of_near hscaled (by norm_num) (htnear.trans (by linarith))
  have hsmall : w + t = 0 ∨ 1 / 2 ^ 60 ≤ w + t := by
    rcases hwsmall with rfl | hw <;> rcases htsmall with rfl | ht
    · exact .inl (add_zero 0)
    · exact .inr (by linarith)
    · exact .inr (by linarith)
    · exact .inr (by linarith)
  have hsum0 : 0 ≤ w + t := by rcases hsmall with h | h <;> linarith
  rw [abs_le] at hwnear htnear
  obtain ⟨c, hc, hround⟩ := hw.add ht
    ⟨65, by norm_num, by rw [abs_of_nonneg hsum0]; linarith⟩
  have hnear := hround.relative hsum0 hsmall
  refine ⟨c, hc, ?_⟩
  rw [hsplit]
  rw [abs_le] at hnear ⊢
  constructor <;> linarith

/-- The fraction is the rounded quotient `a / b` of the two converted counts. -/
theorem represents_part {elapsed travel : Nat} (hlt : elapsed < travel)
    (htravel : travel < twoTo 64 * tenTo 9) :
    ∃ a b c : ℚ, |a - elapsed / 10 ^ 9| ≤ (elapsed : ℚ) / 10 ^ 9 / 2 ^ 45 ∧
      |b - travel / 10 ^ 9| ≤ (travel : ℚ) / 10 ^ 9 / 2 ^ 45 ∧ 0 ≤ a / b ∧ 0 < b ∧
      Represents (secondsOfSpan elapsed / secondsOfSpan travel) c ∧ Rounds (a / b) c := by
  obtain ⟨a, ha, hanear⟩ := represents_seconds (hlt.trans htravel)
  obtain ⟨b, hb, hbnear⟩ := represents_seconds htravel
  have hlt' : (elapsed : ℚ) + 1 ≤ travel := by exact_mod_cast hlt
  have helapsed : (0 : ℚ) ≤ elapsed := elapsed.cast_nonneg
  have hanear' := abs_le.mp hanear
  have hbnear' := abs_le.mp hbnear
  have ha0 : 0 ≤ a := by linarith
  have hb0 : 0 < b := by linarith
  have hratio : a / b ≤ 2 := by
    rw [div_le_iff₀ hb0]
    linarith
  have hratio0 : 0 ≤ a / b := by positivity
  obtain ⟨c, hc, hround⟩ :=
    ha.div hb hb0.ne' ⟨1, by norm_num, by rwa [abs_of_nonneg hratio0, pow_one]⟩
  exact ⟨a, b, c, hanear, hbnear, hratio0, hb0, hc, hround⟩

theorem part_le {elapsed travel : Nat} (hlt : elapsed < travel)
    (htravel : travel < twoTo 64 * tenTo 9) :
    ∃ c, Represents (secondsOfSpan elapsed / secondsOfSpan travel) c ∧ 0 ≤ c ∧ c ≤ 9 / 8 := by
  obtain ⟨a, b, c, ha, hb, hratio0, hb0, hc, hround⟩ := represents_part hlt htravel
  have hlt' : (elapsed : ℚ) + 1 ≤ travel := by exact_mod_cast hlt
  have helapsed : (0 : ℚ) ≤ elapsed := elapsed.cast_nonneg
  rw [abs_le] at ha hb
  have hratio : a / b ≤ 17 / 16 := by
    rw [div_le_iff₀ hb0]
    linarith
  refine ⟨c, hc, hround.nonneg hratio0, ?_⟩
  have hnear := hround.rough
  rw [abs_of_nonneg hratio0, abs_le] at hnear
  linarith

/-- Two distinct counts up to `2 ^ 42` differ by more than both conversions and the division lose.
-/
theorem part_lt {elapsed travel : Nat} (hlt : elapsed < travel) (htravel : travel ≤ 2 ^ 42) :
    ∃ c, Represents (secondsOfSpan elapsed / secondsOfSpan travel) c ∧ 0 ≤ c ∧
      c ≤ 1 - 1 / 2 ^ 44 := by
  obtain ⟨a, b, c, ha, hb, hratio0, hb0, hc, hround⟩ :=
    represents_part hlt (htravel.trans_lt (by decide))
  have hlt' : (elapsed : ℚ) + 1 ≤ travel := by exact_mod_cast hlt
  have htravel' : (travel : ℚ) ≤ 2 ^ 42 := by exact_mod_cast htravel
  have helapsed : (0 : ℚ) ≤ elapsed := elapsed.cast_nonneg
  rw [abs_le] at ha hb
  have hratio : a / b ≤ 1 - 1 / 2 ^ 43 := by
    rw [div_le_iff₀ hb0]
    linarith
  refine ⟨c, hc, hround.nonneg hratio0, ?_⟩
  have hnear := hround.rough
  rw [abs_of_nonneg hratio0, abs_le] at hnear
  linarith

end Beamline.Rounding
