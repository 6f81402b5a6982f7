import Beamline.Scalar.Binary64
import Mathlib

/-!
Finite numbers of binary64 as rationals. `Represents x q` says that `x` is finite and equal to `q`.
Proved here:

* `unpack_pack`: unpacking undoes packing for `Canonical` numbers, and `canonical_unpack`: every
  finite number unpacks to one;
* `compare_exact`, `Represents.le_iff`, `Represents.lt_iff`: finite numbers are compared as their
  rationals;
* `canonical_inj`, `Represents.inj`: two finite numbers that are the same rational, not zero, are
  equal;
* `isFinite_div`, `isFinite_sub` and the lemmas after them: which results are not finite.
-/

namespace Beamline.Rounding

open Float.Model (Format UnpackedFloat)
open Float.Model.UnpackedFloat

/-- The rational of a finite number, and 0 of any other. -/
def exact : UnpackedFloat → ℚ
  | .finite s m e _ => s.apply m * (2 : ℚ) ^ e
  | _ => 0

/-- The form in which binary64 stores a zero or a finite number: 53 bits, or fewer at exponent
-1074. -/
inductive Canonical : UnpackedFloat → Prop
  | zero (s : Sign) : Canonical (.zero s)
  | finite {s : Sign} {m : Nat} {e : Int} {hm : 0 < m} (hlt : m < 2 ^ 53) (hmin : -1074 ≤ e)
      (hmax : e ≤ 971) (hnormal : 2 ^ 52 ≤ m ∨ e = -1074) : Canonical (.finite s m e hm)

/-- 1 or -1. -/
def factor (s : Sign) : ℚ := s.apply 1

theorem apply_eq (s : Sign) (n : Int) : ((s.apply n : Int) : ℚ) = factor s * n := by
  cases s <;> simp [factor, Sign.apply]

theorem abs_factor (s : Sign) : |factor s| = 1 := by
  cases s <;> simp [factor, Sign.apply]

theorem factor_positive : factor .positive = 1 := by norm_num [factor, Sign.apply]

theorem factor_negative : factor .negative = -1 := by norm_num [factor, Sign.apply]

theorem two_zpow_pos (e : Int) : (0 : ℚ) < 2 ^ e := zpow_pos (by norm_num) e

theorem exact_finite (s : Sign) (m : Nat) (e : Int) (hm : 0 < m) :
    exact (.finite s m e hm) = factor s * (m * 2 ^ e) := by
  rw [exact, apply_eq, mul_assoc]
  rfl

theorem abs_exact_finite (s : Sign) (m : Nat) (e : Int) (hm : 0 < m) :
    |exact (.finite s m e hm)| = m * 2 ^ e := by
  rw [exact_finite, abs_mul, abs_factor, one_mul]
  exact abs_of_nonneg (mul_nonneg m.cast_nonneg (two_zpow_pos e).le)

/-! ## Packed and unpacked -/

/-- Put in front of the 52 stored bits, the hidden bit adds `2 ^ 52`. -/
theorem append_hidden (m : BitVec 52) : (1#1 ++ m).toNat = 2 ^ 52 + m.toNat := by
  rw [BitVec.toNat_append, ← Nat.shiftLeft_add_eq_or_of_lt m.isLt]
  simp [Nat.shiftLeft_eq]

/-- The number with this sign, biased exponent and stored mantissa. -/
def ofParts (s : Sign) (e : BitVec 11) (m : BitVec 52) : UnpackedFloat :=
  if e = -1#11 then
    if m = 0#52 then .infinity s else .notANumber
  else if e = 0#11 then
    if h : m = 0#52 then .zero s
    else .finite s m.toNat (-1074) (by simpa [BitVec.toNat_pos, BitVec.pos_iff_ne_zero])
  else .finite s (2 ^ 52 + m.toNat) (e.toNat - 1075) (by omega)

theorem unpack_eq (b : BitVec 64) :
    unpack Format.binary64 b =
      ofParts (Sign.ofBitVec (@unpackSign Format.binary64 b))
        (@unpackExponent Format.binary64 b) (@unpackMantissa Format.binary64 b) := by
  unfold unpack ofParts
  dsimp only
  split
  · rfl
  · split
    · rename_i hzero
      split
      · rfl
      · congr 1
        rw [hzero]
        rfl
    · congr 1
      exact append_hidden _

theorem unpack_packComponents (s : Sign) (e : BitVec 11) (m : BitVec 52) :
    unpack Format.binary64 (packComponents Format.binary64 s e m) = ofParts s e m := by
  rw [unpack_eq, unpackMantissa_packComponents, unpackExponent_packComponents,
    unpackSign_packComponents, Sign.ofBitVec_toBitVec]

theorem canonical_ofParts {s : Sign} {e : BitVec 11} {m : BitVec 52}
    (h : (ofParts s e m).isFinite = true) : Canonical (ofParts s e m) := by
  have hm := m.isLt
  have he := e.isLt
  unfold ofParts at h ⊢
  split at h
  · split at h <;> cases h
  · rename_i hmax
    rw [if_neg hmax]
    have hmax' : e.toNat ≠ 2047 := fun heq => hmax (BitVec.eq_of_toNat_eq heq)
    split
    · split
      · exact .zero s
      · exact .finite (by omega) (by decide) (by decide) (.inr rfl)
    · rename_i hmin
      have hmin' : e.toNat ≠ 0 := fun heq => hmin (BitVec.eq_of_toNat_eq heq)
      exact .finite (by omega) (by omega) (by omega) (.inl (by omega))

theorem canonical_unpack (b : BitVec 64) (h : (unpack Format.binary64 b).isFinite = true) :
    Canonical (unpack Format.binary64 b) := by
  rw [unpack_eq] at h ⊢
  exact canonical_ofParts h

theorem ofNat_toNat_of_lt {w n : Nat} (h : n < 2 ^ w) : (BitVec.ofNat w n).toNat = n := by
  rw [BitVec.toNat_ofNat, Nat.mod_eq_of_lt h]

theorem ofParts_normal (s : Sign) {e : Int} {m : Nat} (hm : 0 < m) (hmin : -1074 ≤ e)
    (hmax : e ≤ 971) (hlo : 2 ^ 52 ≤ m) (hlt : m < 2 ^ 53) :
    ofParts s (BitVec.ofNat 11 (e + 1075).toNat) (BitVec.ofNat 52 m) = .finite s m e hm := by
  have hexponent : (BitVec.ofNat 11 (e + 1075).toNat).toNat = (e + 1075).toNat :=
    ofNat_toNat_of_lt (by omega)
  have hne : ∀ b : BitVec 11, b.toNat ≠ (e + 1075).toNat →
      BitVec.ofNat 11 (e + 1075).toNat ≠ b := by
    intro b hb heq
    exact hb (heq ▸ hexponent)
  rw [ofParts, if_neg (hne _ (by simp only [BitVec.toNat_neg, BitVec.toNat_ofNat]; omega)),
    if_neg (hne _ (by simp only [BitVec.toNat_ofNat]; omega))]
  congr 1
  · rw [BitVec.toNat_ofNat]
    omega
  · rw [hexponent]
    omega

theorem ofParts_subnormal (s : Sign) {m : Nat} (hm : 0 < m) (hlt : m < 2 ^ 52) :
    ofParts s 0#11 (BitVec.ofNat 52 m) = .finite s m (-1074) hm := by
  have hmantissa : (BitVec.ofNat 52 m).toNat = m := ofNat_toNat_of_lt hlt
  have hne : BitVec.ofNat 52 m ≠ 0#52 := by
    intro heq
    rw [heq] at hmantissa
    simp only [BitVec.toNat_ofNat] at hmantissa
    omega
  rw [ofParts, if_neg (by decide), if_pos rfl, dif_neg hne]
  congr 1

theorem unpack_pack {u : UnpackedFloat} (h : Canonical u) :
    unpack Format.binary64 (pack Format.binary64 u) = u := by
  cases h with
  | zero s => cases s <;> rfl
  | @finite s m e hm hlt hmin hmax hnormal =>
    have hbias : (e + Format.binary64.exponentBias +
        Format.binary64.mantissaBitsWithoutImplicit).toNat = (e + 1075).toNat := by
      have : (Format.binary64.exponentBias : Int) = 1023 := by decide
      have : (Format.binary64.mantissaBitsWithoutImplicit : Int) = 52 := by decide
      omega
    have hfits : ¬ 2 ^ Format.binary64.exponentBits ≤ (e + 1075).toNat + 1 := by
      change ¬ 2 ^ 11 ≤ _
      omega
    have hbits : Format.binary64.mantissaBits = 53 := by decide
    unfold pack
    simp only [hbias, if_neg hfits, hbits]
    by_cases hlo : 2 ^ 52 ≤ m
    · have hlog : m.log2 + 1 = 53 := by
        have h1 := (Nat.le_log2 (Nat.ne_of_gt hm)).mpr hlo
        have h2 := (Nat.log2_lt (Nat.ne_of_gt hm)).mpr hlt
        omega
      rw [if_pos hlog, unpack_packComponents]
      exact ofParts_normal s hm hmin hmax hlo hlt
    · obtain rfl := hnormal.resolve_left hlo
      have hlog : ¬ m.log2 + 1 = 53 := by
        have h2 := (Nat.log2_lt (Nat.ne_of_gt hm)).mpr (Nat.lt_of_not_le hlo)
        omega
      rw [if_neg hlog]
      exact (unpack_packComponents _ _ _).trans (ofParts_subnormal s hm (Nat.lt_of_not_le hlo))

/-! ## The fraction of a number -/

def fraction? (x : Float) : Option ℚ :=
  if x.isFinite then some (exact x.toModel.unpack) else none

/-- `x` is finite and its rational is `q`. -/
def Represents (x : Float) (q : ℚ) : Prop := fraction? x = some q

instance (x : Float) (q : ℚ) : Decidable (Represents x q) :=
  inferInstanceAs (Decidable (fraction? x = some q))

variable {x y : Float} {a b : ℚ} {u v : UnpackedFloat}

theorem represents_iff :
    Represents x a ↔ Canonical x.toModel.unpack ∧ exact x.toModel.unpack = a := by
  unfold Represents fraction?
  split
  · rename_i h
    rw [Option.some.injEq]
    exact (and_iff_right (canonical_unpack _ h)).symm
  · rename_i h
    refine iff_of_false (by simp) ?_
    rintro ⟨hcanonical, -⟩
    refine h ?_
    change x.toModel.unpack.isFinite = true
    generalize x.toModel.unpack = w at hcanonical
    cases hcanonical <;> rfl

theorem represents_of_isFinite (h : x.isFinite = true) : ∃ a, Represents x a :=
  ⟨_, if_pos h⟩

theorem Represents.isFinite (h : Represents x a) : x.isFinite = true := by
  by_contra hinfinite
  rw [Represents, fraction?, if_neg hinfinite] at h
  cases h

theorem represents_pack (h : Canonical u) : Represents (Float.ofModel (.pack u)) (exact u) := by
  have hunpack : (Float.ofModel (.pack u)).toModel.unpack = u := unpack_pack h
  rw [represents_iff, hunpack]
  exact ⟨h, rfl⟩

theorem canonical_neg (h : Canonical u) : Canonical u.neg := by
  cases h with
  | zero s => exact .zero (-s)
  | finite hlt hmin hmax hnormal => exact .finite hlt hmin hmax hnormal

theorem exact_neg (u : UnpackedFloat) : exact u.neg = -exact u := by
  cases u with
  | finite s m e hm =>
    cases s
    · change exact (.finite .positive m e hm) = -exact (.finite .negative m e hm)
      simp [exact, Sign.apply]
    · change exact (.finite .negative m e hm) = -exact (.finite .positive m e hm)
      simp [exact, Sign.apply]
  | _ => simp [exact, neg]

theorem Represents.abs (h : Represents x a) : Represents x.abs |a| := by
  obtain ⟨hcanonical, rfl⟩ := represents_iff.mp h
  change Represents (Float.ofModel (.pack x.toModel.unpack.abs)) _
  generalize x.toModel.unpack = w at hcanonical
  have habs : exact w.abs = |exact w| := by
    cases w with
    | finite s m e hm =>
      rw [abs_exact_finite]
      exact (exact_finite .positive m e hm).trans (one_mul _)
    | _ => simp [exact, UnpackedFloat.abs]
  rw [← habs]
  refine represents_pack ?_
  cases hcanonical with
  | zero s => exact .zero .positive
  | finite hlt hmin hmax hnormal => exact .finite hlt hmin hmax hnormal

theorem magnitude_lt {m₁ m₂ : Nat} {e₁ e₂ : Int} (hlt : m₁ < 2 ^ 53) (hmin : -1074 ≤ e₁)
    (hnormal : 2 ^ 52 ≤ m₂ ∨ e₂ = -1074) (he : e₁ < e₂) :
    (m₁ * 2 ^ e₁ : ℚ) < m₂ * 2 ^ e₂ := by
  have hlo : 2 ^ 52 ≤ m₂ := hnormal.resolve_right (by omega)
  have hpow : (2 : ℚ) * 2 ^ e₁ ≤ 2 ^ e₂ := by
    rw [mul_comm, ← zpow_add_one₀ (by norm_num)]
    exact zpow_le_zpow_right₀ (by norm_num) he
  have hdouble : (m₁ : ℚ) < m₂ * 2 := by
    exact_mod_cast (by omega : m₁ < m₂ * 2)
  calc (m₁ * 2 ^ e₁ : ℚ) < m₂ * 2 * 2 ^ e₁ :=
        mul_lt_mul_of_pos_right hdouble (two_zpow_pos e₁)
    _ = m₂ * (2 * 2 ^ e₁) := by ring
    _ ≤ m₂ * 2 ^ e₂ := mul_le_mul_of_nonneg_left hpow m₂.cast_nonneg

theorem magnitude_compares {m₁ m₂ : Nat} {e₁ e₂ : Int} (h₁ : m₁ < 2 ^ 53) (hmin₁ : -1074 ≤ e₁)
    (hnormal₁ : 2 ^ 52 ≤ m₁ ∨ e₁ = -1074) (h₂ : m₂ < 2 ^ 53) (hmin₂ : -1074 ≤ e₂)
    (hnormal₂ : 2 ^ 52 ≤ m₂ ∨ e₂ = -1074) :
    ((compare e₁ e₂).then (compare m₁ m₂)).Compares (m₁ * 2 ^ e₁ : ℚ) (m₂ * 2 ^ e₂) := by
  rcases Int.lt_trichotomy e₁ e₂ with he | rfl | he
  · rw [Int.compare_eq_lt.mpr he]
    exact magnitude_lt h₁ hmin₁ hnormal₂ he
  · have hpos := two_zpow_pos e₁
    rw [Int.compare_eq_eq.mpr rfl]
    rcases Nat.lt_trichotomy m₁ m₂ with hm | rfl | hm
    · rw [Nat.compare_eq_lt.mpr hm]
      exact mul_lt_mul_of_pos_right (by exact_mod_cast hm) hpos
    · rw [Nat.compare_eq_eq.mpr rfl]
      rfl
    · rw [Nat.compare_eq_gt.mpr hm]
      exact mul_lt_mul_of_pos_right (by exact_mod_cast hm) hpos
  · rw [Int.compare_eq_gt.mpr he]
    exact magnitude_lt h₂ hmin₂ hnormal₁ he

theorem exact_positive (m : Nat) (e : Int) (hm : 0 < m) :
    exact (.finite .positive m e hm) = m * 2 ^ e :=
  (exact_finite .positive m e hm).trans (one_mul _)

theorem exact_negative (m : Nat) (e : Int) (hm : 0 < m) :
    exact (.finite .negative m e hm) = -(m * 2 ^ e) :=
  (exact_neg (.finite .positive m e hm)).trans (congrArg Neg.neg (exact_positive m e hm))

theorem compares_neg {o : Ordering} (h : o.Compares a b) : o.swap.Compares (-a) (-b) := by
  cases o with
  | lt => exact neg_lt_neg h
  | eq => exact congrArg Neg.neg h
  | gt => exact neg_lt_neg h

theorem compare_exact (hu : Canonical u) (hv : Canonical v) :
    ∃ o, u.compare v = some o ∧ o.Compares (exact u) (exact v) := by
  have hpos : ∀ (m : Nat) (e : Int), 0 < m → (0 : ℚ) < m * 2 ^ e :=
    fun m e hm => mul_pos (Nat.cast_pos.mpr hm) (two_zpow_pos e)
  have habove : ∀ (m : Nat) (e : Int) (hm : 0 < m), 0 < exact (.finite .positive m e hm) :=
    fun m e hm => (hpos m e hm).trans_eq (exact_positive m e hm).symm
  have hbelow : ∀ (m : Nat) (e : Int) (hm : 0 < m), exact (.finite .negative m e hm) < 0 :=
    fun m e hm => (exact_negative m e hm).trans_lt (neg_neg_of_pos (hpos m e hm))
  cases hu with
  | zero s =>
    cases hv with
    | zero t => exact ⟨.eq, rfl, rfl⟩
    | @finite t m e hm hlt hmin hmax hnormal =>
      cases t with
      | positive => exact ⟨.lt, rfl, habove m e hm⟩
      | negative => exact ⟨.gt, rfl, hbelow m e hm⟩
  | @finite s m₁ e₁ hm₁ hlt hmin hmax hnormal =>
    cases hv with
    | zero t =>
      cases s with
      | positive => exact ⟨.gt, rfl, habove m₁ e₁ hm₁⟩
      | negative => exact ⟨.lt, rfl, hbelow m₁ e₁ hm₁⟩
    | @finite t m₂ e₂ hm₂ hlt' hmin' hmax' hnormal' =>
      have hmagnitude := magnitude_compares hlt hmin hnormal hlt' hmin' hnormal'
      cases s <;> cases t
      · refine ⟨_, rfl, ?_⟩
        rw [exact_negative, exact_negative]
        exact compares_neg hmagnitude
      · exact ⟨.lt, rfl, (hbelow m₁ e₁ hm₁).trans (habove m₂ e₂ hm₂)⟩
      · exact ⟨.gt, rfl, (hbelow m₂ e₂ hm₂).trans (habove m₁ e₁ hm₁)⟩
      · refine ⟨_, rfl, ?_⟩
        rw [exact_positive, exact_positive]
        exact hmagnitude

theorem Represents.le_iff (ha : Represents x a) (hb : Represents y b) : x ≤ y ↔ a ≤ b := by
  obtain ⟨hx, rfl⟩ := represents_iff.mp ha
  obtain ⟨hy, rfl⟩ := represents_iff.mp hb
  obtain ⟨o, hcompare, ho⟩ := compare_exact hx hy
  have hle : x ≤ y ↔ o.isLE = true := by
    change decide (x.toModel.unpack.le y.toModel.unpack = true) = true ↔ _
    rw [decide_eq_true_iff, UnpackedFloat.le, hcompare]
    rfl
  rw [hle, ← ho.ne_gt]
  cases o <;> simp

theorem Represents.lt_iff (ha : Represents x a) (hb : Represents y b) : x < y ↔ a < b := by
  obtain ⟨hx, rfl⟩ := represents_iff.mp ha
  obtain ⟨hy, rfl⟩ := represents_iff.mp hb
  obtain ⟨o, hcompare, ho⟩ := compare_exact hx hy
  have hlt : x < y ↔ o = .lt := by
    change decide (x.toModel.unpack.lt y.toModel.unpack = true) = true ↔ _
    rw [decide_eq_true_iff, UnpackedFloat.lt, hcompare]
    simp
  rw [hlt, ho.eq_lt]

theorem Represents.le (ha : Represents x a) (hb : Represents y b) (h : x ≤ y) : a ≤ b :=
  (ha.le_iff hb).mp h

/-- Zero is excepted, which has a positive and a negative form. -/
theorem canonical_inj (hu : Canonical u) (hv : Canonical v) (h : exact u = exact v)
    (hne : exact u ≠ 0) : u = v := by
  obtain ⟨o, hcompare, ho⟩ := compare_exact hu hv
  obtain rfl : o = .eq := ho.eq_eq.mpr h
  cases hu with
  | zero s => exact absurd rfl hne
  | @finite s m₁ e₁ hm₁ hlt hmin hmax hnormal =>
    cases hv with
    | zero t => cases s <;> cases hcompare
    | @finite t m₂ e₂ hm₂ hlt' hmin' hmax' hnormal' =>
      have hsame : ((compare e₁ e₂).then (compare m₁ m₂)) = .eq → e₁ = e₂ ∧ m₁ = m₂ := by
        rw [Ordering.then_eq_eq, Int.compare_eq_eq, Nat.compare_eq_eq]
        exact id
      cases s <;> cases t
      · obtain ⟨rfl, rfl⟩ := hsame (Ordering.swap_eq_eq.mp (Option.some.inj hcompare))
        rfl
      · cases hcompare
      · cases hcompare
      · obtain ⟨rfl, rfl⟩ := hsame (Option.some.inj hcompare)
        rfl

theorem Represents.inj (ha : Represents x a) (hb : Represents y a) (hne : a ≠ 0) : x = y := by
  obtain ⟨hx, hxa⟩ := represents_iff.mp ha
  obtain ⟨hy, hya⟩ := represents_iff.mp hb
  have hunpack : x.toModel.unpack = y.toModel.unpack :=
    canonical_inj hx hy (hxa.trans hya.symm) (hxa ▸ hne)
  have hbits := (unpack_inj_of_valid x.toModel.valid y.toModel.valid).mp hunpack
  exact Float.toBits_inj.mp (UInt64.toBitVec_inj.mp hbits)

theorem Represents.least_le (ha : Represents x a) (h : 0 < a) : (2 : ℚ) ^ (-1074 : Int) ≤ a := by
  obtain ⟨hcanonical, rfl⟩ := represents_iff.mp ha
  generalize x.toModel.unpack = u at hcanonical h
  cases hcanonical with
  | zero s => cases lt_irrefl _ h
  | @finite s m e hm hlt hmin hmax hnormal =>
    have hone : (1 : ℚ) ≤ m := by exact_mod_cast hm
    calc (2 : ℚ) ^ (-1074 : Int) ≤ 2 ^ e := zpow_le_zpow_right₀ (by norm_num) hmin
      _ ≤ m * 2 ^ e := le_mul_of_one_le_left (two_zpow_pos e).le hone
      _ = |exact (.finite s m e hm)| := (abs_exact_finite s m e hm).symm
      _ = exact (.finite s m e hm) := abs_of_pos h

/-! ## Infinities and NaN -/

theorem isFinite_pack (h : u.isFinite = false) : (Float.ofModel (.pack u)).isFinite = false := by
  cases u with
  | infinity s => cases s <;> decide
  | notANumber => decide
  | zero s => cases h
  | finite s m e hm => cases h

theorem isFinite_div (h : x.isFinite = false) : (x / y).isFinite = false := by
  change x.toModel.unpack.isFinite = false at h
  refine isFinite_pack (u := .div .binary64 x.toModel.unpack y.toModel.unpack) ?_
  cases hu : x.toModel.unpack <;> rw [hu] at h
  · cases y.toModel.unpack <;> rfl
  · cases y.toModel.unpack <;> rfl
  · cases h
  · cases h

theorem isFinite_div_nan (h : y.isNaN = true) : (x / y).isFinite = false := by
  change y.toModel.unpack.isNaN = true at h
  refine isFinite_pack (u := .div .binary64 x.toModel.unpack y.toModel.unpack) ?_
  cases hu : y.toModel.unpack <;> rw [hu] at h
  · cases h
  · cases x.toModel.unpack <;> rfl
  · cases h
  · cases h

theorem isFinite_div_zero (h : Represents y 0) : (x / y).isFinite = false := by
  obtain ⟨hcanonical, hzero⟩ := represents_iff.mp h
  refine isFinite_pack (u := .div .binary64 x.toModel.unpack y.toModel.unpack) ?_
  generalize y.toModel.unpack = v at hcanonical hzero
  cases hcanonical with
  | zero s => cases x.toModel.unpack <;> rfl
  | @finite s m e hm hlt hmin hmax hnormal =>
    have hpos := mul_pos (Nat.cast_pos.mpr hm) (two_zpow_pos e)
    rw [← abs_exact_finite s m e hm, hzero, abs_zero] at hpos
    cases lt_irrefl _ hpos

theorem isFinite_sub (h : y.isFinite = false) : (x - y).isFinite = false := by
  change y.toModel.unpack.isFinite = false at h
  refine isFinite_pack (u := .sub .binary64 x.toModel.unpack y.toModel.unpack) ?_
  cases hu : y.toModel.unpack with
  | infinity s =>
    cases x.toModel.unpack with
    | infinity t => cases s <;> cases t <;> rfl
    | _ => rfl
  | notANumber => cases x.toModel.unpack <;> rfl
  | zero s =>
    rw [hu] at h
    cases h
  | finite s m e hm =>
    rw [hu] at h
    cases h

theorem isFinite_abs (h : x.isFinite = false) : x.abs.isFinite = false := by
  change x.toModel.unpack.isFinite = false at h
  refine isFinite_pack (u := x.toModel.unpack.abs) ?_
  cases hu : x.toModel.unpack <;> rw [hu] at h
  · rfl
  · rfl
  · cases h
  · cases h

theorem isFinite_of_abs_le (hb : Represents y b) (h : x.abs ≤ y) : x.isFinite = true := by
  obtain ⟨hcanonical, -⟩ := represents_iff.mp hb
  have hle : (unpack .binary64 (pack .binary64 x.toModel.unpack.abs)).le y.toModel.unpack = true :=
    of_decide_eq_true h
  change x.toModel.unpack.isFinite = true
  generalize y.toModel.unpack = v at hcanonical hle
  cases hu : x.toModel.unpack with
  | infinity s =>
    have hpack : unpack .binary64 (pack .binary64 (UnpackedFloat.infinity s).abs) =
        .infinity .positive := (unpack_packComponents .positive (-1#11) 0#52).trans rfl
    rw [hu, hpack] at hle
    cases hcanonical <;> cases hle
  | notANumber =>
    have hpack : unpack .binary64 (pack .binary64 UnpackedFloat.notANumber.abs) =
        .notANumber := unpack_packedNaN
    rw [hu, hpack] at hle
    cases hle
  | zero s => rfl
  | finite s m e hm => rfl

end Beamline.Rounding
