import Beamline.Proofs.Reaching

/-!
The position `p + (x - p) * f` of an axis on its way from `p` to `x`, in binary64. Proved here:

* `le_iff_rank`, `lt_iff_rank`: a comparison of two numbers is one of their `rank?`, in the
  rationals with both ends;
* `Represents.sub_sided`, `Represents.mul_sided`: a difference or a product is `Sided` with the
  exact one, so that no number of binary64 lies in between;
* `product_le`: if `d` is the distance rounded and `c < 1`, the product `d * c` rounded does not
  exceed the exact distance, although `d` may;
* `Motor.interpolates_of_bounded`: so binary64 interpolates between all limits up to `2 ^ 900`;
* `Motor.fractionsBelowOne_of_crossedInHour`: if the range is crossed within an hour, no fraction
  that is computed before the travel is over is rounded up to 1.
-/

namespace Beamline

/-- `y` is in the closed interval with ends `p` and `x`, in either order. -/
def Between {α : Type} [LE α] (p x y : α) : Prop := p ≤ y ∧ y ≤ x ∨ x ≤ y ∧ y ≤ p

/-- For every move within `range` that `m` can make, `p + (x - p) * f` is `Between` its ends `p` and
`x` for each fraction `0 ≤ f < 1`. -/
def Motor.Interpolates {α : Type} [Scalar α] (m : Motor α) (range : Limits α) : Prop :=
  ∀ p x f, range.contains p = true → range.contains x = true →
    (m.travelTime (x - p)).isSome = true → 0 ≤ f → f < 1 → Between p x (p + (x - p) * f)

/-- For every move within `range` that `m` can make, the fraction computed for `elapsed < travel` is
less than 1. -/
def Motor.FractionsBelowOne {α : Type} [Scalar α] (m : Motor α) (range : Limits α) : Prop :=
  ∀ p x travel elapsed, range.contains p = true → range.contains x = true →
    m.travelTime (x - p) = some travel → elapsed < travel →
    Scalar.seconds elapsed / Scalar.seconds travel < (1 : α)

namespace Rounding

open Float.Model (Format UnpackedFloat)
open Float.Model.UnpackedFloat

variable {x y z : Float} {a b c d g q r t : ℚ} {u v w : UnpackedFloat}

/-! ## Comparing -/

/-- The place of a number in the rationals with both ends, and none of one that is not a number. -/
def rank? : UnpackedFloat → Option (WithBot (WithTop ℚ))
  | .notANumber => none
  | .infinity .negative => some ⊥
  | .infinity .positive => some ⊤
  | u => some ((exact u : WithTop ℚ) : WithBot (WithTop ℚ))

theorem rank?_of_canonical (h : Canonical u) :
    rank? u = some ((exact u : WithTop ℚ) : WithBot (WithTop ℚ)) := by
  cases h <;> rfl

theorem unpack_cases (x : Float) :
    x.toModel.unpack = .notANumber ∨ (∃ s, x.toModel.unpack = .infinity s) ∨
      Canonical x.toModel.unpack := by
  have hcanonical : x.toModel.unpack.isFinite = true → Canonical x.toModel.unpack :=
    canonical_unpack _
  generalize x.toModel.unpack = u at hcanonical
  cases u with
  | notANumber => exact .inl rfl
  | infinity s => exact .inr (.inl ⟨s, rfl⟩)
  | zero s => exact .inr (.inr (hcanonical rfl))
  | finite s m e hm => exact .inr (.inr (hcanonical rfl))

theorem compare_rank (hu : u = .notANumber ∨ (∃ s, u = .infinity s) ∨ Canonical u)
    (hv : v = .notANumber ∨ (∃ s, v = .infinity s) ∨ Canonical v) :
    u.compare v = (rank? u).bind fun i => (rank? v).map (cmp i) := by
  have hbot : ∀ q : ℚ, (⊥ : WithBot (WithTop ℚ)) < (q : WithTop ℚ) := fun q => WithBot.bot_lt_coe _
  have htop : ∀ q : ℚ, ((q : WithTop ℚ) : WithBot (WithTop ℚ)) < ⊤ :=
    fun q => WithBot.coe_lt_coe.mpr (WithTop.coe_lt_top q)
  rcases hu with rfl | ⟨s, rfl⟩ | hu
  · cases v <;> rfl
  · rcases hv with rfl | ⟨t, rfl⟩ | hv
    · cases s <;> rfl
    · cases s <;> cases t <;> rfl
    · rw [rank?_of_canonical hv]
      cases s with
      | negative =>
        rw [rank?, Option.bind_some, Option.map_some, (hbot _).cmp_eq_lt]
        cases hv <;> rfl
      | positive =>
        rw [rank?, Option.bind_some, Option.map_some, (htop _).cmp_eq_gt]
        cases hv <;> rfl
  · rw [rank?_of_canonical hu, Option.bind_some]
    rcases hv with rfl | ⟨t, rfl⟩ | hv
    · cases hu <;> rfl
    · cases t with
      | negative =>
        rw [rank?, Option.map_some, (hbot _).cmp_eq_gt]
        cases hu <;> rfl
      | positive =>
        rw [rank?, Option.map_some, (htop _).cmp_eq_lt]
        cases hu <;> rfl
    · obtain ⟨o, hcompare, ho⟩ := compare_exact hu hv
      have hcast : StrictMono fun q : ℚ => ((q : WithTop ℚ) : WithBot (WithTop ℚ)) :=
        WithBot.coe_strictMono.comp WithTop.coe_strictMono
      rw [rank?_of_canonical hv, hcompare, Option.map_some, hcast.cmp_map_eq, ho.cmp_eq]

/-- A Boolean comparison is true if and only if both numbers have a `rank?` and it is true of these.
-/
theorem any_compare_iff {p : Ordering → Bool} :
    (x.toModel.unpack.compare y.toModel.unpack).any p = true ↔
      ∃ i j, rank? x.toModel.unpack = some i ∧ rank? y.toModel.unpack = some j ∧
        p (cmp i j) = true := by
  rw [compare_rank (unpack_cases x) (unpack_cases y)]
  cases rank? x.toModel.unpack with
  | none => simp
  | some i => cases rank? y.toModel.unpack <;> simp

theorem le_iff_rank :
    x ≤ y ↔ ∃ i j, rank? x.toModel.unpack = some i ∧ rank? y.toModel.unpack = some j ∧ i ≤ j := by
  have hle : x ≤ y ↔ (x.toModel.unpack.compare y.toModel.unpack).any (·.isLE) = true := by
    change decide (x.toModel.unpack.le y.toModel.unpack = true) = true ↔ _
    rw [decide_eq_true_iff]
    rfl
  have hcmp : ∀ i j : WithBot (WithTop ℚ), (cmp i j).isLE = true ↔ i ≤ j := by
    intro i j
    rw [← (cmp_compares i j).ne_gt]
    cases cmp i j <;> simp
  simp only [hle, any_compare_iff, hcmp]

theorem lt_iff_rank :
    x < y ↔ ∃ i j, rank? x.toModel.unpack = some i ∧ rank? y.toModel.unpack = some j ∧ i < j := by
  have hlt : x < y ↔ (x.toModel.unpack.compare y.toModel.unpack).any (· == .lt) = true := by
    change decide (x.toModel.unpack.lt y.toModel.unpack = true) = true ↔ _
    rw [decide_eq_true_iff, UnpackedFloat.lt]
    cases x.toModel.unpack.compare y.toModel.unpack <;> simp
  simp only [hlt, any_compare_iff, beq_iff_eq, cmp_eq_lt_iff]

theorem float_le_trans (hxy : x ≤ y) (hyz : y ≤ z) : x ≤ z := by
  obtain ⟨i, j, hx, hy, hij⟩ := le_iff_rank.mp hxy
  obtain ⟨j', k, hy', hz, hjk⟩ := le_iff_rank.mp hyz
  obtain rfl := Option.some.inj (hy.symm.trans hy')
  exact le_iff_rank.mpr ⟨i, k, hx, hz, hij.trans hjk⟩

theorem float_lt_of_lt_of_le (hxy : x < y) (hyz : y ≤ z) : x < z := by
  obtain ⟨i, j, hx, hy, hij⟩ := lt_iff_rank.mp hxy
  obtain ⟨j', k, hy', hz, hjk⟩ := le_iff_rank.mp hyz
  obtain rfl := Option.some.inj (hy.symm.trans hy')
  exact lt_iff_rank.mpr ⟨i, k, hx, hz, hij.trans_le hjk⟩

theorem float_le_of_lt (hxy : x < y) : x ≤ y := by
  obtain ⟨i, j, hx, hy, hij⟩ := lt_iff_rank.mp hxy
  exact le_iff_rank.mpr ⟨i, j, hx, hy, hij.le⟩

theorem represents_of_le (ha : Represents x a) (hb : Represents z b) (hxy : x ≤ y) (hyz : y ≤ z) :
    ∃ c, Represents y c := by
  obtain ⟨hx, -⟩ := represents_iff.mp ha
  obtain ⟨hz, -⟩ := represents_iff.mp hb
  obtain ⟨i, j, hi, hj, hij⟩ := le_iff_rank.mp hxy
  obtain ⟨j', k, hj', hk, hjk⟩ := le_iff_rank.mp hyz
  rw [rank?_of_canonical hx, Option.some.injEq] at hi
  rw [rank?_of_canonical hz, Option.some.injEq] at hk
  obtain rfl := Option.some.inj (hj.symm.trans hj')
  subst hi hk
  rcases unpack_cases y with hy | ⟨s, hy⟩ | hy
  · rw [hy] at hj
    cases hj
  · rw [hy] at hj
    cases s with
    | negative =>
      obtain rfl := Option.some.inj hj
      simp at hij
    | positive =>
      obtain rfl := Option.some.inj hj
      simp at hjk
  · exact ⟨_, represents_iff.mpr ⟨hy, rfl⟩⟩

theorem represents_of_contains {range : Limits Float} (ha : Represents range.min a)
    (hb : Represents range.max b) (habound : |a| ≤ r) (hbbound : |b| ≤ r)
    (hx : range.contains x = true) : ∃ c, Represents x c ∧ a ≤ c ∧ c ≤ b ∧ |c| ≤ r := by
  obtain ⟨hlo, hhi⟩ := Limits.contains_iff.mp hx
  obtain ⟨c, hc⟩ := represents_of_le ha hb hlo hhi
  have hac := ha.le hc hlo
  have hcb := hc.le hb hhi
  exact ⟨c, hc, hac, hcb, (abs_le_max_abs_abs hac hcb).trans (max_le habound hbbound)⟩

/-! ## Results on the same side

`Sided q r` holds of every rounding that takes no number of binary64 from one side of it to the
other, whether it goes up, down or to the nearest number. -/

/-- No number of binary64 is strictly between `q` and `r`, or equal to `q` and not to `r`. -/
def Sided (q r : ℚ) : Prop :=
  ∀ w, Canonical w → (q ≤ exact w → r ≤ exact w) ∧ (exact w ≤ q → exact w ≤ r)

theorem Sided.refl (q : ℚ) : Sided q q := fun _ _ => ⟨id, id⟩

theorem Sided.neg (h : Sided q r) : Sided (-q) (-r) := by
  intro w hw
  obtain ⟨habove, hbelow⟩ := h w.neg (canonical_neg hw)
  rw [exact_neg] at habove hbelow
  exact ⟨fun hq => neg_le.mpr (hbelow (neg_le.mp hq)), fun hq => le_neg.mpr (habove (le_neg.mp hq))⟩

theorem Sided.factor (h : Sided q r) (s : Sign) : Sided (factor s * q) (factor s * r) := by
  cases s
  · rw [factor_negative, neg_one_mul, neg_one_mul]
    exact h.neg
  · rw [factor_positive, one_mul, one_mul]
    exact h

theorem Sided.le (h : Sided q r) (ha : Represents x a) (hle : q ≤ a) : r ≤ a := by
  obtain ⟨hx, rfl⟩ := represents_iff.mp ha
  exact (h _ hx).1 hle

theorem Sided.ge (h : Sided q r) (ha : Represents x a) (hle : a ≤ q) : a ≤ r := by
  obtain ⟨hx, rfl⟩ := represents_iff.mp ha
  exact (h _ hx).2 hle

/-- Rounding a mantissa to a multiple of `2 ^ k` does not go past any other multiple of `2 ^ k`. -/
theorem sided_multiple {m r k N : Nat} (hlo : m / 2 ^ k ≤ r)
    (hhalf : 2 * (r * 2 ^ k) ≤ 2 * m + 2 ^ k) :
    (m ≤ N * 2 ^ k → r ≤ N) ∧ (N * 2 ^ k ≤ m → N ≤ r) := by
  have hpos := Nat.two_pow_pos k
  constructor
  · intro hm
    by_contra hlt
    have hmore := Nat.mul_le_mul_right (2 ^ k) (Nat.lt_of_not_le hlt)
    rw [Nat.succ_mul] at hmore
    omega
  · intro hm
    exact ((Nat.le_div_iff_mul_le hpos).mpr hm).trans hlo

theorem sided_mantissa {m r : Nat} {e : Int} (h : WholePart m e (m * 2 ^ e))
    (hlo : m / 2 ^ (least m e - e).toNat ≤ r)
    (hhalf : 2 * (r * 2 ^ (least m e - e).toNat) ≤ 2 * m + 2 ^ (least m e - e).toNat) :
    Sided (m * 2 ^ e) (r * 2 ^ least m e) := by
  have hunit := two_zpow_pos (least m e)
  have hr : (0 : ℚ) ≤ r * 2 ^ least m e := mul_nonneg r.cast_nonneg hunit.le
  have hq := h.positive
  intro w hw
  cases hw with
  | zero s => exact ⟨fun hle => absurd hq (not_lt.mpr hle), fun _ => hr⟩
  | @finite s n f hn hlt hmin hmax hnormal =>
    have hw : (0 : ℚ) < n * 2 ^ f := mul_pos (by exact_mod_cast hn) (two_zpow_pos f)
    cases s with
    | negative =>
      rw [exact_negative]
      exact ⟨fun _ => by linarith, fun _ => by linarith⟩
    | positive =>
      rw [exact_positive]
      rcases lt_or_ge f (least m e) with hf | hf
      · -- the number is finer than what is rounded to, and so it is below all of that
        have hlead := h.normal.resolve_right (by omega)
        have hsmall := magnitude_lt hlt hmin (.inl hlead) hf
        have hbelow := h.neighbours.1
        have hfloor := mul_le_mul_of_nonneg_right
          (by exact_mod_cast hlo : ((m / 2 ^ (least m e - e).toNat : Nat) : ℚ) ≤ r) hunit.le
        exact ⟨fun hle => absurd hle (by linarith), fun _ => by linarith⟩
      · -- both are multiples of one unit
        rw [two_zpow_split hf, ← mul_assoc, mul_le_mul_iff_left₀ hunit, mul_le_mul_iff_left₀ hunit,
          two_zpow_split h.fits, ← mul_assoc, mul_le_mul_iff_left₀ (two_zpow_pos e),
          mul_le_mul_iff_left₀ (two_zpow_pos e)]
        exact_mod_cast sided_multiple hlo hhalf

/-! ## Half a unit

A sum needs no more than `Sided` to stay between the ends of a move. A product does: if it were
rounded up, `d * f` could be `d` again for the greatest `f < 1`. -/

/-- The magnitude of `p` exceeds that of `q` by at most half a unit in the last place of `q`. -/
def WithinHalfUnit (q p : ℚ) : Prop :=
  |p| ≤ |q| + |q| / 2 ^ 53 ∨ |p| ≤ |q| + 2 ^ (-1074 : Int) / 2

theorem WithinHalfUnit.factor (h : WithinHalfUnit q p) (s : Sign) :
    WithinHalfUnit (factor s * q) (factor s * p) := by
  unfold WithinHalfUnit at h ⊢
  rwa [abs_mul, abs_mul, abs_factor, one_mul, one_mul]

theorem withinHalfUnit_mantissa {m r : Nat} {e : Int} (h : WholePart m e (m * 2 ^ e))
    (hhalf : 2 * (r * 2 ^ (least m e - e).toNat) ≤ 2 * m + 2 ^ (least m e - e).toNat) :
    WithinHalfUnit (m * 2 ^ e) (r * 2 ^ least m e) := by
  have hunit := two_zpow_pos (least m e)
  have hle : (r : ℚ) * 2 ^ least m e ≤ m * 2 ^ e + 2 ^ least m e / 2 := by
    have hhalf' : (2 : ℚ) * (r * 2 ^ (least m e - e).toNat) ≤
        2 * m + 2 ^ (least m e - e).toNat := by exact_mod_cast hhalf
    have hscaled := mul_le_mul_of_nonneg_right hhalf' (two_zpow_pos e).le
    rw [two_zpow_split h.fits]
    linarith
  unfold WithinHalfUnit
  rw [abs_of_nonneg (mul_nonneg r.cast_nonneg hunit.le), abs_of_pos h.positive]
  rcases h.unit_le_or with hleast | hsmall
  · right
    rwa [hleast] at hle ⊢
  · left
    linarith

/-! ## Sums, differences and products -/

theorem roundWithAccuracy_sided (s : Sign) {m : Nat} {e : Int} (h : WholePart m e (m * 2 ^ e)) :
    Sided (factor s * (m * 2 ^ e)) (exact (roundWithAccuracy Format.binary64 s m e .exact)) ∧
      WithinHalfUnit (factor s * (m * 2 ^ e))
        (exact (roundWithAccuracy Format.binary64 s m e .exact)) := by
  obtain ⟨r, hlo, hhi, hhalf, hround⟩ := roundWithAccuracy_eq s m e .exact h.fits
  have hr : r ≤ 2 ^ 53 := hhi.trans (div_least_lt m e)
  have hmin : -1074 ≤ least m e := le_max_right _ _
  rw [hround, exact_carry s hr hmin]
  exact ⟨(sided_mantissa h hlo (hhalf rfl)).factor s,
    (withinHalfUnit_mantissa h (hhalf rfl)).factor s⟩

theorem normalize_sided (m e : Int) (zero : Sign) :
    Sided (m * 2 ^ e) (exact (UnpackedFloat.normalize Format.binary64 m e zero)) := by
  rcases normalize_cases m e zero with ⟨rfl, hround⟩ | ⟨s, n, hn, hm, hround⟩
  · rw [hround, Int.cast_zero, zero_mul]
    exact .refl 0
  · obtain ⟨m', e', hexact, hwhole, hround'⟩ := round_eq s hn e
    rw [hround, hround', hm, mul_assoc, ← hexact]
    exact (roundWithAccuracy_sided s hwhole).1

theorem add_sided (hu : Canonical u) (hv : Canonical v) :
    Sided (exact u + exact v) (exact (add Format.binary64 u v)) := by
  rcases add_cases hu hv with ⟨-, hexact⟩ | ⟨m, e, hexact, hround⟩
  · rw [hexact]
    exact .refl _
  · rw [hround, ← hexact]
    exact normalize_sided m e .positive

theorem mul_sided (hu : Canonical u) (hv : Canonical v) :
    Sided (exact u * exact v) (exact (mul Format.binary64 u v)) ∧
      WithinHalfUnit (exact u * exact v) (exact (mul Format.binary64 u v)) := by
  rcases mul_cases hu hv with ⟨hnothing, s, hround⟩ | ⟨s, m, e, hwhole, hexact, hround⟩
  · rw [hnothing, hround]
    exact ⟨.refl 0, .inl (by norm_num [exact])⟩
  · rw [hexact, hround]
    exact roundWithAccuracy_sided s hwhole

theorem Represents.add_sided (ha : Represents x a) (hb : Represents y b) (hq : InRange (a + b)) :
    ∃ c, Represents (x + y) c ∧ Sided (a + b) c := by
  obtain ⟨hx, rfl⟩ := represents_iff.mp ha
  obtain ⟨hy, rfl⟩ := represents_iff.mp hb
  obtain ⟨hcanonical, -⟩ := add_rounds hx hy hq
  exact ⟨_, represents_pack hcanonical, Rounding.add_sided hx hy⟩

theorem Represents.sub_sided (ha : Represents x a) (hb : Represents y b) (hq : InRange (a - b)) :
    ∃ c, Represents (x - y) c ∧ Sided (a - b) c := by
  obtain ⟨hx, rfl⟩ := represents_iff.mp ha
  obtain ⟨hy, rfl⟩ := represents_iff.mp hb
  rw [sub_eq_add_neg, ← exact_neg] at hq ⊢
  have hsided := Rounding.add_sided hx (canonical_neg hy)
  obtain ⟨hcanonical, -⟩ := add_rounds hx (canonical_neg hy) hq
  rw [← sub_eq_add_opposite] at hcanonical hsided
  exact ⟨_, represents_pack hcanonical, hsided⟩

theorem Represents.mul_sided (ha : Represents x a) (hb : Represents y b) (hq : InRange (a * b)) :
    ∃ c, Represents (x * y) c ∧ Sided (a * b) c ∧ WithinHalfUnit (a * b) c := by
  obtain ⟨hx, rfl⟩ := represents_iff.mp ha
  obtain ⟨hy, rfl⟩ := represents_iff.mp hb
  obtain ⟨hcanonical, -⟩ := mul_rounds hx hy hq
  exact ⟨_, represents_pack hcanonical, Rounding.mul_sided hx hy⟩

/-! ## Small differences

Finite numbers are multiples of the least positive one, and so are their differences. A difference
below the normal numbers is therefore exact. -/

theorem Represents.multiple (ha : Represents x a) : ∃ k : ℤ, a = k * 2 ^ (-1074 : Int) := by
  obtain ⟨hcanonical, rfl⟩ := represents_iff.mp ha
  generalize x.toModel.unpack = u at hcanonical
  cases hcanonical with
  | zero s => exact ⟨0, by norm_num [exact]⟩
  | @finite s m e hm hlt hmin hmax hnormal =>
    refine ⟨s.apply m * 2 ^ (e - -1074).toNat, ?_⟩
    rw [exact, two_zpow_split hmin]
    rw [Int.cast_mul, Int.cast_pow, Int.cast_ofNat, mul_assoc]

theorem Represents.sub_multiple (ha : Represents x a) (hb : Represents y b) :
    ∃ k : ℤ, a - b = k * 2 ^ (-1074 : Int) := by
  obtain ⟨i, hi⟩ := ha.multiple
  obtain ⟨j, hj⟩ := hb.multiple
  exact ⟨i - j, by rw [hi, hj, Int.cast_sub, sub_mul]⟩

theorem exists_canonical {k : Nat} (hk : k < 2 ^ 53) :
    ∃ w, Canonical w ∧ exact w = k * 2 ^ (-1074 : Int) := by
  rcases Nat.eq_zero_or_pos k with rfl | hpos
  · exact ⟨.zero .positive, .zero _, by norm_num [exact]⟩
  · exact ⟨.finite .positive k (-1074) hpos, .finite hk (by decide) (by decide) (.inr rfl),
      exact_positive k _ hpos⟩

/-- A multiple of the least positive number is exact below the normal numbers, so that one that is
rounded up to `d` has `d` above them. -/
theorem lt_of_sided (hg : 0 ≤ g) (hmultiple : ∃ k : ℤ, g = k * 2 ^ (-1074 : Int))
    (hsided : Sided g d) (hup : g < d) : 2 ^ 52 * (2 : ℚ) ^ (-1074 : Int) < d := by
  obtain ⟨k, rfl⟩ := hmultiple
  have hunit := two_zpow_pos (-1074)
  have hk : 0 ≤ k := by exact_mod_cast nonneg_of_mul_nonneg_left hg hunit
  lift k to ℕ using hk
  rw [Int.cast_natCast] at hsided hup
  rcases Nat.lt_or_ge k (2 ^ 53) with hlt | hge
  · -- a number itself, which is not rounded at all
    obtain ⟨w, hw, hexact⟩ := exists_canonical hlt
    have hle := (hsided w hw).1 hexact.ge
    linarith
  · obtain ⟨w, hw, hexact⟩ := exists_canonical (by decide : 2 ^ 52 + 1 < 2 ^ 53)
    have hcast : ((2 ^ 52 + 1 : Nat) : ℚ) ≤ k := by
      exact_mod_cast (by decide : 2 ^ 52 + 1 ≤ 2 ^ 53).trans hge
    have hbelow := mul_le_mul_of_nonneg_right hcast hunit.le
    have hle := (hsided w hw).2 (hexact.trans_le hbelow)
    rw [hexact, Nat.cast_add, Nat.cast_one, Nat.cast_pow, Nat.cast_ofNat] at hle
    generalize (2 : ℚ) ^ (-1074 : Int) = unit at *
    linarith

theorem Represents.neg (ha : Represents x a) : Represents (-x) (-a) := by
  obtain ⟨hx, rfl⟩ := represents_iff.mp ha
  rw [← exact_neg]
  exact represents_pack (canonical_neg hx)

/-! ## Moves -/

theorem Represents.le_of_lt_one (ha : Represents x a) (h : a < 1) : a ≤ 1 - 1 / 2 ^ 53 := by
  obtain ⟨hcanonical, rfl⟩ := represents_iff.mp ha
  generalize x.toModel.unpack = u at hcanonical h
  cases hcanonical with
  | zero s =>
    change (0 : ℚ) ≤ _
    norm_num
  | @finite s m e hm hlt hmin hmax hnormal =>
    have hpositive : (0 : ℚ) < m * 2 ^ e := mul_pos (by exact_mod_cast hm) (two_zpow_pos e)
    cases s with
    | negative =>
      rw [exact_negative]
      have : (0 : ℚ) ≤ 1 - 1 / 2 ^ 53 := by norm_num
      linarith
    | positive =>
      rw [exact_positive] at h ⊢
      have hgreatest : ((2 ^ 53 - 1 : Nat) : ℚ) * 2 ^ (-53 : Int) = 1 - 1 / 2 ^ 53 := by norm_num
      rw [← hgreatest]
      rcases lt_trichotomy e (-53) with he | rfl | he
      · exact (magnitude_lt hlt hmin (.inl (by decide)) he).le
      · exact mul_le_mul_of_nonneg_right (by exact_mod_cast Nat.le_sub_one_of_lt hlt)
          (two_zpow_pos _).le
      · -- a normal number at this exponent is 1 or more
        exfalso
        have hlead : ((2 ^ 52 : Nat) : ℚ) ≤ m := by
          exact_mod_cast hnormal.resolve_right (by omega)
        have hpow : (2 : ℚ) ^ (-52 : Int) ≤ 2 ^ e :=
          zpow_le_zpow_right₀ (by norm_num) (by omega)
        have hone : ((2 ^ 52 : Nat) : ℚ) * 2 ^ (-52 : Int) ≤ m * 2 ^ e :=
          mul_le_mul hlead hpow (two_zpow_pos _).le m.cast_nonneg
        norm_num at hone
        linarith

/-- Let `d` be the distance `g` rounded, and `t` the product `d * c` rounded. Then `t ≤ g`. If
`d ≤ g`, the product is not rounded past `d`. If `g < d`, half a unit is not enough to round the
product up to `d`, and there is no number between `g` and `d`. -/
theorem product_le (hx : Represents x d) (hy : Represents y t) (hg : 0 ≤ g)
    (hmultiple : ∃ k : ℤ, g = k * 2 ^ (-1074 : Int)) (hdistance : Sided g d)
    (hc : 0 ≤ c ∧ c ≤ 1 - 1 / 2 ^ 53) (hproduct : Sided (d * c) t)
    (hhalf : WithinHalfUnit (d * c) t) : 0 ≤ t ∧ t ≤ g := by
  have hzero : Represents 0 0 := represents_zero
  have hd : 0 ≤ d := hdistance.ge hzero hg
  have hdc : 0 ≤ d * c := mul_nonneg hd hc.1
  have ht : 0 ≤ t := hproduct.ge hzero hdc
  have hpart : d * c ≤ d * (1 - 1 / 2 ^ 53) := mul_le_mul_of_nonneg_left hc.2 hd
  refine ⟨ht, ?_⟩
  rcases le_or_gt d g with hle | hup
  · exact (hproduct.le hx (by linarith)).trans hle
  · have hnormal := lt_of_sided hg hmultiple hdistance hup
    have hunit := two_zpow_pos (-1074)
    have hlt : t < d := by
      unfold WithinHalfUnit at hhalf
      rw [abs_of_nonneg ht, abs_of_nonneg hdc] at hhalf
      rcases hhalf with hhalf | hhalf <;> linarith
    by_contra hgt
    exact absurd (hdistance.le hy (lt_of_not_ge hgt).le) (not_le.mpr hlt)

theorem inRange_between {n : Nat} (hn : n ≤ 900) (ha : |a| ≤ 2 ^ n) (hb : |b| ≤ 2 ^ n)
    (hlo : a ≤ q) (hhi : q ≤ b) : InRange q := by
  rw [abs_le] at ha hb
  exact ⟨n, by omega, abs_le.mpr ⟨by linarith, by linarith⟩⟩

theorem between_of_fraction {p x f : Float} {n : Nat} (hn : n ≤ 900) (ha : Represents p a)
    (hb : Represents x b) (hp : |a| ≤ 2 ^ n) (hx : |b| ≤ 2 ^ n) (hc : Represents f c)
    (hfraction : 0 ≤ c ∧ c ≤ 1 - 1 / 2 ^ 53) : Between p x (p + (x - p) * f) := by
  have hone := one_le_two_pow n
  have hgap : |b - a| ≤ 2 ^ (n + 1) := by
    rw [pow_succ]
    linarith [abs_sub b a]
  obtain ⟨d, hd, hdistance⟩ := hb.sub_sided ha ⟨n + 1, by omega, hgap⟩
  obtain ⟨d', hd', -, hdbound⟩ := distance_within hn (by linarith) hx ha hb
  obtain rfl : d = d' := Option.some.inj (hd.symm.trans hd')
  have hbound : |d * c| ≤ 2 ^ (n + 2) := by
    rw [abs_mul, abs_of_nonneg hfraction.1, pow_add]
    nlinarith [abs_nonneg d]
  obtain ⟨t, ht, hproduct, hhalf⟩ := hd.mul_sided hc ⟨n + 2, by omega, hbound⟩
  rcases le_total a b with hle | hle
  · obtain ⟨hlo, hhi⟩ :=
      product_le hd ht (sub_nonneg.mpr hle) (hb.sub_multiple ha) hdistance hfraction hproduct hhalf
    obtain ⟨s, hs, hsided⟩ :=
      ha.add_sided ht (inRange_between hn hp hx (by linarith) (by linarith))
    exact .inl ⟨(ha.le_iff hs).mpr (hsided.ge ha (by linarith)),
      (hs.le_iff hb).mpr (hsided.le hb (by linarith))⟩
  · have hdistance' : Sided (a - b) (-d) := by
      rw [← neg_sub]
      exact hdistance.neg
    have hproduct' : Sided (-d * c) (-t) := by
      rw [neg_mul]
      exact hproduct.neg
    have hhalf' : WithinHalfUnit (-d * c) (-t) := by
      unfold WithinHalfUnit at hhalf ⊢
      rwa [neg_mul, abs_neg, abs_neg]
    obtain ⟨hlo, hhi⟩ := product_le hd.neg ht.neg (sub_nonneg.mpr hle) (ha.sub_multiple hb)
      hdistance' hfraction hproduct' hhalf'
    obtain ⟨s, hs, hsided⟩ :=
      ha.add_sided ht (inRange_between hn hx hp (by linarith) (by linarith))
    exact .inr ⟨(hb.le_iff hs).mpr (hsided.ge hb (by linarith)),
      (hs.le_iff ha).mpr (hsided.le ha (by linarith))⟩

/-- A move of more than no time that is made within an hour takes less than `2 ^ 42` nanoseconds. -/
theorem travel_le {v : ℚ} {travel : Nat} (hv : 1 / 2 ^ 20 ≤ v) (hcross : |g| ≤ 3600 * v)
    (hd : Rounds g d) (hq : Rounds (|d| / v) q) (htravel : (travel : ℚ) ≤ q * 10 ^ 9 + 1 / 2) :
    travel ≤ 2 ^ 42 := by
  have hv0 : 0 < v := by linarith
  have htime0 : 0 ≤ |d| / v := by positivity
  have hdnear := hd.rough
  have hqnear := hq.rough
  have hup := abs_sub_abs_le_abs_sub d g
  rw [abs_of_nonneg htime0, abs_le] at hqnear
  have hwhole : |d| / v ≤ 3601 := by
    rw [div_le_iff₀ hv0]
    linarith
  have hlong : (travel : ℚ) ≤ 2 ^ 42 := by linarith
  exact_mod_cast hlong

/-- At `speed` it takes at most an hour from one end of `range` to the other, and `speed` is at
least `2 ^ (-20)` units a second. -/
def CrossedInHour (range : Limits Float) (speed : Float) : Prop :=
  ∃ lo hi v, Represents range.min lo ∧ Represents range.max hi ∧ |lo| ≤ 2 ^ 100 ∧ |hi| ≤ 2 ^ 100 ∧
    Represents speed v ∧ 1 / 2 ^ 20 ≤ v ∧ hi - lo ≤ 3600 * v

end Rounding

open Rounding

namespace Motor

variable {m : Motor Float} {range : Limits Float} {n : Nat}

/-- Binary64 interpolates as `Interpolates` says between all limits up to `2 ^ 900` in magnitude. -/
theorem interpolates_of_bounded (hn : n ≤ 900) (hmin : Bounded n range.min)
    (hmax : Bounded n range.max) : m.Interpolates range := by
  obtain ⟨lo, hlo, hlobound⟩ := hmin
  obtain ⟨hi, hhi, hhibound⟩ := hmax
  intro p x f hp hx _ hf0 hf1
  obtain ⟨a, ha, -, -, habound⟩ := represents_of_contains hlo hhi hlobound hhibound hp
  obtain ⟨b, hb, -, -, hbbound⟩ := represents_of_contains hlo hhi hlobound hhibound hx
  obtain ⟨c, hc⟩ := represents_of_le represents_zero represents_one hf0 (float_le_of_lt hf1)
  have hc1 : c < 1 := (hc.lt_iff represents_one).mp hf1
  exact between_of_fraction hn ha hb habound hbbound hc
    ⟨represents_zero.le hc hf0, hc.le_of_lt_one hc1⟩

theorem fractionsBelowOne_of_crossedInHour (h : CrossedInHour range m.speed) :
    m.FractionsBelowOne range := by
  obtain ⟨lo, hi, v, hlo, hhi, hlobound, hhibound, hv, hslow, hcross⟩ := h
  intro p x travel elapsed hp hx htravel hlt
  obtain ⟨a, ha, hloa, hahi, habound⟩ := represents_of_contains hlo hhi hlobound hhibound hp
  obtain ⟨b, hb, hlob, hbhi, hbbound⟩ := represents_of_contains hlo hhi hlobound hhibound hx
  have hway : |b - a| ≤ 3600 * v := abs_le.mpr ⟨by linarith, by linarith⟩
  have hv0 : 0 < v := by linarith
  unfold travelTime at htravel
  split at htravel
  · cases htravel
    exact absurd hlt (Nat.not_lt_zero elapsed)
  · obtain ⟨d, hd, hdround, hdbound⟩ :=
      distance_within (by decide : 100 ≤ 900) (by linarith) hbbound ha hb
    have htime : |d| / v ≤ 2 ^ 200 := by
      rw [div_le_iff₀ hv0]
      linarith
    have htime0 : 0 ≤ |d| / v := by positivity
    obtain ⟨q, hq, hqround⟩ :=
      hd.abs.div hv hv0.ne' ⟨200, by norm_num, by rwa [abs_of_nonneg htime0]⟩
    have hspan := span_le htravel hq (hqround.nonneg htime0)
    obtain ⟨c, hc, -, hbelow⟩ := part_lt hlt (travel_le hslow hway hdround hqround hspan)
    refine (hc.lt_iff represents_one).mpr (hbelow.trans_lt ?_)
    norm_num

end Motor
end Beamline
