import Beamline.Powers

/-!
Binary64 numbers taken apart: a finite one is a sign and the dyadic fraction
`mantissa * 2 ^ exponent`. Exact decimal texts and roundings start from here, in natural numbers.
-/

namespace Beamline.Decimal

/-- The magnitude of a finite number is `mantissa * 2 ^ exponent`. -/
structure Parts where
  negative : Bool
  mantissa : Nat
  exponent : Int
  deriving DecidableEq, Repr

inductive Binary where
  | nan
  | infinite (negative : Bool)
  | finite (parts : Parts)
  deriving DecidableEq, Repr

/-- Subnormal numbers share the least exponent and have no hidden bit. -/
def Binary.ofFloat (x : Float) : Binary :=
  let bits := x.toBits.toNat
  let negative := decide (twoTo 63 ≤ bits)
  let exponent : Nat := bits / twoTo 52 % twoTo 11
  let fraction : Nat := bits % twoTo 52
  if exponent = 2047 then
    if fraction = 0 then .infinite negative else .nan
  else if exponent = 0 then .finite ⟨negative, fraction, -1074⟩
  else .finite ⟨negative, fraction + twoTo 52, (exponent : Int) - 1075⟩

/-- `num / den` to the nearest whole number, a half to the even neighbour. -/
def roundHalfEven (num den : Nat) : Nat :=
  let q := num / den
  let twice := 2 * (num % den)
  if twice < den then q
  else if den < twice then q + 1
  else if q % 2 = 0 then q else q + 1

/-- The magnitude times `scale`, to the nearest whole number, a half to the even neighbour. -/
def Parts.scaled (p : Parts) (scale : Nat) : Nat :=
  if 0 ≤ p.exponent then p.mantissa * twoTo p.exponent.toNat * scale
  else roundHalfEven (p.mantissa * scale) (twoTo (-p.exponent).toNat)

theorem roundHalfEven_near (num den : Nat) (h : 0 < den) :
    2 * (roundHalfEven num den * den) ≤ 2 * num + den ∧
      2 * num ≤ 2 * (roundHalfEven num den * den) + den := by
  have hd := Nat.div_add_mod num den
  have hm := Nat.mod_lt num h
  have hc : den * (num / den) = num / den * den := Nat.mul_comm ..
  have hs : (num / den + 1) * den = num / den * den + den := Nat.succ_mul ..
  simp only [roundHalfEven]
  split
  · omega
  · split
    · omega
    · split <;> omega

end Beamline.Decimal
