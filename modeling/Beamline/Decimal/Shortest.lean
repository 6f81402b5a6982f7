import Beamline.Decimal.Binary

/-!
The fewest decimal digits that read back to the same binary64 number. A number owns every real
that lies no further from it than half the way to either neighbour, the ends included when its
mantissa is even. Of the shortest decimals inside this interval the nearest is taken; which of two
equally near ones is up to the format.
-/

namespace Beamline.Decimal

/-- The number `value * 10 ^ exponent`. -/
structure Digits where
  value : Nat
  exponent : Int
  deriving DecidableEq, Repr

/-- Decimal places of `n` in front of the point; none for zero. -/
def placeCount (n : Nat) : Nat := if n = 0 then 0 else (Nat.toDigits 10 n).length

/-- The least `p` with `m * 2 ^ e < 10 ^ p`. A fraction is scaled by so many tens that nothing
behind the point is left. -/
def Parts.magnitude (p : Parts) : Int :=
  let scale := (-p.exponent).toNat
  let whole := p.mantissa * twoTo p.exponent.toNat * tenTo scale / twoTo scale
  (placeCount whole : Int) - scale

/-- The two sides of the comparison of `x * 2 ^ e` with `d * 10 ^ q`, without fractions. -/
def crossed (x : Nat) (e : Int) (d : Nat) (q : Int) : Nat × Nat :=
  (x * twoTo e.toNat * tenTo (-q).toNat, d * tenTo q.toNat * twoTo (-e).toNat)

/-- The ends of a number's interval and the number itself, in quarters of its last place. Below
a power of two the neighbour is only half as far. -/
def Parts.quarters (p : Parts) : Nat × Nat × Nat :=
  let m := 4 * p.mantissa
  (if p.mantissa = twoTo 52 ∧ -1074 < p.exponent then m - 1 else m - 2, m, m + 2)

/-- Whether `d * 10 ^ q` reads back to the number. -/
def Parts.owns (p : Parts) (d : Nat) (q : Int) : Bool :=
  let (low, _, high) := p.quarters
  let (a, b) := crossed low (p.exponent - 2) d q
  let (c, b') := crossed high (p.exponent - 2) d q
  if p.mantissa % 2 = 0 then a ≤ b && b' ≤ c else a < b && b' < c

/-- Of two equally near decimals, the greater one or the one with an even last digit is taken. -/
inductive Tie where
  | greater
  | even
  deriving DecidableEq, Repr

/-- Whether `d` and not `d + 1` is taken for `d` and the part `rest / den` of one. -/
def Tie.keeps (tie : Tie) (d rest den : Nat) : Bool :=
  decide (2 * rest < den) || (tie == .even && 2 * rest == den && d % 2 == 0)

/-- The better of the number's two neighbours on the grid of multiples of `10 ^ q`. -/
def Parts.onGrid (p : Parts) (tie : Tie) (q : Int) : Option Digits :=
  let (num, den) := crossed p.mantissa p.exponent 1 q
  let d := num / den
  match p.owns d q && decide (0 < d), p.owns (d + 1) q with
  | true, true => if tie.keeps d (num % den) den then some ⟨d, q⟩ else some ⟨d + 1, q⟩
  | true, false => some ⟨d, q⟩
  | false, true => some ⟨d + 1, q⟩
  | false, false => none

/-- Drop the zeros at the end of the digits, at most `fuel` of them. -/
def Digits.trimmed : Nat → Digits → Digits
  | 0, d => d
  | fuel + 1, d =>
    if d.value % 10 = 0 ∧ d.value ≠ 0 then trimmed fuel ⟨d.value / 10, d.exponent + 1⟩ else d

/-- Coarser grids are tried first; seventeen digits always tell neighbours apart. -/
def Parts.shortest (p : Parts) (tie : Tie) : Digits :=
  if p.mantissa = 0 then ⟨0, 0⟩
  else
    let grids := (List.range 17).map fun n : Nat => p.magnitude - ((n : Int) + 1)
    ((grids.findSome? (p.onGrid tie)).getD ⟨0, 0⟩).trimmed 18

end Beamline.Decimal
