/-!
Decimal texts read as binary64 numbers, correctly rounded: an optional sign, digits with an
optional point among them, and an optional exponent.
-/

namespace Beamline.Decimal

def isDigit (c : Char) : Bool := '0' ≤ c && c ≤ '9'

/-- The value of a digit, up to the fifteen of hexadecimal notation. -/
def digitOf (c : Char) : Option Nat :=
  if isDigit c then some (c.toNat - '0'.toNat)
  else if 'a' ≤ c ∧ c ≤ 'f' then some (c.toNat - 'a'.toNat + 10)
  else if 'A' ≤ c ∧ c ≤ 'F' then some (c.toNat - 'A'.toNat + 10)
  else none

/-- The value of a run of decimal digits. -/
def digitsValue (cs : List Char) : Nat :=
  cs.foldl (fun n c => 10 * n + (c.toNat - '0'.toNat)) 0

/-- A sign in front, and whether it was a minus. -/
def takeSign : List Char → Bool × List Char
  | '-' :: cs => (true, cs)
  | '+' :: cs => (false, cs)
  | cs => (false, cs)

def digits? (cs : List Char) : Option Nat :=
  if cs ≠ [] ∧ cs.all isDigit then some (digitsValue cs) else none

def exponent? : List Char → Option Int
  | [] => some 0
  | c :: cs =>
    if c = 'e' ∨ c = 'E' then
      let (negative, rest) := takeSign cs
      (digits? rest).map fun n => if negative then -(n : Int) else n
    else none

/-- The number nearest to `m * 10 ^ e`. Beyond the range of binary64 the exponent is not
computed with: the answer is infinity or zero. -/
def nearest (m : Nat) (e : Int) : Float :=
  let size : Int := (Nat.toDigits 10 m).length + e
  if m = 0 ∨ size < -400 then 0
  else if 400 < size then Float.ofBits 0x7ff0000000000000
  else Float.ofScientific m (decide (e < 0)) e.natAbs

def negateIf (negative : Bool) (x : Float) : Float := if negative then -x else x

/-- A decimal text without its sign. -/
def unsigned? (cs : List Char) : Option Float := do
  let whole := cs.takeWhile isDigit
  let rest := cs.dropWhile isDigit
  let (fraction, tail) := match rest with
    | '.' :: r => (r.takeWhile isDigit, r.dropWhile isDigit)
    | r => ([], r)
  if whole.isEmpty && fraction.isEmpty then none
  let e ← exponent? tail
  return nearest (digitsValue (whole ++ fraction)) (e - fraction.length)

/-- A decimal text, or one of the words for what is not finite, in letters of either case. -/
def read? (s : String) : Option Float :=
  let (negative, cs) := takeSign s.toList
  match String.ofList (cs.map Char.toLower) with
  | "inf" => some (negateIf negative (Float.ofBits 0x7ff0000000000000))
  | "infinity" => some (negateIf negative (Float.ofBits 0x7ff0000000000000))
  | "nan" => some (Float.ofBits 0x7ff8000000000000)
  | _ => (unsigned? cs).map (negateIf negative)

end Beamline.Decimal
