import Beamline.Decimal.Shortest

/-!
How numbers are written: with the fewest digits and no exponent, with a fixed count of places,
or as a number of a JSON document, which turns to an exponent far from one.
-/

namespace Beamline.Decimal

def digitText (n : Nat) : String := String.ofList (Nat.toDigits 10 n)

def zeros (n : Nat) : String := String.ofList (List.replicate n '0')

def signed (negative : Bool) (text : String) : String := if negative then "-" ++ text else text

/-- Every digit in its place: zeros fill the way to the point, none follow the last digit. -/
def Digits.positional (d : Digits) : String :=
  let digits := digitText d.value
  if 0 ≤ d.exponent then
    if d.value = 0 then "0" else digits ++ zeros d.exponent.toNat
  else
    let places := (-d.exponent).toNat
    if digits.length ≤ places then "0." ++ zeros (places - digits.length) ++ digits
    else
      let whole := digits.length - places
      (digits.take whole).toString ++ "." ++ (digits.drop whole).toString

/-- The digits of `n` with a point before the last `places` of them. -/
def pointed (n places : Nat) : String :=
  let whole := digitText (n / tenTo places)
  if places = 0 then whole
  else
    let rest := digitText (n % tenTo places)
    whole ++ "." ++ zeros (places - rest.length) ++ rest

/-- Shortest text, never with an exponent: `2`, `0.1`, `-0`, `NaN`, `inf`. -/
def plain (x : Float) : String :=
  match Binary.ofFloat x with
  | .nan => "NaN"
  | .infinite negative => signed negative "inf"
  | .finite p => signed p.negative (p.shortest .greater).positional

/-- Text with `places` digits after the point, rounded from the exact value. -/
def fixed (places : Nat) (x : Float) : String :=
  match Binary.ofFloat x with
  | .nan => "NaN"
  | .infinite negative => signed negative "inf"
  | .finite p => signed p.negative (pointed (p.scaled (tenTo places)) places)

/-- A JSON number always shows that it is no integer: by a point between `10 ^ (-5)` and
`10 ^ 16`, by an exponent with its sign elsewhere. -/
def Digits.json (d : Digits) : String :=
  let digits := digitText d.value
  let point := (digits.length : Int) + d.exponent
  if d.value = 0 then "0.0"
  else if 0 ≤ d.exponent ∧ point ≤ 16 then d.positional ++ ".0"
  else if -5 < point ∧ point ≤ 16 then d.positional
  else
    let mark := (if 0 < point then "e+" else "e") ++ toString (point - 1)
    if digits.length = 1 then digits ++ mark
    else (digits.take 1).toString ++ "." ++ (digits.drop 1).toString ++ mark

/-- JSON has no text for what is not finite. -/
def json? (x : Float) : Option String :=
  match Binary.ofFloat x with
  | .finite p => some (signed p.negative (p.shortest .even).json)
  | _ => none

end Beamline.Decimal
