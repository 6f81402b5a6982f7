import Beamline.Decimal.Reading
import Beamline.Powers
import Beamline.Toml.Basic

/-!
TOML values that are one word: truth values, integers in four bases, floats, dates and times.
Underscores may stand between digits. An integer must fit into 64 bits, and a float may not be
too large to be finite.
-/

namespace Beamline.Toml

def isDigitIn (base : Nat) (c : Char) : Bool :=
  match Decimal.digitOf c with
  | some d => d < base
  | none => false

/-- Digits of a base without the underscores among them. -/
def ungrouped? (base : Nat) : List Char → Option (List Char)
  | [] => none
  | [c] => if isDigitIn base c then some [c] else none
  | c :: '_' :: cs => if isDigitIn base c then (ungrouped? base cs).map (c :: ·) else none
  | c :: cs => if isDigitIn base c then (ungrouped? base cs).map (c :: ·) else none

/-- The value of digits in a base. -/
def valueIn (base : Nat) (cs : List Char) : Nat :=
  cs.foldl (fun n c => base * n + (Decimal.digitOf c).getD 0) 0

def bounded (n : Int) : Option Toml :=
  if -(twoTo 63 : Int) ≤ n ∧ n < twoTo 63 then some (.integer n) else none

/-- Decimal digits without a zero in front of others. -/
def whole? (cs : List Char) : Option (List Char) :=
  match cs with
  | '0' :: _ :: _ => none
  | cs => ungrouped? 10 cs

def integer? : List Char → Option Toml
  | '0' :: 'x' :: cs => (ungrouped? 16 cs).bind fun ds => bounded (valueIn 16 ds)
  | '0' :: 'o' :: cs => (ungrouped? 8 cs).bind fun ds => bounded (valueIn 8 ds)
  | '0' :: 'b' :: cs => (ungrouped? 2 cs).bind fun ds => bounded (valueIn 2 ds)
  | cs =>
    let (negative, digits) := Decimal.takeSign cs
    (whole? digits).bind fun ds =>
      let n : Int := valueIn 10 ds
      bounded (if negative then -n else n)

def isGrouped (c : Char) : Bool := Decimal.isDigit c || c == '_'

/-- The digits behind a point, none if there is no point. -/
def fraction? : List Char → Option (List Char × List Char)
  | '.' :: cs => (ungrouped? 10 (cs.takeWhile isGrouped)).map fun ds => (ds, cs.dropWhile isGrouped)
  | cs => some ([], cs)

def exponent? : List Char → Option Int
  | [] => some 0
  | c :: cs =>
    if c = 'e' ∨ c = 'E' then
      let (negative, digits) := Decimal.takeSign cs
      (ungrouped? 10 digits).map fun ds =>
        let n : Int := valueIn 10 ds
        if negative then -n else n
    else none

/-- A float shows that it is one by a point or an exponent, or is one of two words. -/
def float? (cs : List Char) : Option Toml := do
  let (negative, cs) := Decimal.takeSign cs
  match String.ofList cs with
  | "inf" => return .float (Decimal.negateIf negative (Float.ofBits 0x7ff0000000000000))
  | "nan" => return .float (Float.ofBits 0x7ff8000000000000)
  | _ =>
    let rest := cs.dropWhile isGrouped
    if rest.isEmpty then none
    let ds ← whole? (cs.takeWhile isGrouped)
    let (fs, tail) ← fraction? rest
    let e ← exponent? tail
    let x := Decimal.negateIf negative
      (Decimal.nearest (valueIn 10 (ds ++ fs)) (e - fs.length))
    if x.isInf && !negative then none
    return .float x

/-! ## Dates and times -/

/-- The first `count` characters, if all of them are digits, and what follows. -/
def takeDigits? (count : Nat) (cs : List Char) : Option (List Char × List Char) :=
  let ds := cs.take count
  if ds.length = count ∧ ds.all Decimal.isDigit then some (ds, cs.drop count) else none

def takeChar? (c : Char) : List Char → Option (List Char)
  | d :: cs => if c = d then some cs else none
  | [] => none

/-- The digits of three numbers with a mark between them. The first has `count` digits, the others
two. -/
def takeTriple? (mark : Char) (count : Nat) (cs : List Char) :
    Option ((List Char × List Char × List Char) × List Char) := do
  let (a, cs) ← takeDigits? count cs
  let (b, cs) ← takeDigits? 2 (← takeChar? mark cs)
  let (c, cs) ← takeDigits? 2 (← takeChar? mark cs)
  return ((a, b, c), cs)

def daysIn (year month : Nat) : Nat :=
  if month = 2 then
    if year % 4 = 0 ∧ (year % 100 ≠ 0 ∨ year % 400 = 0) then 29 else 28
  else if month = 4 ∨ month = 6 ∨ month = 9 ∨ month = 11 then 30
  else 31

/-- A date as it is written, and what follows it. -/
def takeDate? (cs : List Char) : Option (List Char × List Char) := do
  let ((y, m, d), rest) ← takeTriple? '-' 4 cs
  let year := valueIn 10 y
  let month := valueIn 10 m
  let day := valueIn 10 d
  if 1 ≤ month ∧ month ≤ 12 ∧ 1 ≤ day ∧ day ≤ daysIn year month then
    return (y ++ '-' :: m ++ '-' :: d, rest)
  none

/-- The digits of a fraction with its point, up to the ninth and without zeros at the end. -/
def trimFraction (ds : List Char) : List Char :=
  let kept := ((ds.take 9).reverse.dropWhile (· == '0')).reverse
  if kept.isEmpty then [] else '.' :: kept

/-- A time of day, its fraction trimmed, and what follows it. A minute may have a leap second. -/
def takeTime? (cs : List Char) : Option (List Char × List Char) := do
  let ((h, m, s), rest) ← takeTriple? ':' 2 cs
  if valueIn 10 h ≤ 23 ∧ valueIn 10 m ≤ 59 ∧ valueIn 10 s ≤ 60 then
    let time := h ++ ':' :: m ++ ':' :: s
    match rest with
    | '.' :: rest =>
      let ds := rest.takeWhile Decimal.isDigit
      if ds.isEmpty then none
      return (time ++ trimFraction ds, rest.dropWhile Decimal.isDigit)
    | rest => return (time, rest)
  none

/-- A distance from universal time, or nothing. A distance of zero is not negative. -/
def offset? (cs : List Char) : Option (List Char) :=
  match cs with
  | [] => some []
  | ['Z'] => some ['Z']
  | ['z'] => some ['Z']
  | sign :: cs => do
    let (h, cs) ← takeDigits? 2 cs
    let (m, rest) ← takeDigits? 2 (← takeChar? ':' cs)
    let hours := valueIn 10 h
    let minutes := valueIn 10 m
    if (sign = '+' ∨ sign = '-') ∧ hours ≤ 23 ∧ minutes ≤ 59 ∧ rest = [] then
      return (if hours = 0 ∧ minutes = 0 then '+' else sign) :: h ++ ':' :: m
    none

/-- A date, a time of day, or both with a letter or a blank between them, in the one form that
all spellings of a moment share. -/
def moment? (cs : List Char) : Option (List Char) :=
  match takeDate? cs with
  | none =>
    match takeTime? cs with
    | some (time, []) => some time
    | _ => none
  | some (date, []) => some date
  | some (date, c :: rest) => do
    if c = 'T' ∨ c = 't' ∨ c = ' ' then
      let (time, tail) ← takeTime? rest
      return date ++ 'T' :: time ++ (← offset? tail)
    none

/-- The value of a word. -/
def scalar? (cs : List Char) : Option Toml :=
  match String.ofList cs with
  | "true" => some (.boolean true)
  | "false" => some (.boolean false)
  | _ =>
    ((integer? cs).or (float? cs)).or ((moment? cs).map fun m => .moment (String.ofList m))

end Beamline.Toml
