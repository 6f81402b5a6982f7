import Beamline.Decimal.Reading

/-!
TOML strings, on one line or on several, with escapes or without. A reader gets what follows the
opening quotes and answers the text and what follows the closing ones.
-/

namespace Beamline.Toml

/-- What may stand in a string or a comment as it is: all but controls, the tab excepted. -/
def isPlain (c : Char) : Bool := c == '\t' || (0x20 ≤ c.toNat && c.toNat != 0x7f)

/-- The character with this code point in hexadecimal digits, if there is one. -/
def scalarOfHex? (cs : List Char) : Option Char := do
  let code ← cs.foldlM (fun n c => (Decimal.digitOf c).map (16 * n + ·)) 0
  if code.isValidChar then some (Char.ofNat code) else none

/-- The character that a letter behind a backslash stands for. -/
def escape? : Char → Option Char
  | 'b' => some '\x08'
  | 't' => some '\t'
  | 'n' => some '\n'
  | 'f' => some '\x0c'
  | 'r' => some '\r'
  | '"' => some '"'
  | '\\' => some '\\'
  | _ => none

abbrev Rest := List Char × List Char

def Rest.cons (c : Char) (r : Rest) : Rest := (c :: r.1, r.2)

/-- A string with escapes, on one line. -/
def basic? : List Char → Option Rest
  | [] => none
  | '"' :: cs => some ([], cs)
  | '\\' :: 'u' :: a :: b :: c :: d :: cs => do
    let x ← scalarOfHex? [a, b, c, d]
    (basic? cs).map (Rest.cons x)
  | '\\' :: 'U' :: a :: b :: c :: d :: e :: f :: g :: h :: cs => do
    let x ← scalarOfHex? [a, b, c, d, e, f, g, h]
    (basic? cs).map (Rest.cons x)
  | '\\' :: c :: cs => do
    let x ← escape? c
    (basic? cs).map (Rest.cons x)
  | c :: cs => if isPlain c && c != '\\' then (basic? cs).map (Rest.cons c) else none

/-- A string without escapes, on one line. -/
def literal? : List Char → Option Rest
  | [] => none
  | '\'' :: cs => some ([], cs)
  | c :: cs => if isPlain c then (literal? cs).map (Rest.cons c) else none

/-- Where a reader of several lines is: in the text, behind a backslash that must end its line,
or in the blanks at the start of the lines that follow. -/
inductive Place where
  | inside
  | lineEnd
  | indent
  deriving DecidableEq, Repr

/-- Five quotes are two of the text and the three that close it. -/
def basicLines? : Place → List Char → Option Rest
  | _, [] => none
  | .lineEnd, '\r' :: '\n' :: cs => basicLines? .indent cs
  | .lineEnd, c :: cs =>
    if c = '\n' then basicLines? .indent cs
    else if c = ' ' ∨ c = '\t' then basicLines? .lineEnd cs
    else none
  | .indent, ' ' :: cs => basicLines? .indent cs
  | .indent, '\t' :: cs => basicLines? .indent cs
  | .indent, '\n' :: cs => basicLines? .indent cs
  | .indent, '\r' :: '\n' :: cs => basicLines? .indent cs
  | _, '"' :: '"' :: '"' :: '"' :: '"' :: cs => some (['"', '"'], cs)
  | _, '"' :: '"' :: '"' :: '"' :: cs => some (['"'], cs)
  | _, '"' :: '"' :: '"' :: cs => some ([], cs)
  | _, '\r' :: '\n' :: cs => (basicLines? .inside cs).map (Rest.cons '\n')
  | _, '\n' :: cs => (basicLines? .inside cs).map (Rest.cons '\n')
  | _, '\\' :: 'u' :: a :: b :: c :: d :: cs => do
    let x ← scalarOfHex? [a, b, c, d]
    (basicLines? .inside cs).map (Rest.cons x)
  | _, '\\' :: 'U' :: a :: b :: c :: d :: e :: f :: g :: h :: cs => do
    let x ← scalarOfHex? [a, b, c, d, e, f, g, h]
    (basicLines? .inside cs).map (Rest.cons x)
  | _, '\\' :: c :: cs =>
    match escape? c with
    | some x => (basicLines? .inside cs).map (Rest.cons x)
    | none =>
      if c = '\n' then basicLines? .indent cs
      else if c = ' ' ∨ c = '\t' ∨ c = '\r' then basicLines? .lineEnd (c :: cs)
      else none
  | _, c :: cs => if isPlain c && c != '\\' then (basicLines? .inside cs).map (Rest.cons c) else none

def literalLines? : List Char → Option Rest
  | [] => none
  | '\'' :: '\'' :: '\'' :: '\'' :: '\'' :: cs => some (['\'', '\''], cs)
  | '\'' :: '\'' :: '\'' :: '\'' :: cs => some (['\''], cs)
  | '\'' :: '\'' :: '\'' :: cs => some ([], cs)
  | '\r' :: '\n' :: cs => (literalLines? cs).map (Rest.cons '\n')
  | '\n' :: cs => (literalLines? cs).map (Rest.cons '\n')
  | c :: cs => if isPlain c then (literalLines? cs).map (Rest.cons c) else none

/-- A line break right behind the opening quotes is not part of the text. -/
def skipFirstBreak : List Char → List Char
  | '\n' :: cs => cs
  | '\r' :: '\n' :: cs => cs
  | cs => cs

end Beamline.Toml
