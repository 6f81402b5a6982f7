import Beamline.Toml.Quotes
import Beamline.Toml.Scalar

/-!
TOML documents. A reader takes what it needs from the front of the text and answers what is left;
it fails on anything that is not TOML, and no reason is kept. Values nest only so deep, which is
also what their reader recurs on. Loops over lines and items run at most once per character.
-/

namespace Beamline.Toml

abbrev Reader (β : Type) := List Char → Option (β × List Char)

def isBlank (c : Char) : Bool := c == ' ' || c == '\t'

def skipBlanks (cs : List Char) : List Char := cs.dropWhile isBlank

/-- The end of a line, behind blanks and a comment. -/
def lineEnd? (cs : List Char) : Option (List Char) :=
  let rest := match skipBlanks cs with
    | '#' :: r => r.dropWhile isPlain
    | r => r
  match rest with
  | [] => some []
  | '\n' :: r => some r
  | '\r' :: '\n' :: r => some r
  | _ => none

/-- Blanks, comments and line breaks, in at most so many lines. -/
def skipLines : Nat → List Char → Option (List Char)
  | 0, cs => some cs
  | fuel + 1, cs =>
    match skipBlanks cs with
    | '#' :: r =>
      match r.dropWhile isPlain with
      | '\n' :: r => skipLines fuel r
      | '\r' :: '\n' :: r => skipLines fuel r
      | _ => none
    | '\n' :: r => skipLines fuel r
    | '\r' :: '\n' :: r => skipLines fuel r
    | r => some r

/-! ## Keys -/

def isBare (c : Char) : Bool :=
  ('a' ≤ c && c ≤ 'z') || ('A' ≤ c && c ≤ 'Z') || ('0' ≤ c && c ≤ '9') || c == '_' || c == '-'

def simpleKey : Reader String
  | '"' :: cs => (basic? cs).map fun r => (String.ofList r.1, r.2)
  | '\'' :: cs => (literal? cs).map fun r => (String.ofList r.1, r.2)
  | cs =>
    let word := cs.takeWhile isBare
    if word.isEmpty then none else some (String.ofList word, cs.dropWhile isBare)

/-- Keys with dots between them, at most so many. -/
def keyPath : Nat → Reader (List String)
  | 0, _ => none
  | fuel + 1, cs => do
    let (key, cs) ← simpleKey (skipBlanks cs)
    match skipBlanks cs with
    | '.' :: rest =>
      let (keys, rest) ← keyPath fuel rest
      return (key :: keys, rest)
    | rest => return ([key], rest)

/-- The parts that a key may have, and the levels that values may nest. -/
def nesting : Nat := 79

/-! ## Values -/

def isWordChar (c : Char) : Bool := isBare c || c == '+' || c == '.' || c == ':'

/-- A value that is one word, or a date and a time with a blank between them. -/
def word : Reader Toml := fun cs =>
  let first := cs.takeWhile isWordChar
  let rest := cs.dropWhile isWordChar
  match takeDate? first, rest with
  | some (_, []), ' ' :: d :: more =>
    if Decimal.isDigit d then
      let second := (d :: more).takeWhile isWordChar
      (scalar? (first ++ ' ' :: second)).map fun v => (v, (d :: more).dropWhile isWordChar)
    else (scalar? first).map fun v => (v, rest)
  | _, _ => (scalar? first).map fun v => (v, rest)

/-- The rest of a list behind its opening bracket or a comma. -/
def items (item : Reader Toml) : Nat → Reader (List Toml)
  | 0, _ => none
  | fuel + 1, cs => do
    match ← skipLines cs.length cs with
    | ']' :: rest => return ([], rest)
    | cs =>
      let (v, cs) ← item cs
      match ← skipLines cs.length cs with
      | ',' :: rest =>
        let (vs, rest) ← items item fuel rest
        return (v :: vs, rest)
      | ']' :: rest => return ([v], rest)
      | _ => none

/-- A key, a value, and blanks around both. -/
def pair (item : Reader Toml) : Reader (List String × Toml) := fun cs => do
  let (path, cs) ← keyPath nesting cs
  match skipBlanks cs with
  | '=' :: cs =>
    let (v, cs) ← item (skipBlanks cs)
    return ((path, v), skipBlanks cs)
  | _ => none

/-- Give a value to a dotted key. -/
def assign (path : List String) (v : Toml) (es : Entries) : Option Entries :=
  match path.getLast? with
  | some key => es.insert path.dropLast key v
  | none => none

/-- The rest of a table between braces, added to what it has. -/
def pairs (item : Reader Toml) : Nat → Entries → Reader Entries
  | 0, _, _ => none
  | fuel + 1, es, cs => do
    let ((path, v), cs) ← pair item cs
    let es ← assign path v es
    match cs with
    | ',' :: rest => pairs item fuel es rest
    | '\x7d' :: rest => return (es, rest)
    | _ => none

/-- A string in any of its four forms. -/
def string : Reader Toml
  | '"' :: '"' :: '"' :: cs =>
    (basicLines? .inside (skipFirstBreak cs)).map fun r => (.text (String.ofList r.1), r.2)
  | '"' :: cs => (basic? cs).map fun r => (.text (String.ofList r.1), r.2)
  | '\'' :: '\'' :: '\'' :: cs =>
    (literalLines? (skipFirstBreak cs)).map fun r => (.text (String.ofList r.1), r.2)
  | '\'' :: cs => (literal? cs).map fun r => (.text (String.ofList r.1), r.2)
  | _ => none

def value : (depth : Nat) → Reader Toml
  | _, '"' :: cs => string ('"' :: cs)
  | _, '\'' :: cs => string ('\'' :: cs)
  | 0, '[' :: _ => none
  | 0, '\x7b' :: _ => none
  | depth + 1, '[' :: cs =>
    (items (value depth) (cs.length + 1) cs).map fun r => (.list false r.1, r.2)
  | depth + 1, '\x7b' :: cs =>
    match skipBlanks cs with
    | '\x7d' :: rest => some (.table .braces [], rest)
    | cs => (pairs (value depth) (cs.length + 1) [] cs).map fun r => (.table .braces r.1, r.2)
  | _, cs => word cs

/-! ## Documents -/

/-- The tables so far, and the path of the header that keys now belong to. -/
structure Progress where
  path : List String
  entries : Entries

/-- A header, between single or double brackets. -/
def header (isItem : Bool) (p : Progress) (cs : List Char) : Option (Progress × List Char) := do
  let (path, cs) ← keyPath nesting cs
  let cs ← match isItem, cs with
    | true, ']' :: ']' :: rest => some rest
    | false, ']' :: rest => some rest
    | _, _ => none
  let rest ← lineEnd? cs
  let key ← path.getLast?
  let entries ← p.entries.modifyAt path.dropLast
    (if isItem then Entries.openItem key else Entries.openTable key)
  return (⟨path, entries⟩, rest)

/-- One line of a document. -/
def line (p : Progress) (cs : List Char) : Option (Progress × List Char) :=
  match skipBlanks cs with
  | '[' :: '[' :: rest => header true p rest
  | '[' :: rest => header false p rest
  | '#' :: rest => (lineEnd? ('#' :: rest)).map fun rest => (p, rest)
  | '\n' :: rest => some (p, rest)
  | '\r' :: '\n' :: rest => some (p, rest)
  | [] => some (p, [])
  | cs => do
    let ((path, v), cs) ← pair (value nesting) cs
    let rest ← lineEnd? cs
    let entries ← p.entries.modifyAt p.path (assign path v)
    return (⟨p.path, entries⟩, rest)

def lines : Nat → Progress → List Char → Option Entries
  | _, p, [] => some p.entries
  | 0, _, _ => none
  | fuel + 1, p, cs => do
    let (p, rest) ← line p cs
    lines fuel p rest

/-- Read a document. A mark of byte order in front is not part of it. -/
def read? (s : String) : Option Toml :=
  let cs := match s.toList with
    | '\ufeff' :: cs => cs
    | cs => cs
  (lines (cs.length + 1) ⟨[], []⟩ cs).map (.table .header)

end Beamline.Toml
