import Beamline.Text.Marks

/-!
Quoted texts as they stand in messages: a quote and a backslash are written after a backslash,
the usual blanks by a letter, and what cannot be seen by its code point in braces.
-/

namespace Beamline.Text

/-- The code point in braces: `1` for the first control, `301` for the acute accent. -/
def codePoint (c : Char) : List Char :=
  '\\' :: 'u' :: '\x7b' :: Nat.toDigits 16 c.toNat ++ ['\x7d']

def quotedChar (c : Char) : List Char :=
  match c with
  | '"' => ['\\', '"']
  | '\\' => ['\\', '\\']
  | '\t' => ['\\', 't']
  | '\r' => ['\\', 'r']
  | '\n' => ['\\', 'n']
  | '\x00' => ['\\', '0']
  | c => if isVisible c then [c] else codePoint c

def quoted (s : String) : String :=
  String.ofList ('"' :: s.toList.flatMap quotedChar ++ ['"'])

/-- A list of names in brackets, each of them quoted. -/
def quotedList (names : List String) : String :=
  "[" ++ String.intercalate ", " (names.map quoted) ++ "]"

end Beamline.Text
