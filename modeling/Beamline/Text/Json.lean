/-!
Texts of a JSON document: what JSON cannot hold as it is stands after a backslash, controls
without a letter of their own as four hexadecimal digits.
-/

namespace Beamline.Text

def hexDigit (n : Nat) : Char := (Nat.toDigits 16 (n % 16)).headD '0'

def jsonChar (c : Char) : List Char :=
  match c with
  | '"' => ['\\', '"']
  | '\\' => ['\\', '\\']
  | '\x08' => ['\\', 'b']
  | '\x0c' => ['\\', 'f']
  | '\n' => ['\\', 'n']
  | '\r' => ['\\', 'r']
  | '\t' => ['\\', 't']
  | c =>
    if c.toNat < 0x20 then
      ['\\', 'u', '0', '0', hexDigit (c.toNat / 16), hexDigit c.toNat]
    else [c]

def jsonQuoted (s : String) : String :=
  String.ofList ('"' :: s.toList.flatMap jsonChar ++ ['"'])

end Beamline.Text
