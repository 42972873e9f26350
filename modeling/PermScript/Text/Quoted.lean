/-
Texts in double quotes, as error messages show them: everything a reader
could not see is written by name or by number.
-/
import PermScript.Text.Graphic

namespace PermScript.Text

/-- The digits of a code point, in lower-case hexadecimal. -/
def hexDigits (n : Nat) : List Char := Nat.toDigits 16 n

/-- How one character stands between the quotes. -/
def quoteChar (c : Char) : List Char :=
  match c with
  | '\x00' => ['\\', '0']
  | '\t' => ['\\', 't']
  | '\r' => ['\\', 'r']
  | '\n' => ['\\', 'n']
  | '"' => ['\\', '"']
  | '\\' => ['\\', '\\']
  | c => if invisible.contains c then ['\\', 'u', '\x7b'] ++ hexDigits c.toNat ++ ['\x7d'] else [c]

/-- `s` in double quotes. -/
def quoted (s : String) : String :=
  String.ofList ('"' :: s.toList.flatMap quoteChar ++ ['"'])

end PermScript.Text
