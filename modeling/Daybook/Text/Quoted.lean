import Daybook.Text.Hidden

/-!
One character between single quotes, as error texts show it: the usual escapes for NUL, tab, line
feed, carriage return, the quote and the backslash, the code point in lower-case hexadecimal for a
hidden character, and every other character as it is.
-/

namespace Daybook.Text

/-- The code point in lower-case hexadecimal without leading zeros. -/
def hexChars (n : Nat) : List Char :=
  Nat.toDigits 16 n

/-- What stands between the quotes. -/
def escaped (c : Char) : List Char :=
  match c with
  | '\x00' => ['\\', '0']
  | '\t' => ['\\', 't']
  | '\n' => ['\\', 'n']
  | '\r' => ['\\', 'r']
  | '\'' => ['\\', '\'']
  | '\\' => ['\\', '\\']
  | c => if isHidden c then '\\' :: 'u' :: '{' :: hexChars c.toNat ++ ['}'] else [c]

/-- The character in single quotes. -/
def quoted (c : Char) : String :=
  String.ofList ('\'' :: escaped c ++ ['\''])

end Daybook.Text
