import CallTrace.Text.Numeral
import CallTrace.Text.Printable

/-!
# Escaped texts

A text as it is quoted inside a message: between double quotes, with the double quote and the
backslash behind a backslash, the common controls by their letters, and every other character
that is not printable by its code point in hexadecimal between braces.
-/

namespace CallTrace.Text

/-- One character inside a quoted text. -/
def escapeChar (c : Char) : List Char :=
  match c with
  | '"' => ['\\', '"']
  | '\\' => ['\\', '\\']
  | '\n' => ['\\', 'n']
  | '\r' => ['\\', 'r']
  | '\t' => ['\\', 't']
  | '\x00' => ['\\', '0']
  | _ =>
    if isPrintable c then [c]
    else ['\\', 'u', '\x7b'] ++ Numeral.write 16 c.toNat ++ ['\x7d']

/-- The quoted form of a text. -/
def quoted (text : String) : String :=
  String.ofList ('"' :: text.toList.flatMap escapeChar ++ ['"'])

end CallTrace.Text
