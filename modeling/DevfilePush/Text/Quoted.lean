import DevfilePush.Text.Integer
import DevfilePush.Text.Printable

/-!
Text in double quotes, as error messages show a value.

Quotes, backslashes and the common control characters have escapes of one
letter, other characters without a visible form are written `\u{…}`.
-/

namespace DevfilePush.Text

/-- One character as it stands between the quotes. -/
def quotedChar (c : Char) : List Char :=
  if c = '\u0000' then ['\\', '0']
  else if c = '\t' then ['\\', 't']
  else if c = '\r' then ['\\', 'r']
  else if c = '\n' then ['\\', 'n']
  else if c = '"' then ['\\', '"']
  else if c = '\\' then ['\\', '\\']
  else if isPrintable c then [c]
  else ['\\', 'u', '\x7b'] ++ Integer.hex c.toNat ++ ['\x7d']

/-- `s` in double quotes. -/
def quoted (s : String) : String :=
  String.ofList (['"'] ++ s.toList.flatMap quotedChar ++ ['"'])

end DevfilePush.Text
