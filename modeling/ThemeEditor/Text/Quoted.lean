/-
# ThemeEditor.Text.Quoted -- a text inside quotation marks, for an error message

The usual escapes stand for quotation mark, backslash and the common controls;
any other character without a shape of its own is written by its code point in
lower-case hexadecimal digits between braces.
-/
import ThemeEditor.Text.Printable

namespace ThemeEditor.Text

set_option autoImplicit false

/-- One character of a quoted text. -/
def quotedChar (c : Char) : List Char :=
  if c = '\x00' then ['\\', '0']
  else if c = '\t' then ['\\', 't']
  else if c = '\r' then ['\\', 'r']
  else if c = '\n' then ['\\', 'n']
  else if c = '\\' then ['\\', '\\']
  else if c = '"' then ['\\', '"']
  else if isPrintable c then [c]
  else ['\\', 'u', '{'] ++ Nat.toDigits 16 c.toNat ++ ['}']

/-- A text between quotation marks. -/
def quoted (s : String) : String :=
  String.ofList (['"'] ++ s.toList.flatMap quotedChar ++ ['"'])

end ThemeEditor.Text
