/-
# ThemeEditor.Web.Percent -- bytes written with a percent sign

A web address is plain ASCII.  Other characters, and those that would mean
something else where they stand, are written byte by byte as a percent sign and
two digits.
-/
import ThemeEditor.Text.Digit
import ThemeEditor.Text.Utf8

namespace ThemeEditor.Web.Percent

set_option autoImplicit false

/-- A hexadecimal digit, in upper case. -/
def digit (n : Nat) : Char :=
  if n < 10 then Char.ofNat ('0'.toNat + n) else Char.ofNat ('A'.toNat + (n - 10))

/-- A byte as a percent sign and two digits. -/
def escape (b : UInt8) : List Char :=
  ['%', digit (b.toNat / 16), digit (b.toNat % 16)]

/-- Whether a character is written with percent signs wherever it stands. -/
def isForeign (c : Char) : Bool :=
  c.toNat < 0x20 || 0x7E < c.toNat

/-- A text in which the characters of a set, and all foreign ones, are escaped. -/
def encode (escaped : List Char) (cs : List Char) : List Char :=
  cs.flatMap fun c =>
    if isForeign c || escaped.contains c then
      (String.singleton c).toUTF8.toList.flatMap escape
    else [c]

/-- The bytes of a text, with escapes undone. -/
def decodeBytes : List Char → List UInt8
  | '%' :: a :: b :: r =>
      match Text.hexValue? a, Text.hexValue? b with
      | some x, some y => (x * 16 + y).toUInt8 :: decodeBytes r
      | _, _ => '%'.toNat.toUInt8 :: decodeBytes (a :: b :: r)
  | c :: r => (String.singleton c).toUTF8.toList ++ decodeBytes r
  | [] => []

/-- The text with escapes undone. -/
def decode (cs : List Char) : List Char :=
  (Text.lossy ⟨(decodeBytes cs).toArray⟩).toList

/-! ## The characters that are escaped, by where they stand -/

def inFragment : List Char := [' ', '"', '<', '>', '\x60']

def inQuery : List Char := [' ', '"', '#', '<', '>']

/-- Addresses of the web also escape the apostrophe. -/
def inWebQuery : List Char := '\'' :: inQuery

def inPath : List Char := inFragment ++ ['#', '?', '\x7b', '\x7d']

/-- In a name or a password. -/
def inUser : List Char := inPath ++ ['/', ':', ';', '=', '@', '[', '\\', ']', '^', '|']

end ThemeEditor.Web.Percent
