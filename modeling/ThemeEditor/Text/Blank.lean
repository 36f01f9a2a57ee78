/-
# ThemeEditor.Text.Blank -- white space around a text

A character is blank when it has the Unicode property `White_Space`.  `trim`
drops the blank characters at both ends of a text and no others.
-/
namespace ThemeEditor.Text

set_option autoImplicit false

/-- The characters with the Unicode property `White_Space`. -/
def isBlank (c : Char) : Bool :=
  let n := c.toNat
  (9 ≤ n && n ≤ 13) || n == 0x20 || n == 0x85 || n == 0xA0 || n == 0x1680 ||
    (0x2000 ≤ n && n ≤ 0x200A) || n == 0x2028 || n == 0x2029 || n == 0x202F || n == 0x205F ||
    n == 0x3000

/-- The characters without the blank ones in front. -/
def trimFront (cs : List Char) : List Char :=
  cs.dropWhile isBlank

/-- The characters without the blank ones at the back. -/
def trimBack (cs : List Char) : List Char :=
  (trimFront cs.reverse).reverse

/-- A text without the blank characters around it. -/
def trim (s : String) : String :=
  String.ofList (trimBack (trimFront s.toList))

end ThemeEditor.Text
