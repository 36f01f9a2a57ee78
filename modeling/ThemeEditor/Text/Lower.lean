/-
# ThemeEditor.Text.Lower -- letter case, as far as an ASCII word can see

Spellings that ignore case are always compared with words in lower-case ASCII.
For such a comparison only the characters whose lower case *is* an ASCII letter
matter: the capitals `A` to `Z` and the Kelvin sign, which lowers to `k`.  Every
other character keeps a lower case outside ASCII, so leaving it alone changes no
comparison.
-/
namespace ThemeEditor.Text

set_option autoImplicit false

/-- The Kelvin sign, a letter whose lower case is the ASCII `k`. -/
def kelvin : Char := '\u212a'

/-- The lower case of a character, exact wherever it lies in ASCII. -/
def lowerChar (c : Char) : Char :=
  if c = kelvin then 'k' else c.toLower

/-- Lower case for comparison with an ASCII word. -/
def lower (s : String) : String :=
  String.ofList (s.toList.map lowerChar)

end ThemeEditor.Text
