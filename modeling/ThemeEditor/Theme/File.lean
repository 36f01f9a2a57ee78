/-
# ThemeEditor.Theme.File -- where the numbered theme files lie

The theme service keeps its files under `themes`, by mode and by a number of at
least two digits.
-/
import ThemeEditor.Theme.Mode

namespace ThemeEditor

set_option autoImplicit false

namespace ThemeFile

/-- A number with a zero in front when it has one digit. -/
def twoDigits (n : Nat) : String :=
  if n < 10 then s!"0{n}" else toString n

/-- The path of a theme file below the address of the service. -/
def path (mode : Mode) (index : UInt8) : String :=
  s!"themes/{mode.name}/{twoDigits index.toNat}.json"

/-- An address without the slashes at its end. -/
def withoutSlashes (base : String) : String :=
  String.ofList (base.toList.reverse.dropWhile (· = '/')).reverse

/-- The address of a theme file. -/
def url (base : String) (mode : Mode) (index : UInt8) : String :=
  s!"{withoutSlashes base}/{path mode index}"

end ThemeFile

end ThemeEditor
