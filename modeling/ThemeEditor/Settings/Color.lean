/-
# ThemeEditor.Settings.Color -- colors and the roles they play

A color is kept as the text it was given as; whether that text is a color is
asked only where one is typed in by hand.  Eight roles are named, each with the
key it is stored under.  A role may be spelled with any letter case and with
hyphens or underscores anywhere.
-/
import ThemeEditor.Text.Lower

namespace ThemeEditor

set_option autoImplicit false

/-- A color, by the text that names it. -/
structure Color where
  text : String
  deriving DecidableEq, Repr, Inhabited

/-- A named use of a color. -/
inductive ColorRole where
  | foreground
  | background
  | highlight
  | selected
  | comment
  | lastModified
  | allModified
  | accentText
  deriving DecidableEq, Repr

namespace ColorRole

/-- Every role, in the order in which settings list them. -/
def all : List ColorRole :=
  [foreground, background, highlight, selected, comment, lastModified, allModified, accentText]

/-- The key a role is stored under. -/
def key : ColorRole → String
  | foreground => "foreground"
  | background => "background"
  | highlight => "highlight"
  | selected => "selected"
  | comment => "comment"
  | lastModified => "lastModified"
  | allModified => "allModified"
  | accentText => "accentText"

/-- A spelling without letter case, hyphens and underscores. -/
def normalized (name : String) : String :=
  Text.lower (String.ofList (name.toList.filter fun c => c != '_' && c != '-'))

/-- The role that a spelling names. -/
def ofName? (name : String) : Option ColorRole :=
  all.find? fun role => Text.lower role.key = normalized name

/-- What is said of a spelling that names no role. -/
def unknownMessage (name : String) : String :=
  s!"Unknown color field '{name}'"

end ColorRole

end ThemeEditor
