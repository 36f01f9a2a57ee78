/-
# ThemeEditor.Settings.Basic -- the record that the editor edits

Eight color roles, a list of further accents, feature flags, and the address of
a backend, which is empty when there is none.
-/
import ThemeEditor.Settings.Color
import ThemeEditor.Settings.Flags

namespace ThemeEditor

set_option autoImplicit false

/-- Everything a user can set. -/
structure Settings where
  foreground : Color
  background : Color
  highlight : Color
  selected : Color
  comment : Color
  lastModified : Color
  allModified : Color
  accentText : Color
  accents : List Color
  flags : Flags
  backendUrl : String
  deriving DecidableEq, Repr, Inhabited

namespace Settings

/-- The built-in theme. -/
def default : Settings where
  foreground := ⟨"#cdd6f4"⟩
  background := ⟨"#1e1e2e"⟩
  highlight := ⟨"#f9e2af"⟩
  selected := ⟨"#89b4fa"⟩
  comment := ⟨"#6c7086"⟩
  lastModified := ⟨"#a6e3a1"⟩
  allModified := ⟨"#fab387"⟩
  accentText := ⟨"#11111b"⟩
  accents := [⟨"#f38ba8"⟩, ⟨"#94e2d5"⟩, ⟨"#cba6f7"⟩, ⟨"#74c7ec"⟩]
  flags := .empty
  backendUrl := ""

/-- The color of a role. -/
def color (s : Settings) : ColorRole → Color
  | .foreground => s.foreground
  | .background => s.background
  | .highlight => s.highlight
  | .selected => s.selected
  | .comment => s.comment
  | .lastModified => s.lastModified
  | .allModified => s.allModified
  | .accentText => s.accentText

/-- The settings with another color in a role. -/
def setColor (s : Settings) (role : ColorRole) (c : Color) : Settings :=
  match role with
  | .foreground => { s with foreground := c }
  | .background => { s with background := c }
  | .highlight => { s with highlight := c }
  | .selected => { s with selected := c }
  | .comment => { s with comment := c }
  | .lastModified => { s with lastModified := c }
  | .allModified => { s with allModified := c }
  | .accentText => { s with accentText := c }

/-- Whether a feature is switched on. -/
def featureEnabled (s : Settings) (name : String) : Bool :=
  s.flags.isOn name

/-- The settings with one flag set. -/
def setFlag (s : Settings) (name : String) (on : Bool) : Settings :=
  { s with flags := s.flags.insert name on }

/-- Setting the color of a role sets that color and no other. -/
theorem color_setColor (s : Settings) (role other : ColorRole) (c : Color) :
    (s.setColor role c).color other = if other = role then c else s.color other := by
  cases role <;> cases other <;> rfl

end Settings

end ThemeEditor
