/-
# ThemeEditor.Palette.Apply -- a palette becomes the colors of a theme

The first color is the background and the second the foreground.  The others are
shuffled and become the accents; the first four of them also take the roles
selected, highlight, comment and accent text.  Whatever a palette is too short
for keeps its color.  A palette without colors changes nothing.
-/
import ThemeEditor.Random.Shuffle
import ThemeEditor.Theme.Batch

namespace ThemeEditor

set_option autoImplicit false

namespace Palette

open ThemeEditor.Random (WordSource)

/-- The roles that accents take, in order. -/
def accentRoles : List ColorRole :=
  [.selected, .highlight, .comment, .accentText]

/-- Gives roles the colors at the same places. -/
def assign (s : Settings) (roles : List ColorRole) (colors : List Color) : Settings :=
  (roles.zip colors).foldl (fun s rc => s.setColor rc.1 rc.2) s

/-- The settings with shuffled accents. -/
def withAccents (s : Settings) (accents : List Color) : Settings :=
  { assign s accentRoles accents with accents := accents }

/-- The settings with the second color of a palette as foreground, if it has one. -/
def withForeground (s : Settings) : List Color → Settings
  | [] => s
  | c :: _ => { s with foreground := c }

/-- The result of applying a palette: whether it changed the settings. -/
structure Applied where
  applied : Bool
  settings : Settings
  words : WordSource

/-- Applies a palette, if there is one. -/
def apply (s : Settings) (palette : Option Palette) (w : WordSource) : Applied :=
  match palette with
  | none | some [] => ⟨false, s, w⟩
  | some (background :: rest) =>
      let (accents, w) := Random.shuffle (rest.drop 1) w
      ⟨true, withAccents (withForeground { s with background } rest) accents, w⟩

end Palette

end ThemeEditor
