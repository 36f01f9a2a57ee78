/-
# ThemeEditor.Theme.Batch -- the palettes that one theme file offers

A theme file is a record with one field, `results`; each of its entries is a
record with one field, `palette`, a list of colors.
-/
import ThemeEditor.Settings.Document

namespace ThemeEditor

set_option autoImplicit false

/-- Colors that go together: background, foreground, then accents. -/
abbrev Palette := List Color

/-- The palettes of a theme file, in its order. -/
structure Batch where
  palettes : List Palette
  deriving DecidableEq, Repr, Inhabited

namespace Batch

/-- An entry of a theme file. -/
def entryLayout : Json.Layout Palette where
  title := "struct ThemeEntry"
  fields := [.of "palette" (Json.list Color.reader) (fun colors _ => colors) true true]

/-- A theme file. -/
def layout : Json.Layout Batch where
  title := "struct ThemeBatch"
  fields := [.of "results" (Json.list (entryLayout.read [])) (fun ps _ => ⟨ps⟩) true true]

/-- The batch that a text holds. -/
def decode (source : String) : Except Json.Refusal Batch :=
  Json.document (layout.read ⟨[]⟩) source

/-- The theme file of a batch, as a value. -/
def toValue (b : Batch) : Json.Value :=
  .object [("results", .list (b.palettes.map fun p =>
    .object [("palette", .list (p.map Color.toValue))]))]

/-- The theme file without white space. -/
def encode (b : Batch) : String :=
  b.toValue.compact

end Batch

end ThemeEditor
