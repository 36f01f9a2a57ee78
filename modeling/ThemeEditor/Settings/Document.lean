/-
# ThemeEditor.Settings.Document -- settings as a JSON document

Settings are written as an object with eleven members.  Reading takes members in
any order, passes over unknown ones, and keeps the built-in value of every field
that does not occur.
-/
import ThemeEditor.Json.Reader
import ThemeEditor.Json.Value
import ThemeEditor.Settings.Basic

namespace ThemeEditor

set_option autoImplicit false

namespace Color

/-- Reads a color: any text. -/
def reader : Json.Reader Color := fun s =>
  match Json.text s with
  | .error f => .error f
  | .ok (t, r) => .ok (⟨t⟩, r)

def toValue (c : Color) : Json.Value :=
  .text c.text

end Color

namespace Flags

/-- Reads one flag; a name that comes again replaces the earlier value. -/
def memberReader (flags : Flags) (name : String) : Json.Reader Flags := fun s =>
  match Json.valued Json.boolean s with
  | .error f => .error f
  | .ok (on, r) => .ok (flags.insert name on, r)

/-- Reads an object of flags. -/
def reader : Json.Reader Flags :=
  Json.object .empty memberReader

def toValue (flags : Flags) : Json.Value :=
  .object (flags.entries.map fun e => (e.1, .boolean e.2))

end Flags

namespace Settings

/-- The fields of the document; none of them has to occur. -/
def layout : Json.Layout Settings where
  title := "struct Settings"
  fields :=
    [.of "foreground" Color.reader (fun c s => { s with foreground := c }) false false,
     .of "background" Color.reader (fun c s => { s with background := c }) false false,
     .of "highlight" Color.reader (fun c s => { s with highlight := c }) false false,
     .of "selected" Color.reader (fun c s => { s with selected := c }) false false,
     .of "comment" Color.reader (fun c s => { s with comment := c }) false false,
     .of "lastModified" Color.reader (fun c s => { s with lastModified := c }) false false,
     .of "allModified" Color.reader (fun c s => { s with allModified := c }) false false,
     .of "accentText" Color.reader (fun c s => { s with accentText := c }) false false,
     .of "accentColors" (Json.list Color.reader) (fun cs s => { s with accents := cs }) false false,
     .of "featureFlags" Flags.reader (fun fs s => { s with flags := fs }) false false,
     .of "backendUrl" Json.text (fun t s => { s with backendUrl := t }) false false]

/-- The settings that a document holds. -/
def decode (source : String) : Except Json.Refusal Settings :=
  Json.document (layout.read .default) source

/-- The document of settings, as a value. -/
def toValue (s : Settings) : Json.Value :=
  .object
    [("foreground", s.foreground.toValue),
     ("background", s.background.toValue),
     ("highlight", s.highlight.toValue),
     ("selected", s.selected.toValue),
     ("comment", s.comment.toValue),
     ("lastModified", s.lastModified.toValue),
     ("allModified", s.allModified.toValue),
     ("accentText", s.accentText.toValue),
     ("accentColors", .list (s.accents.map Color.toValue)),
     ("featureFlags", s.flags.toValue),
     ("backendUrl", .text s.backendUrl)]

/-- The document without white space. -/
def encode (s : Settings) : String :=
  s.toValue.compact

/-- The document as it is stored. -/
def encodeIndented (s : Settings) : String :=
  s.toValue.indented

end Settings

end ThemeEditor
