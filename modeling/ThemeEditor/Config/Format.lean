/-
# ThemeEditor.Config.Format -- the formats of a configuration file

A file holds a table of values in one of six formats, which its extension tells.
Whatever the format, a byte order mark in front of the text does not belong to it.
-/
import ThemeEditor.Config.Read
import ThemeEditor.Ini
import ThemeEditor.Json.Tree
import ThemeEditor.Json5.Document
import ThemeEditor.Ron.Document
import ThemeEditor.Text.Utf8
import ThemeEditor.Toml.Document
import ThemeEditor.Yaml.Document

namespace ThemeEditor.Config

set_option autoImplicit false

/-- The formats of a configuration file. -/
inductive Format where
  | toml
  | json
  | yaml
  | ini
  | ron
  | json5
  deriving DecidableEq, Repr

/-- The extensions of the formats, in the order in which they are tried. -/
def extensions : List (String × Format) :=
  [("toml", .toml), ("json", .json), ("yaml", .yaml), ("yml", .yaml), ("ini", .ini),
    ("ron", .ron), ("json5", .json5)]

/-- Why the text of a file is no table; some reasons need the text for their wording. -/
inductive FileFault where
  | toml (fault : Toml.Fault)
  | json (refusal : Json.Refusal)
  | yaml (failure : Yaml.Failure)
  | ini (fault : Ini.Fault) (source : String)
  | ron (fault : Ron.Fault) (source : String)
  | json5 (fault : Json5.Fault) (source : String)
  /-- The text has a value of another kind. -/
  | notTable (found : String)
  deriving DecidableEq, Repr

/-- What a message says of a fault of the file `origin`. -/
def FileFault.message (origin : String) (f : FileFault) : String :=
  let reason := match f with
    | toml .notToml => "TOML parse error"
    | toml .keyTooLong => "recursion limit\n"
    | toml (.number fault) => fault.message
    | json refusal => refusal.message
    | yaml failure => failure.message
    | ini fault source => fault.message source
    | ron fault source => fault.message source
    | json5 fault source => fault.message source
    | notTable found => s!"invalid type: {found}, expected a map in {origin}"
  s!"{reason} in {origin}"

namespace Format

/-- How a message names a value that is no table.  Only one format has integers without
a sign. -/
def rootWording (format : Format) : Json.Value → String
  | .null => Scalar.null.wording
  | .boolean b => (Scalar.boolean b).wording
  | .number (.integer n) =>
      if format = .ron && 0 ≤ n then s!"64-bit unsigned integer `{n}`"
      else (Scalar.integer n).wording
  | .number (.floating d) => (Scalar.floating d).wording
  | .text t => (Scalar.text t).wording
  | .list _ => "sequence"
  | .object _ => "map"

/-- The value of a text in a format. -/
def value (format : Format) (source : String) : Except FileFault Json.Value :=
  match format with
  | toml => (Toml.read source).map Json.Value.object |>.mapError .toml
  | json => (Json.Value.decode source).mapError .json
  | yaml => (Yaml.read source).mapError .yaml
  | ini => (Ini.read source).map Json.Value.object |>.mapError (.ini · source)
  | ron => (Ron.read source).mapError (.ron · source)
  | json5 => (Json5.read source).mapError (.json5 · source)

/-- The members of a text in a format, each with the file as its origin. -/
def members (format : Format) (origin source : String) :
    Except FileFault (List (String × Tree)) :=
  match format.value source with
  | .error f => .error f
  | .ok (.object members) => .ok (Tree.ofMembers (some origin) members)
  | .ok v => .error (.notTable (format.rootWording v))

end Format

/-- The bytes of a file without a byte order mark. -/
def withoutMark (bytes : ByteArray) : ByteArray :=
  if bytes.toList.take 3 = [0xEF, 0xBB, 0xBF] then bytes.extract 3 bytes.size else bytes

end ThemeEditor.Config
