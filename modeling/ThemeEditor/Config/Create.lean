/-
# ThemeEditor.Config.Create -- writing a first configuration

A configuration file is written only where nothing is, so one that a user wrote
is never lost.
-/
import ThemeEditor.Disk.Basic

namespace ThemeEditor.Config

set_option autoImplicit false

/-- The configuration that is written first: the defaults, with comments. -/
def defaultText : String :=
  "\n".intercalate [
    "# =============================================================================",
    "# Palette Studio configuration",
    "# =============================================================================",
    "# Every value can be overridden through the environment, e.g.",
    "#   PALETTE_STUDIO_THEME_SERVICE_URL=https://themes.example.com",
    "#   PALETTE_STUDIO_LOGGING__LEVEL=debug",
    "",
    "# Base URL of the theme-suggestion service. Palettes are read from",
    "# \x7btheme_service_url\x7d/themes/\x7blight|dark\x7d/\x7b01..NN\x7d.json",
    "theme_service_url = \"http://localhost:8080\"",
    "",
    "# Number of pre-generated theme files per mode (1-99)",
    "theme_file_count = 10",
    "",
    "# Seconds to wait for a theme request. Leave unset to wait indefinitely.",
    "# request_timeout_secs = 30",
    "",
    "# Where saved settings are kept. Defaults to ~/.config/palette-studio/storage",
    "# storage_dir = \"/path/to/storage\"",
    "",
    "[logging]",
    "# trace, debug, info, warn or error",
    "level = \"info\"",
    "# Log to this file instead of stderr",
    "# file = \"palette-studio.log\"",
    ""]

/-- Why no configuration could be written. -/
inductive CreateError where
  | createDirectory (path : String) (fault : Disk.Fault)
  | writeFile (path : String) (fault : Disk.Fault)
  deriving DecidableEq, Repr

namespace CreateError

def fault : CreateError → Disk.Fault
  | createDirectory _ fault | writeFile _ fault => fault

def message : CreateError → String
  | createDirectory path fault => s!"Failed to create directory {path}: {fault.text}"
  | writeFile path fault => s!"Failed to write file {path}: {fault.text}"

end CreateError

/-- Where the configuration lies, and whether it was written just now. -/
structure Created where
  path : String
  isNew : Bool
  deriving DecidableEq, Repr

/-- Makes a directory unless something is there. -/
def ensureDirectory (d : Disk) (path : String) : Except Disk.Fault Unit × Disk :=
  if d.exists? path then (.ok (), d) else d.makeDirectories path

/-- Writes the first configuration into a directory unless one is there. -/
def create (d : Disk) (directory : String) : Except CreateError Created × Disk :=
  match ensureDirectory d directory with
  | (.error f, d) => (.error (.createDirectory directory f), d)
  | (.ok (), d) =>
      let path := Disk.join directory "config.toml"
      if d.exists? path then (.ok ⟨path, false⟩, d)
      else
        match d.writeText path defaultText with
        | (.ok (), d) => (.ok ⟨path, true⟩, d)
        | (.error f, d) => (.error (.writeFile path f), d)

end ThemeEditor.Config
