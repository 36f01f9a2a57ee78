/-
# ThemeEditor.Command.Basic -- what can be asked for on the command line
-/
import ThemeEditor.Settings.Color
import ThemeEditor.Theme.Mode

namespace ThemeEditor

set_option autoImplicit false

/-- A command with its arguments.  `save` asks to persist the result. -/
inductive Command where
  /-- Print the settings. -/
  | show
  /-- Apply a generated palette. -/
  | generate (mode : Mode) (save : Bool)
  /-- Set the color of a role. -/
  | set (role : ColorRole) (value : String) (save : Bool)
  /-- Add an accent. -/
  | addAccent (value : String) (save : Bool)
  /-- Remove an accent by its place. -/
  | removeAccent (index : Nat) (save : Bool)
  /-- Switch a feature on or off. -/
  | flag (name : String) (on : Bool) (save : Bool)
  /-- Set the backend address. -/
  | backendUrl (url : String) (save : Bool)
  /-- Replace the settings with a document. -/
  | importFile (path : String) (save : Bool)
  /-- Copy the saved settings into a directory. -/
  | exportTo (directory : String)
  /-- Return to the built-in settings. -/
  | reset (save : Bool)
  /-- Write a default configuration. -/
  | initConfig
  deriving DecidableEq, Repr

namespace Command

/-- Whether a command asks to persist its result. -/
def saves : Command → Bool
  | generate _ save | set _ _ save | addAccent _ save | removeAccent _ save | flag _ _ save
  | backendUrl _ save | importFile _ save | reset save => save
  | «show» | exportTo _ | initConfig => false

/-- Whether a command replaces the settings as a whole, so that it can do without
the stored ones. -/
def replacesSettings : Command → Bool
  | importFile _ _ | reset _ => true
  | _ => false

end Command

end ThemeEditor
