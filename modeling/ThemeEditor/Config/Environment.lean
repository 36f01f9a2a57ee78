/-
# ThemeEditor.Config.Environment -- variables, and the directories they name

Variables have a name and a text.  The configuration directory lies in the home
directory, or where the desktop standard says when there is no home.
-/
import ThemeEditor.Disk.Path

namespace ThemeEditor

set_option autoImplicit false

/-- Variables with their values, in order. -/
structure Environment where
  entries : List (String × String)
  deriving DecidableEq, Repr

namespace Environment

/-- The value of a variable. -/
def get? (env : Environment) (name : String) : Option String :=
  (env.entries.find? fun v => v.1 = name).map (·.2)

/-- The environment with a variable, unless it has one of that name. -/
def withDefault (env : Environment) (name value : String) : Environment :=
  if (env.get? name).isSome then env else ⟨env.entries ++ [(name, value)]⟩

/-- The home directory.  An empty name counts as none.  Where the variable names none, a system
falls back to its user database; that database is taken to name none either. -/
def home? (env : Environment) : Option String :=
  (env.get? "HOME").filter (· ≠ "")

/-- The directory for configurations that the desktop standard names; only an
absolute path counts. -/
def standardDirectory? (env : Environment) : Option String :=
  (env.get? "XDG_CONFIG_HOME").filter Disk.isAbsolute

/-- The name of the program's own directories. -/
def programName : String := "palette-studio"

/-- The directory of the program's configuration. -/
def configDirectory? (env : Environment) : Option String :=
  match env.home? with
  | some home => some (Disk.join (Disk.join home ".config") programName)
  | none => env.standardDirectory?.map fun directory => Disk.join directory programName

/-- What is said when there is no directory for the configuration. -/
def noDirectoryMessage : String :=
  "Failed to determine config directory: Unable to determine config directory"

/-- The configuration file. -/
def configFile? (env : Environment) : Option String :=
  env.configDirectory?.map fun directory => Disk.join directory "config.toml"

/-- The directory in which settings are kept unless the configuration names one. -/
def storageDirectory? (env : Environment) : Option String :=
  env.configDirectory?.map fun directory => Disk.join directory "storage"

end Environment

end ThemeEditor
