/-
# ThemeEditor.Program.Places -- what of a disk a run looks at

A run needs no more of a disk than what lies at a few paths, and at the
directories above them.  Which ones they are becomes known step by step: the
variables of a file can name another configuration, and that another storage.
-/
import ThemeEditor.Program.Basic

namespace ThemeEditor.Program

set_option autoImplicit false

/-- The paths at which a file of variables may lie. -/
def variablePaths (d : Disk) : List String :=
  (Dotenv.upward d.current).map fun route => Config.pathOf (route ++ [".env"])

/-- The paths at which the configuration may lie. -/
def configPaths (d : Disk) (env : Environment) (path : Option String) : List String :=
  match path <|> env.configFile? with
  | some path =>
      let full := Disk.join (Config.pathOf d.current) path
      full :: (Config.candidates full).map (·.1)
  | none => []

/-- The paths that a command names. -/
def commandPaths : Command → List String
  | .importFile path _ => [path]
  | .exportTo directory => [Disk.join directory Storage.exportName]
  | _ => []

/-- The paths that a configuration names. -/
def configuredPaths (config : Config) (env : Environment) : List String :=
  let storage : Storage := ⟨config.storageDirectory env⟩
  (storage.pathOf Storage.settingsKey).toOption.toList ++ config.log.file?.toList

/-- The paths that a run looks at, as far as its disk tells. -/
def places (s : Start) : List String :=
  match Usage.read s.arguments with
  | .error _ => []
  | .ok invocation =>
      let env := Dotenv.extend s.disk s.environment
      let named := variablePaths s.disk ++ configPaths s.disk s.environment none ++
        configPaths s.disk env invocation.config ++ commandPaths invocation.command
      match Config.load s.disk env invocation.config with
      | .ok config => named ++ configuredPaths config env
      | .error _ => named

end ThemeEditor.Program
