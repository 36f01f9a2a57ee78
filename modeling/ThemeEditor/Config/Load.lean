/-
# ThemeEditor.Config.Load -- the configuration in force

The configuration is read from a file, with variables of the environment laid
over it, and its values are held against their limits.  A file that is named has
to exist; the standard one may be missing.  A file is read by its extension, and
a name without a file is tried with each extension behind it.
-/
import ThemeEditor.Config.Format
import ThemeEditor.Disk.Basic

namespace ThemeEditor.Config

set_option autoImplicit false

/-- Why there is no configuration. -/
inductive LoadError where
  | notFound (path : String)
  | unknownFormat (path : String)
  | unreadable (fault : Disk.Fault)
  | badFile (fault : FileFault) (origin : String)
  | mismatch (mismatch : Mismatch)
  | limits (faults : List LimitFault)
  deriving DecidableEq, Repr

namespace LoadError

/-- The reason for which the layers could not be put together, if that is it. -/
def buildReason? : LoadError → Option String
  | notFound path => some s!"configuration file \"{path}\" not found"
  | unknownFormat path =>
      some s!"configuration file \"{path}\" is not of a supported file format"
  | unreadable fault => some fault.text
  | badFile fault origin => some (fault.message origin)
  | mismatch _ | limits _ => none

def message (e : LoadError) : String :=
  match e with
  | mismatch m => s!"Failed to deserialize config: {m.message}"
  | limits faults =>
      "Configuration validation failed:\n" ++
        "\n\n".intercalate (faults.map LimitFault.userMessage)
  | e =>
      let reason := e.buildReason?.getD ""
      s!"Configuration loading failed: {reason}. " ++
        "Please check your config.toml file and environment variables."

end LoadError

/-! ## The file -/

/-- The last name of a path. -/
def fileName (path : String) : String :=
  ((Disk.pieces path).filter fun p => !Disk.isStay p).getLast?.getD ""

/-- What follows the last point of a name, unless the name begins with it. -/
def extension? (path : String) : Option String :=
  let name := (fileName path).toList
  let stem := (name.reverse.dropWhile (· ≠ '.')).drop 1
  if stem.isEmpty then none else some (String.ofList (name.reverse.takeWhile (· ≠ '.')).reverse)

/-- Whether a file lies at a path. -/
def isFile (d : Disk) (path : String) : Bool :=
  match d.lookup path with
  | .ok (_, some (.file _)) => true
  | _ => false

/-- The path of a route. -/
def pathOf (route : Disk.Route) : String :=
  "/" ++ "/".intercalate route

/-- The characters of a path from its end, without those behind its last name. -/
def fromLastName : List Char → List Char
  | '/' :: r => fromLastName r
  | '.' :: '/' :: r => fromLastName r
  | r => r

/-- The files tried for a path that is none itself: its last name with each extension
behind it. -/
def candidates (path : String) : List (String × Format) :=
  let stem := (fromLastName path.toList.reverse).reverse
  if stem.isEmpty || fileName path = ".." then []
  else extensions.map fun e => (s!"{String.ofList stem}.{e.1}", e.2)

/-- The file that a path names, and its format. -/
def find (d : Disk) (path : String) : Except LoadError (String × Format) :=
  let full := Disk.join (pathOf d.current) path
  if isFile d full then
    match (extension? full).bind fun e => extensions.lookup e with
    | some format => .ok (full, format)
    | none => .error (.unknownFormat full)
  else
    match (candidates full).find? fun c => isFile d c.1 with
    | some found => .ok found
    | none => .error (.notFound path)

/-- Drops what two lists have in common at the front. -/
def withoutCommon : List String → List String → List String × List String
  | a :: as, b :: bs => if a = b then withoutCommon as bs else (a :: as, b :: bs)
  | as, bs => (as, bs)

/-- A path as seen from a directory. -/
def relativeTo (route : Disk.Route) (path : String) : String :=
  let names := (Disk.pieces path).filter fun p => !Disk.isStay p
  let (down, up) := withoutCommon names route
  "/".intercalate (up.map (fun _ => "..") ++ down)

/-- The members of the file that a path names.  A file that need not exist may also
be of an unknown format. -/
def readFile (d : Disk) (path : String) (required : Bool) :
    Except LoadError (List (String × Tree)) :=
  match find d path with
  | .error e => if required then .error e else .ok []
  | .ok (full, format) =>
      match d.readBytes full with
      | .error f => if required then .error (.unreadable f) else .ok []
      | .ok bytes =>
          let origin := relativeTo d.current full
          match format.members origin (Text.lossy (withoutMark bytes)) with
          | .error f => .error (.badFile f origin)
          | .ok members => .ok members

/-- The members of the file that is in force. -/
def fileLayer (d : Disk) (env : Environment) (path : Option String) :
    Except LoadError (List (String × Tree)) :=
  match path, env.configFile? with
  | some path, _ => readFile d path true
  | none, some path => readFile d path false
  | none, none => .ok []

/-! ## The environment -/

/-- The beginning of the variables that are part of the configuration, in lower case. -/
def variablePrefix : String := "palette_studio_"

/-- Two underscores stand for a point. -/
def pointed : List Char → List Char
  | '_' :: '_' :: r => '.' :: pointed r
  | c :: r => c :: pointed r
  | [] => []

/-- The name that a variable has in the configuration, if it is part of it. -/
def nameOf? (variable_ : String) : Option String :=
  let name := (Text.lower variable_).toList
  let start := variablePrefix.toList
  if start.isPrefixOf name then some (String.ofList (pointed (name.drop start.length))) else none

/-- The members that the environment defines; of two spellings of a name the later
one counts. -/
def environmentLayer (env : Environment) : List (String × Tree) :=
  env.entries.foldl
    (fun ms v =>
      match nameOf? v.1 with
      | none => ms
      | some name => Tree.putMember name (.scalar (.text v.2) (some "the environment")) ms)
    []

/-! ## Both -/

/-- The values in force, before they are read. -/
def layers (d : Disk) (env : Environment) (path : Option String) : Except LoadError Tree :=
  match fileLayer d env path with
  | .error e => .error e
  | .ok members =>
      .ok (((Tree.table [] none).layer members).layer (environmentLayer env))

/-- The configuration in force; `env` holds the variables of the environment and of
its file. -/
def load (d : Disk) (env : Environment) (path : Option String) : Except LoadError Config :=
  match layers d env path with
  | .error e => .error e
  | .ok t =>
      match ofTree t with
      | .error m => .error (.mismatch m)
      | .ok c => if c.limitFaults.isEmpty then .ok c else .error (.limits c.limitFaults)

end ThemeEditor.Config
