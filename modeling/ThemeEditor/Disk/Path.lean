/-
# ThemeEditor.Disk.Path -- paths as texts, and the steps they ask for

A path is kept as the text it was given as, because messages show it.  Following
it means taking its segments one by one: empty segments and `.` stay where they
are, and a path that ends in one of those asks for a directory.  A path that ends
in `.` asks for one that is there already.
-/
namespace ThemeEditor.Disk

set_option autoImplicit false

/-- Why the disk refuses an operation. -/
inductive Fault where
  | notFound
  | alreadyExists
  | notDirectory
  | isDirectory
  | nameTooLong
  | notText
  | nulInName
  /-- What the system says of a write that it stopped. -/
  | device (words : String)
  deriving DecidableEq, Repr

/-- The system's wording of a fault. -/
def Fault.text : Fault → String
  | .notFound => "No such file or directory (os error 2)"
  | .alreadyExists => "File exists (os error 17)"
  | .notDirectory => "Not a directory (os error 20)"
  | .isDirectory => "Is a directory (os error 21)"
  | .nameTooLong => "File name too long (os error 36)"
  | .notText => "stream did not contain valid UTF-8"
  | .nulInName => "file name contained an unexpected NUL byte"
  | .device words => words

/-- Whether a path starts at the root. -/
def isAbsolute (path : String) : Bool :=
  path.toList.head? = some '/'

/-- A path below another one.  An absolute path stands for itself. -/
def join (base path : String) : String :=
  if isAbsolute path then path
  else if base = "" || base.toList.getLast? = some '/' then base ++ path
  else base ++ "/" ++ path

/-- The pieces of a path between its slashes. -/
def pieces (path : String) : List String :=
  (path.toList.splitOn '/').map String.ofList

/-- A path as steps. -/
structure Location where
  absolute : Bool
  segments : List String
  /-- Whether the path can only mean a directory. -/
  directory : Bool
  /-- Whether the path can only mean what is there already. -/
  existing : Bool
  deriving DecidableEq, Repr

/-- Whether a piece of a path stays where it is. -/
def isStay (piece : String) : Bool :=
  piece = "" || piece = "."

/-- The longest path, in bytes. -/
def maxPathSize : Nat := 4095

/-- The longest name, in bytes. -/
def maxNameSize : Nat := 255

/-- Reads a path. -/
def Location.ofPath (path : String) : Except Fault Location :=
  if path.toList.contains '\x00' then .error .nulInName
  else if path = "" then .error .notFound
  else if maxPathSize < path.utf8ByteSize then .error .nameTooLong
  else
    .ok {
      absolute := isAbsolute path
      segments := (pieces path).filter fun p => !isStay p
      directory := (pieces path).getLast?.any isStay
      existing := ((pieces path).filter (· ≠ "")).getLast? = some "." }

/-- The location of the first `count` segments. -/
def Location.upTo (location : Location) (count : Nat) : Location :=
  { location with
    segments := location.segments.take count
    existing := location.existing && location.segments.length ≤ count }

end ThemeEditor.Disk
