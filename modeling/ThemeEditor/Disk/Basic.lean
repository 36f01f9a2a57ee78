/-
# ThemeEditor.Disk.Basic -- directories and files as a value

A disk holds entries by their route from the root, and the route of the working
directory.  A file has one name, for there are no links.  Every operation takes
a path and either gives its fault or its result; one that writes also gives the
disk it leaves, because it may have made directories before it failed, or a file
that it could not fill.

Whether a path leads to a place for a file shows on the disk.  Whether the bytes
then arrive does not: the device may be full, or the file read-only.  So a disk
also tells what the system does to the writes to come.
-/
import ThemeEditor.Disk.Path

namespace ThemeEditor

set_option autoImplicit false

namespace Disk

/-- The names from the root to an entry. -/
abbrev Route := List String

/-- What lies at a route. -/
inductive Entry where
  | directory
  | file (bytes : ByteArray)

instance : DecidableEq Entry
  | .directory, .directory => isTrue rfl
  | .directory, .file _ => isFalse nofun
  | .file _, .directory => isFalse nofun
  | .file a, .file b =>
      if h : a.data = b.data then isTrue (by rw [ByteArray.ext h])
      else isFalse fun same => h (by cases same; rfl)

/-- What the system does to a write that finds a place for its file. -/
inductive Stop where
  /-- It does not open the file. -/
  | unopened (words : String)
  /-- It opens the file, which makes or empties it, and takes only so many bytes. -/
  | full (room : Nat) (words : String)
  deriving DecidableEq, Repr

end Disk

open Disk (Route Entry Stop Location)

/-- The entries of a disk, the working directory, and what stops the next writes of
texts, one after the other.  Where that is `none` the write goes through, and so do all
writes that are not told of. -/
structure Disk where
  entries : List (Route × Entry)
  current : Route
  stops : List (Option Stop) := []
  deriving DecidableEq

namespace Disk

/-- A disk with nothing but the working directory and the directories above it. -/
def blank (current : Route) : Disk where
  entries := (List.range current.length).map fun n => (current.take (n + 1), .directory)
  current := current

/-- What lies at a route.  The root is always a directory. -/
def node? (d : Disk) (route : Route) : Option Entry :=
  if route = [] then some .directory
  else (d.entries.find? fun e => e.1 = route).map (·.2)

/-- The disk with an entry at a route. -/
def put (d : Disk) (route : Route) (entry : Entry) : Disk :=
  { d with entries := (route, entry) :: d.entries.filter fun e => e.1 ≠ route }

/-- The disk without the entry at a route. -/
def erase (d : Disk) (route : Route) : Disk :=
  { d with entries := d.entries.filter fun e => e.1 ≠ route }

/-! ## Following paths -/

/-- Follows segments from a directory; the last one need not exist. -/
def walk (d : Disk) : Route → List String → Except Fault Route
  | here, [] => .ok here
  | here, name :: rest =>
      match d.node? here with
      | none => .error .notFound
      | some (.file _) => .error .notDirectory
      | some .directory =>
          if name = ".." then walk d here.dropLast rest
          else if maxNameSize < name.utf8ByteSize then .error .nameTooLong
          else walk d (here ++ [name]) rest

/-- The route of a location. -/
def routeOf (d : Disk) (location : Location) : Except Fault Route :=
  walk d (if location.absolute then [] else d.current) location.segments

/-- What lies at a path, or `none` where something could be made. -/
def lookup (d : Disk) (path : String) : Except Fault (Route × Option Entry) := do
  let location ← Location.ofPath path
  let route ← d.routeOf location
  match d.node? route with
  | some (.file bytes) =>
      if location.directory then throw .notDirectory else return (route, some (.file bytes))
  | entry => return (route, entry)

/-- Whether anything lies at a path. -/
def exists? (d : Disk) (path : String) : Bool :=
  match d.lookup path with
  | .ok (_, some _) => true
  | _ => false

/-- Whether a directory lies at a path. -/
def isDirectoryAt (d : Disk) (path : String) : Bool :=
  match d.lookup path with
  | .ok (_, some .directory) => true
  | _ => false

/-! ## Files -/

/-- The bytes of a file. -/
def readBytes (d : Disk) (path : String) : Except Fault ByteArray :=
  match d.lookup path with
  | .error f => .error f
  | .ok (_, none) => .error .notFound
  | .ok (_, some .directory) => .error .isDirectory
  | .ok (_, some (.file bytes)) => .ok bytes

/-- The text of a file. -/
def readText (d : Disk) (path : String) : Except Fault String :=
  match d.readBytes path with
  | .error f => .error f
  | .ok bytes =>
      match String.fromUTF8? bytes with
      | some text => .ok text
      | none => .error .notText

/-- The route of a path at which a file can be written, with the bytes there. -/
def target (d : Disk) (path : String) : Except Fault (Route × ByteArray) := do
  let location ← Location.ofPath path
  let route ← d.routeOf location
  match d.node? route with
  | some .directory => throw .isDirectory
  | some (.file bytes) =>
      if location.existing then throw .notDirectory
      else if location.directory then throw .isDirectory
      else return (route, bytes)
  | none =>
      if location.existing then throw .notFound
      else if location.directory then throw .isDirectory
      else return (route, .empty)

/-- Writes a file over the one that was there. -/
def writeBytes (d : Disk) (path : String) (bytes : ByteArray) : Except Fault Disk :=
  match d.target path with
  | .error f => .error f
  | .ok (route, _) => .ok (d.put route (.file bytes))

/-- The disk, with other stops for the writes to come. -/
def withStops (d : Disk) (stops : List (Option Stop)) : Disk :=
  { d with stops }

/-- What a file takes of some bytes when it does not take them all. -/
def Stop.part (room : Nat) (bytes : ByteArray) : ByteArray :=
  bytes.extract 0 (min room (bytes.size - 1))

/-- Puts bytes into the file at a route, unless the system stops that.  Without a byte to
write there is nothing to stop once the file is open. -/
def fill (d : Disk) (route : Route) (bytes : ByteArray) : Except Fault Unit × Disk :=
  match d.stops with
  | some (.unopened words) :: stops => (.error (.device words), d.withStops stops)
  | some (.full room words) :: stops =>
      if bytes.size = 0 then (.ok (), d.put route (.file bytes))
      else (.error (.device words), (d.withStops stops).put route (.file (Stop.part room bytes)))
  | stops => (.ok (), (d.withStops stops.tail).put route (.file bytes))

/-- Writes a text over the file that was there.  A write that is stopped halfway leaves
the bytes that arrived, and nothing of the file that was there. -/
def writeText (d : Disk) (path text : String) : Except Fault Unit × Disk :=
  match d.target path with
  | .error f => (.error f, d)
  | .ok (route, _) => d.fill route text.toUTF8

/-- Writes a text behind what is in a file.  Lines of a log are written this way, and
nobody learns whether they arrived. -/
def appendText (d : Disk) (path text : String) : Except Fault Disk :=
  match d.target path with
  | .error f => .error f
  | .ok (route, bytes) => .ok (d.put route (.file (bytes ++ text.toUTF8)))

/-- Removes a file. -/
def removeFile (d : Disk) (path : String) : Except Fault Disk :=
  match d.lookup path with
  | .error f => .error f
  | .ok (_, none) => .error .notFound
  | .ok (_, some .directory) => .error .isDirectory
  | .ok (route, some (.file _)) => .ok (d.erase route)

/-! ## Directories -/

/-- Makes one directory. -/
def makeDirectoryAt (d : Disk) (location : Location) : Except Fault Disk := do
  let route ← d.routeOf location
  match d.node? route with
  | some (.file _) => throw (if location.existing then .notDirectory else .alreadyExists)
  | some .directory => throw .alreadyExists
  | none => if location.existing then throw .notFound else return d.put route .directory

/-- Whether a location is a directory. -/
def holdsDirectory (d : Disk) (location : Location) : Bool :=
  match d.routeOf location with
  | .ok route => d.node? route = some .directory
  | .error _ => false

/-- Makes one directory unless it is there already. -/
def ensureDirectoryAt (d : Disk) (location : Location) : Except Fault Unit × Disk :=
  match d.makeDirectoryAt location with
  | .ok d => (.ok (), d)
  | .error f => (if d.holdsDirectory location then .ok () else .error f, d)

/-- Makes the directory of the first `count` segments, and those above it that do
not exist. -/
def makeAll (d : Disk) (location : Location) : Nat → Except Fault Unit × Disk
  | 0 => if location.absolute then d.ensureDirectoryAt (location.upTo 0) else (.ok (), d)
  | count + 1 =>
      let here := location.upTo (count + 1)
      match d.makeDirectoryAt here with
      | .ok d => (.ok (), d)
      | .error .notFound =>
          match d.makeAll location count with
          | (.error f, d) => (.error f, d)
          | (.ok (), d) => d.ensureDirectoryAt here
      | .error f => (if d.holdsDirectory here then .ok () else .error f, d)

/-- Makes a directory and those above it that do not exist. -/
def makeDirectories (d : Disk) (path : String) : Except Fault Unit × Disk :=
  if path = "" then (.ok (), d)
  else
    match Location.ofPath path with
    | .error f => (.error f, d)
    | .ok location => d.makeAll location location.segments.length

end Disk

end ThemeEditor
