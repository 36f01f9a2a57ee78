/-
# ThemeEditor.Storage.Basic -- texts by key, each in a file of one directory

A storage is a directory; the text of a key lies in the file with that name and
`.json` behind it.  Keys are short and plain, so no key can lead out of the
directory.  The directory is made when the first text is stored.
-/
import ThemeEditor.ActionError
import ThemeEditor.Disk.Basic
import ThemeEditor.Json.Fault

namespace ThemeEditor

set_option autoImplicit false

/-- A directory that holds texts by key. -/
structure Storage where
  root : String
  deriving DecidableEq, Repr

namespace Storage

/-- Why a storage operation failed. -/
inductive Error where
  | invalidKey (key : String) (reason : String)
  | createDirectory (path : String) (fault : Disk.Fault)
  | read (path : String) (fault : Disk.Fault)
  | write (path : String) (fault : Disk.Fault)
  | corrupt (key : String) (refusal : Json.Refusal)
  deriving DecidableEq, Repr

namespace Error

def message : Error → String
  | invalidKey key reason => s!"Invalid storage key '{key}': {reason}"
  | createDirectory path fault => s!"Failed to create storage directory {path}: {fault.text}"
  | read path fault => s!"Failed to read {path}: {fault.text}"
  | write path fault => s!"Failed to write {path}: {fault.text}"
  | corrupt key refusal =>
      s!"Stored value under '{key}' is not valid settings JSON: {refusal.message}"

def toActionError (e : Error) : ActionError :=
  ⟨.storage, e.message⟩

end Error

/-- The longest key, in bytes. -/
def maxKeySize : Nat := 64

/-- The characters of a key. -/
def isKeyChar (c : Char) : Bool :=
  ('a' ≤ c && c ≤ 'z') || ('A' ≤ c && c ≤ 'Z') || ('0' ≤ c && c ≤ '9') || c = '-' || c = '_'

/-- Why a text is no key, if it is none. -/
def keyFault? (key : String) : Option String :=
  if key = "" then some "Key cannot be empty"
  else if maxKeySize < key.utf8ByteSize then some "Key too long (max 64 characters)"
  else if key.toList.all isKeyChar then none
  else some ("Key contains invalid characters " ++
    "(only alphanumeric, hyphens, and underscores allowed)")

/-- The file of a key. -/
def pathOf (storage : Storage) (key : String) : Except Error String :=
  match keyFault? key with
  | none => .ok (Disk.join storage.root (key ++ ".json"))
  | some reason => .error (.invalidKey key reason)

/-- The text stored under a key, if any is. -/
def get (storage : Storage) (d : Disk) (key : String) : Except Error (Option String) :=
  match storage.pathOf key with
  | .error e => .error e
  | .ok path =>
      match d.readText path with
      | .ok text => .ok (some text)
      | .error .notFound => .ok none
      | .error f => .error (.read path f)

/-- Stores a text under a key. -/
def set (storage : Storage) (d : Disk) (key value : String) : Except Error Unit × Disk :=
  match storage.pathOf key with
  | .error e => (.error e, d)
  | .ok path =>
      match d.makeDirectories storage.root with
      | (.error f, d) => (.error (.createDirectory storage.root f), d)
      | (.ok (), d) =>
          match d.writeText path value with
          | (.ok (), d) => (.ok (), d)
          | (.error f, d) => (.error (.write path f), d)

/-- Removes a key; tells whether anything was stored under it. -/
def remove (storage : Storage) (d : Disk) (key : String) : Except Error Bool × Disk :=
  match storage.pathOf key with
  | .error e => (.error e, d)
  | .ok path =>
      match d.removeFile path with
      | .ok d => (.ok true, d)
      | .error .notFound => (.ok false, d)
      | .error f => (.error (.write path f), d)

end Storage

end ThemeEditor
