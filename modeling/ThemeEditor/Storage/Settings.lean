/-
# ThemeEditor.Storage.Settings -- settings in a storage, and outside it

The settings are one document in the storage.  Importing reads a document from
any file; exporting copies the stored one into a directory, or the built-in
settings when none is stored.
-/
import ThemeEditor.Log.Line
import ThemeEditor.Settings.Document
import ThemeEditor.Storage.Basic

namespace ThemeEditor

set_option autoImplicit false

namespace Storage

/-- The key of the settings. -/
def settingsKey : String := "settings"

/-- The name of an exported document. -/
def exportName : String := "settings.json"

/-- Why a document could not be imported. -/
inductive ImportError where
  | read (path : String) (fault : Disk.Fault)
  | parse (path : String) (refusal : Json.Refusal)
  deriving DecidableEq, Repr

namespace ImportError

def message : ImportError → String
  | read path fault => s!"Failed to read import file {path}: {fault.text}"
  | parse path refusal =>
      s!"Import file {path} is not valid settings JSON: {refusal.message}"

def toActionError (e : ImportError) : ActionError :=
  ⟨.importing, e.message⟩

end ImportError

/-- Why the document could not be exported. -/
inductive ExportError where
  | storage (error : Error)
  | write (path : String) (fault : Disk.Fault)
  deriving DecidableEq, Repr

namespace ExportError

def message : ExportError → String
  | storage error => error.message
  | write path fault => s!"Failed to write export file {path}: {fault.text}"

def toActionError (e : ExportError) : ActionError :=
  ⟨.storage, e.message⟩

end ExportError

/-- The stored settings, or the built-in ones when none are stored. -/
def load (storage : Storage) (d : Disk) : Except Error Settings :=
  match storage.get d settingsKey with
  | .error e => .error e
  | .ok none => .ok .default
  | .ok (some text) =>
      match Settings.decode text with
      | .ok s => .ok s
      | .error r => .error (.corrupt settingsKey r)

/-- What loading logs. -/
def loadLog (storage : Storage) (d : Disk) : List Log.Line :=
  match storage.get d settingsKey with
  | .ok none => [⟨.info, .storage, "No saved settings found, using defaults"⟩]
  | _ => []

/-- Stores settings. -/
def save (storage : Storage) (d : Disk) (s : Settings) : Except Error Unit × Disk :=
  storage.set d settingsKey s.encodeIndented

/-- What a successful save logs. -/
def saveLine (storage : Storage) : Log.Line :=
  ⟨.info, .storage, s!"Settings saved to {storage.root}"⟩

/-- Reads settings from a file. -/
def importFrom (d : Disk) (path : String) : Except ImportError Settings :=
  match d.readText path with
  | .error f => .error (.read path f)
  | .ok text =>
      match Settings.decode text with
      | .ok s => .ok s
      | .error r => .error (.parse path r)

/-- What a successful import logs. -/
def importLine (path : String) : Log.Line :=
  ⟨.info, .storage, s!"Imported settings from {path}"⟩

/-- Copies the stored document into a directory; gives the path of the copy. -/
def exportTo (storage : Storage) (d : Disk) (directory : String) :
    Except ExportError String × Disk :=
  match storage.get d settingsKey with
  | .error e => (.error (.storage e), d)
  | .ok stored =>
      let path := Disk.join directory exportName
      match d.writeText path (stored.getD Settings.default.encodeIndented) with
      | (.ok (), d) => (.ok path, d)
      | (.error f, d) => (.error (.write path f), d)

/-- What a successful export logs. -/
def exportLine (path : String) : Log.Line :=
  ⟨.info, .storage, s!"Exported settings to {path}"⟩

end Storage

end ThemeEditor
