/-
# ThemeEditor.Session.Basic -- an editing session and its operations

A session edits settings in a store, beside a pristine copy of what is persisted.
Form bindings change one thing after checking it.  Actions go further: they
generate a palette, import, export, reset or save, and the failure of one is
kept until the next one starts.  Closing a session saves it or returns to the
pristine copy.

Every operation returns a `Step`: its result, the session after it, the calls of
subscribers, the lines it logged and the request it made.
-/
import ThemeEditor.Input.Check
import ThemeEditor.Palette.Apply
import ThemeEditor.Storage.Settings
import ThemeEditor.Store
import ThemeEditor.Theme.Fetch

namespace ThemeEditor

set_option autoImplicit false

/-- What outlives a session: the disk, and the supply of palettes. -/
structure World where
  disk : Disk
  supply : Supply

/-- An editing session. -/
structure Session where
  world : World
  storage : Storage
  store : Store
  pristine : Settings
  lastError : Option ActionError

/-- What an operation did. -/
structure Step (α : Type) where
  result : α
  session : Session
  seen : List Notice := []
  log : List Log.Line := []
  request : Option Request := none

/-- What becomes of a disk when lines are logged: the log may be a file of it. -/
abbrev Recorder := List Log.Line → Disk → Disk

/-- A log that is kept elsewhere. -/
def Recorder.elsewhere : Recorder := fun _ d => d

namespace Session

/-! ## Opening -/

/-- What opening a session logs. -/
def openLine (storage : Storage) : Log.Line :=
  ⟨.info, .editor, s!"Opened settings editor on {storage.root}"⟩

/-- A session on persisted settings. -/
def start (storage : Storage) (world : World) (settings : Settings) : Session where
  world := world
  storage := storage
  store := .new settings
  pristine := settings
  lastError := none

/-- Opens a session on what the storage holds. -/
def openOn (storage : Storage) (world : World) :
    Except ActionError Session × List Log.Line :=
  let log := storage.loadLog world.disk
  match storage.load world.disk with
  | .ok settings => (.ok (start storage world settings), log ++ [openLine storage])
  | .error e => (.error e.toActionError, log)

/-- Opens a session that starts from the built-in settings when the stored document
is corrupt.  The document stays as it is until the session is saved. -/
def openDiscarding (storage : Storage) (world : World) :
    Except ActionError Session × List Log.Line :=
  match storage.load world.disk with
  | .error (.corrupt key refusal) =>
      let message := (Storage.Error.corrupt key refusal).message
      (.ok (start storage world .default),
        [⟨.warn, .editor, s!"{message}; starting from default settings"⟩, openLine storage])
  | _ => openOn storage world

/-- The session after lines were logged. -/
def recorded (record : Recorder) (lines : List Log.Line) (s : Session) : Session :=
  { s with world := { s.world with disk := record lines s.world.disk } }

/-! ## Reading -/

def settings (s : Session) : Settings :=
  s.store.settings

/-- Whether the edited settings differ from the persisted ones. -/
def isDirty (s : Session) : Bool :=
  s.settings != s.pristine

/-- What is shown of the last failed action. -/
def errorMessage (s : Session) : Option String :=
  s.lastError.map ActionError.userMessage

def isLoading (s : Session) (mode : Mode) : Bool :=
  s.world.supply.fetcher.isLoading mode

def clearError (s : Session) : Session :=
  { s with lastError := none }

def subscribe (s : Session) : SubscriptionId × Session :=
  let (id, store) := s.store.subscribe
  (id, { s with store })

def unsubscribe (s : Session) (id : SubscriptionId) : Bool × Session :=
  let (found, store) := s.store.unsubscribe id
  (found, { s with store })

/-! ## Form bindings -/

/-- The result of a form binding. -/
abbrev Edited (α : Type) := Step (Except ActionError α)

/-- A form binding that is refused. -/
def refuse {α : Type} (s : Session) (e : ActionError) : Edited α :=
  { result := .error e, session := s }

/-- A form binding that changes the settings. -/
def change {α : Type} (s : Session) (f : Settings → Settings × α) : Edited α :=
  let (result, store, seen) := s.store.update f
  { result := .ok result, session := { s with store }, seen }

def setColor (s : Session) (role : ColorRole) (value : String) : Edited Unit :=
  match Input.checkColor value with
  | .error r => s.refuse r.toError
  | .ok () => s.change fun t => (t.setColor role ⟨value⟩, ())

/-- The failure of an operation on an accent that is not there. -/
def noAccent (index count : Nat) : ActionError :=
  ⟨.state, s!"Accent color {index} does not exist (there are {count})"⟩

def setAccent (s : Session) (index : Nat) (value : String) : Edited Unit :=
  match Input.checkColor value with
  | .error r => s.refuse r.toError
  | .ok () =>
      let count := s.settings.accents.length
      if count ≤ index then s.refuse (noAccent index count)
      else s.change fun t => ({ t with accents := t.accents.set index ⟨value⟩ }, ())

def pushAccent (s : Session) (value : String) : Edited Unit :=
  match Input.checkColor value with
  | .error r => s.refuse r.toError
  | .ok () => s.change fun t => ({ t with accents := t.accents ++ [⟨value⟩] }, ())

/-- Removes an accent and returns it. -/
def removeAccent (s : Session) (index : Nat) : Edited Color :=
  match s.settings.accents[index]? with
  | none => s.refuse (noAccent index s.settings.accents.length)
  | some color => s.change fun t => ({ t with accents := t.accents.eraseIdx index }, color)

def setFlag (s : Session) (name : String) (on : Bool) : Edited Unit :=
  match Input.checkFlagName name with
  | .error r => s.refuse r.toError
  | .ok () => s.change fun t => (t.setFlag name on, ())

/-- Sets the backend address, without the white space around it. -/
def setBackendUrl (s : Session) (url : String) : Edited Unit :=
  let url := Text.trim url
  match Input.checkBackendUrl url with
  | .error r => s.refuse r.toError
  | .ok () => s.change fun t => ({ t with backendUrl := url }, ())

/-! ## Actions -/

/-- What a failed action logs. -/
def errorLine (e : ActionError) : Log.Line :=
  ⟨.error, .editor, e.message⟩

/-- A failed action, kept for display. -/
def fail {α : Type} (s : Session) (e : ActionError) : Edited α :=
  { result := .error e, session := { s with lastError := some e }, log := [errorLine e] }

/-- What generating logs when a palette was applied, or none. -/
def generatedLine (mode : Mode) : Bool → Log.Line
  | true => ⟨.info, .editor, s!"Applied generated {mode.name} palette"⟩
  | false => ⟨.warn, .editor, s!"Theme service returned no {mode.name} palettes"⟩

/-- Applies a palette of a mode; tells whether the settings changed.  A failure is
kept for display. -/
def generate (ask : Mode → UInt8 → Answer) (s : Session) (mode : Mode) : Step Bool :=
  let s := s.clearError
  let fetched := s.world.supply.fetch ask mode
  let s := { s with world := { s.world with supply := fetched.supply } }
  match fetched.outcome with
  | .error e =>
      let e := ActionError.ofFetch e
      { result := false
        session := { s with lastError := some e }
        log := fetched.log ++ [errorLine e]
        request := fetched.request }
  | .ok palette =>
      let done := Palette.apply s.settings palette s.world.supply.words
      let supply := { s.world.supply with words := done.words }
      let (store, seen) := s.store.set done.settings
      { result := done.applied
        session := { s with store, world := { s.world with supply } }
        seen
        log := fetched.log ++ [generatedLine mode done.applied]
        request := fetched.request }

/-- Replaces the settings with a document. -/
def importFrom (s : Session) (path : String) : Edited Unit :=
  let s := s.clearError
  match Storage.importFrom s.world.disk path with
  | .error e => s.fail e.toActionError
  | .ok settings =>
      let (store, seen) := s.store.set settings
      { result := .ok (), session := { s with store }, seen, log := [Storage.importLine path] }

/-- Copies the persisted settings into a directory; unsaved edits are left out. -/
def exportTo (s : Session) (directory : String) : Edited String :=
  let s := s.clearError
  match s.storage.exportTo s.world.disk directory with
  | (.error e, disk) => { s with world := { s.world with disk } }.fail e.toActionError
  | (.ok path, disk) =>
      { result := .ok path
        session := { s with world := { s.world with disk } }
        log := [Storage.exportLine path] }

/-- Replaces the settings with the built-in ones. -/
def reset (s : Session) : Step Unit :=
  let (store, seen) := s.store.set .default
  { result := (), session := { s with store }, seen,
    log := [⟨.info, .editor, "Settings reset to defaults"⟩] }

/-- Persists the settings; they become the pristine copy. -/
def save (s : Session) : Edited Unit :=
  let s := s.clearError
  match s.storage.save s.world.disk s.settings with
  | (.error e, disk) => { s with world := { s.world with disk } }.fail e.toActionError
  | (.ok (), disk) =>
      { result := .ok ()
        session := { s with pristine := s.settings, world := { s.world with disk } }
        log := [s.storage.saveLine] }

/-- Ends the session, saving it or returning to the pristine settings; the result
is the settings then in effect. -/
def close (s : Session) (saving : Bool) : Edited Settings :=
  if saving then
    let step := s.save
    { step with result := step.result.map fun () => step.session.pristine }
  else if s.isDirty then
    let (store, seen) := s.store.set s.pristine
    { result := .ok s.pristine, session := { s with store }, seen,
      log := [⟨.info, .editor, "Discarding unsaved settings changes"⟩] }
  else { result := .ok s.pristine, session := s }

end Session

/-- The step after its lines were logged.  A step logs when it is done with the disk. -/
def Step.recorded {α : Type} (record : Recorder) (step : Step α) : Step α :=
  { step with session := step.session.recorded record step.log }

end ThemeEditor
