/-
# ThemeEditor.Command.Run -- carrying out a command in a session of its own

A command opens a session, does its work, and closes the session, saving it if
that was asked for.  A failure on the way leaves the session where it is, so
nothing is saved.
-/
import ThemeEditor.Command.Basic
import ThemeEditor.Session.Basic

namespace ThemeEditor

set_option autoImplicit false

/-- What a command did: the settings in effect after it or its failure, the world
it leaves, what it printed and logged, and the request it made. -/
structure Ran where
  result : Except ActionError Settings
  world : World
  output : String := ""
  log : List Log.Line := []
  request : Option Request := none

namespace Command

/-- A line of output. -/
def line (text : String) : String :=
  text ++ "\n"

/-- The settings as they are printed. -/
def shown (s : Session) : String :=
  line s.settings.encodeIndented

/-- What is printed when a command changed settings without saving them. -/
def unsavedHint (save : Bool) (s : Session) : String :=
  if !save && s.isDirty then line "Changes not saved; pass --save to keep them." else ""

/-- Closes the session after the work of a command. -/
def conclude (record : Recorder) (save : Bool) (s : Session) (output : String)
    (log : List Log.Line) (request : Option Request) : Ran :=
  let closed := (s.close save).recorded record
  { result := closed.result
    world := closed.session.world
    output := output ++ unsavedHint save s
    log := log ++ closed.log
    request := request }

/-- Goes on after a form binding or an action, unless it failed. -/
def after {α : Type} (record : Recorder) (save : Bool) (step : Session.Edited α)
    (output : α → Session → String) : Ran :=
  let step := step.recorded record
  match step.result with
  | .error e =>
      { result := .error e, world := step.session.world, log := step.log,
        request := step.request }
  | .ok a => conclude record save step.session (output a step.session) step.log step.request

/-- What a generating command prints when there was no palette. -/
def noPalettes (mode : Mode) : String :=
  line s!"The theme service returned no {mode.name} palettes; settings unchanged."

/-- Generates a palette. -/
def runGenerate (record : Recorder) (ask : Mode → UInt8 → Answer) (mode : Mode) (save : Bool)
    (s : Session) : Ran :=
  let step := (s.generate ask mode).recorded record
  match step.result, step.session.lastError with
  | false, some e =>
      { result := .error e, world := step.session.world, log := step.log,
        request := step.request }
  | applied, _ =>
      conclude record save step.session
        ((if applied then "" else noPalettes mode) ++ shown step.session) step.log step.request

/-- Carries out a command in an open session. -/
def runIn (record : Recorder) (ask : Mode → UInt8 → Answer) (s : Session) : Command → Ran
  | «show» => conclude record false s (shown s) [] none
  | generate mode save => runGenerate record ask mode save s
  | set role value save => after record save (s.setColor role value) fun _ _ => ""
  | addAccent value save => after record save (s.pushAccent value) fun _ _ => ""
  | removeAccent index save =>
      after record save (s.removeAccent index) fun color _ =>
        line s!"Removed accent {color.text}"
  | flag name on save => after record save (s.setFlag name on) fun _ _ => ""
  | backendUrl url save => after record save (s.setBackendUrl url) fun _ _ => ""
  | importFile path save => after record save (s.importFrom path) fun _ s => shown s
  | exportTo directory =>
      after record false (s.exportTo directory) fun path _ =>
        line s!"Exported settings to {path}"
  | reset save =>
      let step := s.reset.recorded record
      conclude record save step.session "" step.log step.request
  | initConfig => conclude record false s "" [] none

/-- Opens the session that a command runs in. -/
def openSession (command : Command) (storage : Storage) (world : World) :
    Except ActionError Session × List Log.Line :=
  if command.replacesSettings then Session.openDiscarding storage world
  else Session.openOn storage world

/-- Carries out a command in a session of its own, with its log kept elsewhere. -/
def run (ask : Mode → UInt8 → Answer) (storage : Storage) (world : World) (command : Command) :
    Ran :=
  match command.openSession storage world with
  | (.error e, log) => { result := .error e, world, log }
  | (.ok s, log) =>
      let ran := runIn .elsewhere ask s command
      { ran with log := log ++ ran.log }

end Command

end ThemeEditor
