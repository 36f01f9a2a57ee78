/-
# ThemeEditor.Program.Basic -- one run of the program

A run reads the command line, and then, unless it is only to write a first
configuration, puts the configuration together, opens the log, and carries out
the command in a session of its own.  All that it starts from is given: the
words, the variables, the disk, the network and the time that its log shows.
What it leaves is a value, too.
-/
import ThemeEditor.Command.Help
import ThemeEditor.Command.Run
import ThemeEditor.Config.Create
import ThemeEditor.Config.Dotenv
import ThemeEditor.Config.Load
import ThemeEditor.Theme.Service

namespace ThemeEditor.Program

set_option autoImplicit false

/-- What a run starts from. -/
structure Start where
  arguments : List String
  environment : Environment
  disk : Disk
  network : Web.Network
  words : Random.WordSource
  /-- The time, as the log shows it. -/
  time : String

/-- What a run leaves. -/
structure Outcome where
  code : UInt8
  output : String := ""
  errors : String := ""
  disk : Disk
  /-- The places on the network that were asked. -/
  hops : List Web.Hop := []
  /-- The seconds for which a response is waited for. -/
  patience : Option UInt64 := none

/-- A run that fails before the log is open. -/
def failed (d : Disk) (message : String) : Outcome :=
  { code := 1, errors := s!"Error: {message}\n", disk := d }

/-! ## A first configuration -/

/-- The message of a failure to write a configuration, with its cause. -/
def createMessage (e : Config.CreateError) : String :=
  s!"{e.message}\n\nCaused by:\n    {e.fault.text}"

/-- Writes a first configuration. -/
def createConfig (s : Start) : Outcome :=
  match s.environment.configDirectory? with
  | none => failed s.disk Environment.noDirectoryMessage
  | some directory =>
      match Config.create s.disk directory with
      | (.error e, d) => failed d (createMessage e)
      | (.ok created, d) =>
          let text :=
            if created.isNew then "Wrote default config to " else "Config already exists at "
          { code := 0, output := s!"{text}{created.path}\n", disk := d }

/-! ## The log -/

/-- Where the lines of a log go. -/
structure Logger where
  threshold : Option Log.Level
  /-- The file of the log; without one the lines are errors. -/
  file : Option String

/-- The text of the lines that are written. -/
def Logger.text (logger : Logger) (time : String) (lines : List Log.Line) : String :=
  String.join ((lines.filter (Log.admits logger.threshold)).map fun line =>
    s!"[{time} {line.afterTime}")

/-- The errors that lines become. -/
def Logger.errors (logger : Logger) (time : String) (lines : List Log.Line) : String :=
  match logger.file with
  | none => logger.text time lines
  | some _ => ""

/-- The disk with lines in the file of the log, if it has one. -/
def Logger.record (logger : Logger) (time : String) : Recorder := fun lines d =>
  match logger.file with
  | none => d
  | some path =>
      match d.appendText path (logger.text time lines) with
      | .ok d => d
      | .error _ => d

/-- What is said when the file of the log cannot be opened. -/
def fileWarning (path : String) (f : Disk.Fault) : String :=
  s!"Warning: Failed to open log file '{path}': {f.text}\nContinuing with logging to stderr.\n"

/-- Opens the log: the errors so far, and the disk with its file. -/
def openLog (config : Config) (d : Disk) : Logger × String × Disk :=
  let threshold := Log.threshold config.logLevel
  match config.log.file? with
  | none => (⟨threshold, none⟩, "", d)
  | some path =>
      match d.appendText path "" with
      | .ok d => (⟨threshold, some path⟩, "", d)
      | .error f => (⟨threshold, none⟩, fileWarning path f, d)

/-- The lines at the start of a run. -/
def startLines (config : Config) (env : Environment) : List Log.Line :=
  [⟨.debug, .logger, s!"Logger initialized with level: {config.logLevel}"⟩,
   ⟨.info, .program, "Starting palette-studio"⟩] ++ config.storageLog env

/-! ## Commands -/

/-- What a session did: what it printed and logged, its failure, the disk after it, and
the places that were asked. -/
structure Worked where
  output : String := ""
  log : List Log.Line := []
  failure : Option String := none
  disk : Disk
  hops : List Web.Hop := []

/-- Carries out a command. -/
def work (s : Start) (config : Config) (env : Environment) (command : Command)
    (record : Recorder) (d : Disk) : Worked :=
  let ask := Service.ask s.network config.serviceUrl
  let fetcher := Fetcher.new.withFileCount config.fileCount
  let world : World := ⟨d, ⟨.empty, fetcher, s.words⟩⟩
  match command.openSession ⟨config.storageDirectory env⟩ world with
  | (.error e, log) => { log, failure := some e.message, disk := record log d }
  | (.ok session, log) =>
      let ran := Command.runIn record (fun mode index => (ask mode index).toAnswer)
        (session.recorded record log) command
      let hops := match ran.request with
        | some r => (ask r.mode r.index).hops
        | none => []
      let log := log ++ ran.log
      match ran.result with
      | .ok _ => { output := ran.output, log, disk := ran.world.disk, hops }
      | .error e =>
          let last : Log.Line := ⟨.error, .program, e.message⟩
          { output := ran.output
            log := log ++ [last]
            failure := some e.userMessage
            disk := record [last] ran.world.disk
            hops }

/-- Carries out a command under a configuration. -/
def runConfigured (s : Start) (config : Config) (env : Environment) (command : Command) :
    Outcome :=
  let (logger, warning, d) := openLog config s.disk
  let record := logger.record s.time
  let early := startLines config env
  let worked := work s config env command record (record early d)
  let (code, failure) : UInt8 × String := match worked.failure with
    | none => (0, "")
    | some message => (1, s!"Error: {message}\n")
  { code
    output := worked.output
    errors := warning ++ logger.errors s.time (early ++ worked.log) ++ failure
    disk := worked.disk
    hops := worked.hops
    patience := config.timeout? }

/-! ## Runs -/

/-- A run that ends with its command line. -/
def stopped (d : Disk) (stop : Usage.Stop) : Outcome :=
  if stop.isAnswered then { code := 0, output := stop.text, disk := d }
  else { code := 2, errors := stop.text, disk := d }

/-- One run. -/
def run (s : Start) : Outcome :=
  match Usage.read s.arguments with
  | .error stop => stopped s.disk stop
  | .ok invocation =>
      if invocation.command = .initConfig then createConfig s
      else
        let env := Dotenv.extend s.disk s.environment
        match Config.load s.disk env invocation.config with
        | .error e => failed s.disk e.message
        | .ok config => runConfigured s config env invocation.command

end ThemeEditor.Program
