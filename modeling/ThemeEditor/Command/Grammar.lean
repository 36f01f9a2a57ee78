/-
# ThemeEditor.Command.Grammar -- from the words of a command line to a command

A command line is a word that names a command, with options on either side of
it, and the arguments of the command in order.  A `Form` says which arguments and
options may stand at one level; the option for the configuration file may stand
at both, and the inner one counts.

An argument is not looked at before the next word that is understood, or the end
(`Progress.resolve`).  So a word that is not understood at all is reported first,
and of two bad arguments the earlier one.
-/
import ThemeEditor.Command.Basic

namespace ThemeEditor.Usage

set_option autoImplicit false

/-- Why a command line is not carried out. -/
inductive Stop where
  | help
  | version
  | helpForNothing
  | missingCommand
  | unknownCommand
  | unknownArgument
  | tooManyValues
  | repeated
  | invalidValue
  | unreadableValue
  | missingArgument
  deriving DecidableEq, Repr

/-- What an argument has to be. -/
inductive Kind where
  | text
  | path
  | onOff
  | mode
  | role
  | place
  deriving DecidableEq, Repr

/-- An argument that was understood. -/
inductive Argument where
  | text (value : String)
  | onOff (value : Bool)
  | mode (value : Mode)
  | role (value : ColorRole)
  | place (value : Nat)
  deriving DecidableEq, Repr

/-! ## Single arguments -/

/-- A natural number in decimal digits, with a plus sign or without. -/
def readPlace? (word : String) : Option Nat :=
  let digits := match word.toList with
    | '+' :: r => r
    | cs => cs
  if digits.isEmpty || !digits.all Char.isDigit then none
  else
    let n := digits.foldl (fun n c => n * 10 + (c.toNat - '0'.toNat)) 0
    if n < UInt64.size then some n else none

/-- Reads a word as an argument of a kind. -/
def readArgument (kind : Kind) (word : String) : Except Stop Argument :=
  match kind with
  | .text => .ok (.text word)
  | .path => if word = "" then .error .invalidValue else .ok (.text word)
  | .onOff =>
      if word = "true" then .ok (.onOff true)
      else if word = "false" then .ok (.onOff false)
      else .error .invalidValue
  | .mode =>
      match Mode.ofName? word with
      | some m => .ok (.mode m)
      | none => .error .unreadableValue
  | .role =>
      match ColorRole.ofName? word with
      | some r => .ok (.role r)
      | none => .error .unreadableValue
  | .place =>
      match readPlace? word with
      | some n => .ok (.place n)
      | none => .error .unreadableValue

/-! ## The words of one level -/

/-- What may stand at a level. -/
structure Form where
  arguments : List Kind := []
  hasSave : Bool := false
  hasDirectory : Bool := false
  hasVersion : Bool := false

/-- Where the next value goes. -/
inductive Slot where
  | argument (kind : Kind)
  | config
  | directory
  deriving DecidableEq, Repr

/-- What is read of a level so far. -/
structure Progress where
  /-- The arguments that were understood, in order. -/
  arguments : List Argument := []
  /-- The number of arguments met. -/
  count : Nat := 0
  save : Bool := false
  config : Option String := none
  directory : Option String := none
  /-- A value that waits to be looked at, or a slot that waits for its value. -/
  pending : Option (Slot × Option String) := none
  /-- Whether the next word is the value of an option. -/
  awaiting : Bool := false
  /-- Whether only arguments may follow. -/
  escaped : Bool := false

namespace Progress

/-- Takes the value of a slot. -/
def take (p : Progress) (slot : Slot) (value : Option String) : Except Stop Progress :=
  match slot, value with
  | _, none => .error .invalidValue
  | .argument kind, some word =>
      match readArgument kind word with
      | .error stop => .error stop
      | .ok a => .ok { p with arguments := p.arguments ++ [a] }
  | .config, some word =>
      if p.config.isSome then .error .repeated
      else if word = "" then .error .invalidValue
      else .ok { p with config := some word }
  | .directory, some word =>
      if p.directory.isSome then .error .repeated
      else if word = "" then .error .invalidValue
      else .ok { p with directory := some word }

/-- Looks at the value that waits. -/
def resolve (p : Progress) : Except Stop Progress :=
  match p.pending with
  | none => .ok p
  | some (slot, value) => { p with pending := none }.take slot value

/-- An option that takes a value, attached to it or as the next word. -/
def option (p : Progress) (slot : Slot) (attached : Option String) : Except Stop Progress :=
  match p.resolve with
  | .error stop => .error stop
  | .ok p =>
      match attached with
      | some value => { p with awaiting := false }.take slot (some value)
      | none => .ok { p with pending := some (slot, none), awaiting := true }

/-- The option that asks to save. -/
def saveOption (p : Progress) : Except Stop Progress :=
  match p.resolve with
  | .error stop => .error stop
  | .ok p => if p.save then .error .repeated else .ok { p with save := true, awaiting := false }

/-- An option that ends the reading. -/
def ending (p : Progress) (stop : Stop) : Except Stop Progress :=
  match p.resolve with
  | .error earlier => .error earlier
  | .ok _ => .error stop

/-- A word that begins with two hyphens, without them. -/
def long (form : Form) (p : Progress) (word : List Char) : Except Stop Progress :=
  let name := String.ofList (word.takeWhile (· ≠ '='))
  let attached := (word.dropWhile (· ≠ '=')).tail?.map String.ofList
  if name = "config" then p.option .config attached
  else if name = "dir" && form.hasDirectory then p.option .directory attached
  else
    let plain : Option (Except Stop Progress) :=
      if name = "save" && form.hasSave then some p.saveOption
      else if name = "help" then some (p.ending .help)
      else if name = "version" && form.hasVersion then some (p.ending .version)
      else none
    match plain, attached with
    | none, _ => .error .unknownArgument
    | some _, some _ => .error .tooManyValues
    | some read, none => read

/-- A word that begins with one hyphen, without it. -/
def short (form : Form) (p : Progress) : List Char → Except Stop Progress
  | 'h' :: _ => p.ending .help
  | 'V' :: _ => if form.hasVersion then p.ending .version else .error .unknownArgument
  | _ => .error .unknownArgument

/-- A word that is no option. -/
def plain (form : Form) (p : Progress) (word : String) : Except Stop Progress :=
  match form.arguments[p.count]? with
  | none => .error .unknownArgument
  | some kind =>
      match p.resolve with
      | .error stop => .error stop
      | .ok p =>
          .ok { p with
            pending := some (.argument kind, some word)
            count := p.count + 1
            awaiting := false }

/-- Gives the option that waits for it its value. -/
def supply (p : Progress) (word : String) : Progress :=
  { p with pending := p.pending.map fun s => (s.1, some word), awaiting := false }

/-- Reads one word. -/
def word (form : Form) (p : Progress) (w : String) : Except Stop Progress :=
  if p.escaped then p.plain form w
  else
    match w.toList with
    | ['-', '-'] => .ok { p with escaped := true }
    | '-' :: '-' :: r => p.long form r
    | '-' :: c :: r => p.short form (c :: r)
    | _ => if p.awaiting then .ok (p.supply w) else p.plain form w

/-- Reads words to the end. -/
def words (form : Form) : Progress → List String → Except Stop Progress
  | p, [] => p.resolve
  | p, w :: ws =>
      match p.word form w with
      | .error stop => .error stop
      | .ok p => words form p ws

end Progress

/-! ## Commands -/

/-- A command as it is written: its name, its form, and what its arguments mean. -/
structure Entry where
  name : String
  form : Form
  build : List Argument → Bool → String → Option Command

/-- The commands. -/
def entries : List Entry :=
  [{ name := "show", form := {}
     build := fun | [], _, _ => some .show | _, _, _ => none },
   { name := "generate", form := { arguments := [.mode], hasSave := true }
     build := fun | [.mode m], save, _ => some (.generate m save) | _, _, _ => none },
   { name := "set", form := { arguments := [.role, .text], hasSave := true }
     build := fun
       | [.role r, .text t], save, _ => some (.set r t save)
       | _, _, _ => none },
   { name := "add-accent", form := { arguments := [.text], hasSave := true }
     build := fun | [.text t], save, _ => some (.addAccent t save) | _, _, _ => none },
   { name := "remove-accent", form := { arguments := [.place], hasSave := true }
     build := fun | [.place n], save, _ => some (.removeAccent n save) | _, _, _ => none },
   { name := "flag", form := { arguments := [.text, .onOff], hasSave := true }
     build := fun
       | [.text t, .onOff b], save, _ => some (.flag t b save)
       | _, _, _ => none },
   { name := "backend-url", form := { arguments := [.text], hasSave := true }
     build := fun | [.text t], save, _ => some (.backendUrl t save) | _, _, _ => none },
   { name := "import", form := { arguments := [.path], hasSave := true }
     build := fun | [.text t], save, _ => some (.importFile t save) | _, _, _ => none },
   { name := "export", form := { hasDirectory := true }
     build := fun | [], _, directory => some (.exportTo directory) | _, _, _ => none },
   { name := "reset", form := { hasSave := true }
     build := fun | [], save, _ => some (.reset save) | _, _, _ => none },
   { name := "init-config", form := {}
     build := fun | [], _, _ => some .initConfig | _, _, _ => none }]

/-- The command of a name. -/
def named? (name : String) : Option Entry :=
  entries.find? fun e => e.name = name

/-- The directory of an export that names none. -/
def defaultDirectory : String := "."

/-- Reads what follows the name of a command. -/
def readCommand (entry : Entry) (ws : List String) :
    Except Stop (Command × Option String) :=
  match Progress.words entry.form {} ws with
  | .error stop => .error stop
  | .ok p =>
      match entry.build p.arguments p.save (p.directory.getD defaultDirectory) with
      | none => .error .missingArgument
      | some command => .ok (command, p.config)

/-- A command line that was understood. -/
structure Invocation where
  command : Command
  /-- The path of the configuration file, if it is given. -/
  config : Option String
  deriving DecidableEq, Repr

/-- What may stand before the name of a command. -/
def topForm : Form :=
  { hasVersion := true }

/-- What follows the word `help`: names of commands, of which none has commands of
its own. -/
def afterHelp : List String → Stop
  | [] => .help
  | [name] => if (named? name).isSome || name = "help" then .help else .unknownCommand
  | _ => .unknownCommand

/-- The end of a command line that names no command. -/
def withoutCommand (p : Progress) : Stop :=
  match p.resolve with
  | .error stop => stop
  | .ok p => if p.config.isSome then .missingCommand else .helpForNothing

/-- A word that stands where only a command may and is none. -/
def notCommand (p : Progress) (word : String) : Stop :=
  if p.escaped && ((named? word).isSome || word = "help") then .unknownArgument
  else .unknownCommand

/-- Whether a word is looked at as an option at all. -/
def isOption (word : String) : Bool :=
  match word.toList with
  | '-' :: _ :: _ => true
  | _ => false

/-- Reads the words up to the name of the command and from there on. -/
def readFrom (p : Progress) : List String → Except Stop Invocation
  | [] => .error (withoutCommand p)
  | w :: ws =>
      if p.escaped then .error (notCommand p w)
      else if p.awaiting || isOption w then
        match p.word topForm w with
        | .error stop => .error stop
        | .ok p => readFrom p ws
      else if w = "help" then .error (afterHelp ws)
      else
        match named? w with
        | none => .error (notCommand p w)
        | some entry =>
            match readCommand entry ws with
            | .error stop => .error stop
            | .ok (command, config) =>
                match p.resolve with
                | .error stop => .error stop
                | .ok p => .ok ⟨command, config <|> p.config⟩

/-- Reads a command line. -/
def read (ws : List String) : Except Stop Invocation :=
  readFrom {} ws

end ThemeEditor.Usage
