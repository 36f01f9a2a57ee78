/-
# ThemeEditor.Log.Line -- what a log says

A line has a level, the topic it belongs to, and a text.  The level is colored
for a terminal; the time in front of a line is the business of whoever writes
it.
-/
import ThemeEditor.Text.Lower

namespace ThemeEditor.Log

set_option autoImplicit false

/-- How much a line matters, from the least on. -/
inductive Level where
  | trace
  | debug
  | info
  | warn
  | error
  deriving DecidableEq, Repr

namespace Level

/-- The place of a level in the order. -/
def rank : Level → Nat
  | trace => 1
  | debug => 2
  | info => 3
  | warn => 4
  | error => 5

def title : Level → String
  | trace => "TRACE"
  | debug => "DEBUG"
  | info => "INFO"
  | warn => "WARN"
  | error => "ERROR"

/-- The number of the terminal color of a level. -/
def color : Level → Nat
  | trace => 90
  | debug => 94
  | info => 32
  | warn => 33
  | error => 31

end Level

/-- What a line is about. -/
inductive Topic where
  | program
  | editor
  | logger
  | config
  | storage
  | palettes
  | fetcher
  | service
  | connection
  deriving DecidableEq, Repr

/-- The name of a topic in a log. -/
def Topic.name : Topic → String
  | .program => "palette_studio"
  | .editor => "studio::editor"
  | .logger => "studio::logger"
  | .config => "studio::config::app"
  | .storage => "engine::storage"
  | .palettes => "engine::palette"
  | .fetcher => "engine::theme::fetcher"
  | .service => "engine::theme::source"
  | .connection => "reqwest::connect"

/-- A line of a log. -/
structure Line where
  level : Level
  topic : Topic
  text : String
  deriving DecidableEq, Repr

namespace Line

/-- The line behind its time. -/
def afterTime (line : Line) : String :=
  s!"\x1b[{line.level.color}m{line.level.title}\x1b[0m {line.topic.name}] {line.text}\n"

end Line

/-- The least level that is written: a name in any letter case, `info` for any
other word.  Nothing is written when it is `none`. -/
def threshold (name : String) : Option Level :=
  match Text.lower name with
  | "trace" => some .trace
  | "debug" => some .debug
  | "warn" => some .warn
  | "error" => some .error
  | "off" => none
  | _ => some .info

/-- Whether a line is written under a threshold. -/
def admits (threshold : Option Level) (line : Line) : Bool :=
  match threshold with
  | none => false
  | some level => level.rank ≤ line.level.rank

end ThemeEditor.Log
