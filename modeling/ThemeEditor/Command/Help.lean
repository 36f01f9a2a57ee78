/-
# ThemeEditor.Command.Help -- what is said of the command line itself
-/
import ThemeEditor.Command.Grammar

namespace ThemeEditor.Usage

set_option autoImplicit false

/-- The name and version of the program. -/
def versionText : String :=
  "palette-studio 0.1.0\n"

/-- The overview of commands and options. -/
def helpText : String :=
  "\n".intercalate [
    "Edit color theme settings and generate palettes from the theme service",
    "",
    "Usage: palette-studio [OPTIONS] <COMMAND>",
    "",
    "Commands:",
    "  show           Print the current settings as JSON",
    "  generate       Apply a generated palette for a mode",
    "  set            Set one of the named color fields",
    "  add-accent     Add a color to the accent list",
    "  remove-accent  Remove a color from the accent list by position",
    "  flag           Turn a feature flag on or off",
    "  backend-url    Set the backend URL (empty to clear)",
    "  import         Replace the settings with a JSON file",
    "  export         Write the saved settings to settings.json in a directory",
    "  reset          Restore the built-in defaults",
    "  init-config    Write a default config.toml to the config directory",
    "  help           Print this message or the help of the given subcommand(s)",
    "",
    "Options:",
    "      --config <CONFIG>  Path to config.toml " ++
      "(defaults to ~/.config/palette-studio/config.toml)",
    "  -h, --help             Print help",
    "  -V, --version          Print version",
    ""]

namespace Stop

/-- Why the command line cannot be carried out. -/
def reason : Stop → String
  | help | version | helpForNothing => ""
  | missingCommand => "a command is required"
  | unknownCommand => "there is no such command"
  | unknownArgument => "an argument was found that is not expected"
  | tooManyValues => "an option was given a value that takes none"
  | repeated => "an option was given more than once"
  | invalidValue => "an argument has none of its possible values"
  | unreadableValue => "an argument has an invalid value"
  | missingArgument => "an argument is missing"

/-- Whether what was asked for is only printed. -/
def isAnswered : Stop → Bool
  | help | version => true
  | _ => false

/-- What is printed. -/
def text : Stop → String
  | help | helpForNothing => helpText
  | version => versionText
  | stop => s!"error: {stop.reason}\n\nFor more information, try --help.\n"

end Stop

end ThemeEditor.Usage
