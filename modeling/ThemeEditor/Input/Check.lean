/-
# ThemeEditor.Input.Check -- what may be typed into the editor

Colors, backend addresses and flag names are checked when they are typed in by
hand, and nowhere else.  Each check either accepts or gives one reason.
-/
import ThemeEditor.ActionError
import ThemeEditor.Text.Alphanumeric
import ThemeEditor.Text.Blank
import ThemeEditor.Text.Lower

namespace ThemeEditor.Input

set_option autoImplicit false

/-- A rejected input with the reason. -/
inductive Rejection where
  | color (value : String) (reason : String)
  | backendUrl (url : String) (reason : String)
  | flagName (name : String) (reason : String)
  deriving DecidableEq, Repr

namespace Rejection

/-- The text shown beside the rejected input. -/
def userMessage : Rejection → String
  | color value reason =>
      s!"Invalid color: '{value}'\n\nReason: {reason}\n\n" ++
        "Use #rgb, #rgba, #rrggbb, #rrggbbaa or a basic color name."
  | backendUrl url reason =>
      s!"Invalid backend URL: '{url}'\n\nReason: {reason}\n\n" ++
        "Leave it empty or use an http:// or https:// address."
  | flagName name reason => s!"Invalid feature flag name: '{name}'\n\nReason: {reason}"

def toError (r : Rejection) : ActionError :=
  ⟨.validation, r.userMessage⟩

end Rejection

/-! ## Colors -/

/-- The colors that have a name. -/
def namedColors : List String :=
  ["black", "white", "red", "green", "blue", "yellow", "magenta", "cyan", "gray", "grey",
   "orange", "purple", "pink", "brown", "navy", "teal", "silver", "transparent"]

/-- The ASCII hexadecimal digits. -/
def isHexDigit (c : Char) : Bool :=
  ('0' ≤ c && c ≤ '9') || ('a' ≤ c && c ≤ 'f') || ('A' ≤ c && c ≤ 'F')

/-- Why the characters behind a number sign are no color, if they are none.  The
length is counted in bytes. -/
def hexFault? (digits : List Char) : Option String :=
  if (String.ofList digits).utf8ByteSize ∉ [3, 4, 6, 8] then
    some "Hex colors need 3, 4, 6 or 8 digits"
  else if digits.all isHexDigit then none
  else some "Hex colors may only contain 0-9 and a-f"

/-- Why a text is no color, if it is none. -/
def colorFault? (value : String) : Option String :=
  if value.toList.all Text.isBlank then some "Color cannot be empty"
  else
    match value.toList with
    | '#' :: digits => hexFault? digits
    | _ => if Text.lower value ∈ namedColors then none else some "Unknown color name"

def checkColor (value : String) : Except Rejection Unit :=
  match colorFault? value with
  | none => .ok ()
  | some reason => .error (.color value reason)

/-! ## Backend addresses -/

/-- What follows the scheme of a web address. -/
def afterScheme? (url : List Char) : Option (List Char) :=
  if "https://".toList.isPrefixOf url then some (url.drop 8)
  else if "http://".toList.isPrefixOf url then some (url.drop 7)
  else none

/-- Why a text is no backend address, if it is none.  The empty text switches the
backend off. -/
def backendUrlFault? (url : String) : Option String :=
  if url = "" then none
  else
    match afterScheme? url.toList with
    | none => some "URL must start with http:// or https://"
    | some rest =>
        if rest.isEmpty || rest.head? = some '/' then some "URL is missing a host"
        else if url.toList.any Text.isBlank then some "URL cannot contain whitespace"
        else none

def checkBackendUrl (url : String) : Except Rejection Unit :=
  match backendUrlFault? url with
  | none => .ok ()
  | some reason => .error (.backendUrl url reason)

/-! ## Flag names -/

/-- The characters of a flag name: letters and numbers of any script, and two marks. -/
def isFlagChar (c : Char) : Bool :=
  Text.isAlphanumeric c || c = '-' || c = '_'

/-- Why a text is no flag name, if it is none.  The length is counted in bytes. -/
def flagNameFault? (name : String) : Option String :=
  if name = "" then some "Name cannot be empty"
  else if 50 < name.utf8ByteSize then some "Name too long (max 50 characters)"
  else if name.toList.all isFlagChar then none
  else some ("Name contains invalid characters " ++
    "(only alphanumeric, hyphens, and underscores allowed)")

def checkFlagName (name : String) : Except Rejection Unit :=
  match flagNameFault? name with
  | none => .ok ()
  | some reason => .error (.flagName name reason)

end ThemeEditor.Input
