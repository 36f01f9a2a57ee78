/-
# ThemeEditor.Json.Fault -- what is wrong with a JSON text, and where

A reader works on the characters not yet read.  When it stops it returns a
`Fault`: the cause and a place, given by the characters from which the place is
counted.  `Fault.locate` turns the place into a line and a column of the whole
text; columns count bytes of UTF-8, and a place past the end is the end.

A fault *before* a character points at it and is counted as if its first byte
had been read; a fault *after* some characters is counted where they end.
-/
import ThemeEditor.Number.Shortest
import ThemeEditor.Text.Quoted

namespace ThemeEditor.Json

set_option autoImplicit false

/-- A number of a JSON text: an integer of 64 bits, with or without sign, or a double. -/
inductive Number where
  | integer (value : Int)
  | floating (value : Double)
  deriving DecidableEq, Repr, Inhabited

/-- Doubles are written with the fewest digits, positionally from `0.00001` up to
sixteen places before the point. -/
def floatStyle : Number.FloatStyle where
  lowest := -5
  highest := 15
  keepsFraction := true
  undefined := "null"
  infinite := "null"

/-- What a reader came upon in place of the value it expected. -/
inductive Found where
  | null
  | boolean (value : Bool)
  | number (value : Number)
  | text (value : String)
  | list
  | object
  deriving DecidableEq, Repr

/-- The reasons for which a JSON text is refused. -/
inductive Cause where
  | endInValue
  | endInList
  | endInObject
  | endInText
  | expectedValue
  | expectedWord
  | expectedColon
  | expectedCommaOrBracket
  | expectedCommaOrBrace
  | keyNotText
  | trailingComma
  | trailingCharacters
  | invalidNumber
  | numberOutOfRange
  | controlCharacter
  | invalidEscape
  | loneSurrogate
  | endOfSurrogate
  | tooDeep
  | wrongType (found : Found) (expected : String)
  | wrongValue (found : Found) (expected : String)
  | unknownVariant (name : String) (known : List String)
  | missingField (name : String)
  | duplicateField (name : String)
  | wrongLength (count : Nat) (expected : String)
  deriving DecidableEq, Repr

/-- A cause and its place: `ahead` bytes into the characters `rest`. -/
structure Fault where
  cause : Cause
  rest : List Char
  ahead : Nat
  deriving DecidableEq, Repr

namespace Fault

/-- A fault at the next character. -/
def before (cause : Cause) (rest : List Char) : Fault :=
  ⟨cause, rest, 1⟩

/-- A fault of the characters already read. -/
def after (cause : Cause) (rest : List Char) : Fault :=
  ⟨cause, rest, 0⟩

end Fault

/-- A refused text: the cause with its line and column. -/
structure Refusal where
  cause : Cause
  line : Nat
  column : Nat
  deriving DecidableEq, Repr

/-- The size of some characters in UTF-8. -/
def byteSize (cs : List Char) : Nat :=
  cs.foldl (fun n c => n + c.utf8Size) 0

/-- The line and column after `bytes` bytes of the text. -/
def positionFrom : List Char → Nat → Nat → Nat → Nat × Nat
  | [], _, line, column => (line, column)
  | c :: cs, bytes, line, column =>
      if bytes = 0 then (line, column)
      else if c = '\n' then positionFrom cs (bytes - 1) (line + 1) 0
      else if bytes < c.utf8Size then (line, column + bytes)
      else positionFrom cs (bytes - c.utf8Size) line (column + c.utf8Size)

/-- The place of a fault in the whole text. -/
def Fault.locate (fault : Fault) (text : List Char) : Refusal :=
  let size := byteSize text
  let place := min size (size - byteSize fault.rest + fault.ahead)
  let (line, column) := positionFrom text place 1 0
  ⟨fault.cause, line, column⟩

/-! ## Wording -/

def Number.written : Number → String
  | .integer n => toString n
  | .floating d => floatStyle.write d

def Found.wording : Found → String
  | .null => "null"
  | .boolean b => s!"boolean `{b}`"
  | .number (.integer n) => s!"integer `{n}`"
  | .number (.floating d) => s!"floating point `{floatStyle.write d}`"
  | .text s => s!"string {Text.quoted s}"
  | .list => "sequence"
  | .object => "map"

/-- Two alternatives, or more, as a message lists them. -/
def alternatives : List String → String
  | [] => "there are no variants"
  | [a] => s!"expected `{a}`"
  | [a, b] => s!"expected `{a}` or `{b}`"
  | names => "expected one of " ++ ", ".intercalate (names.map fun name => s!"`{name}`")

def Cause.wording : Cause → String
  | .endInValue => "EOF while parsing a value"
  | .endInList => "EOF while parsing a list"
  | .endInObject => "EOF while parsing an object"
  | .endInText => "EOF while parsing a string"
  | .expectedValue => "expected value"
  | .expectedWord => "expected ident"
  | .expectedColon => "expected `:`"
  | .expectedCommaOrBracket => "expected `,` or `]`"
  | .expectedCommaOrBrace => "expected `,` or `\x7d`"
  | .keyNotText => "key must be a string"
  | .trailingComma => "trailing comma"
  | .trailingCharacters => "trailing characters"
  | .invalidNumber => "invalid number"
  | .numberOutOfRange => "number out of range"
  | .controlCharacter => "control character (\\u0000-\\u001F) found while parsing a string"
  | .invalidEscape => "invalid escape"
  | .loneSurrogate => "lone leading surrogate in hex escape"
  | .endOfSurrogate => "unexpected end of hex escape"
  | .tooDeep => "recursion limit exceeded"
  | .wrongType found expected => s!"invalid type: {found.wording}, expected {expected}"
  | .wrongValue found expected => s!"invalid value: {found.wording}, expected {expected}"
  | .unknownVariant name known => s!"unknown variant `{name}`, {alternatives known}"
  | .missingField name => s!"missing field `{name}`"
  | .duplicateField name => s!"duplicate field `{name}`"
  | .wrongLength count expected => s!"invalid length {count}, expected {expected}"

def Refusal.message (r : Refusal) : String :=
  s!"{r.cause.wording} at line {r.line} column {r.column}"

end ThemeEditor.Json
