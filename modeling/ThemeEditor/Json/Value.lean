/-
# ThemeEditor.Json.Value -- JSON values and how they are written

An object keeps its members in order.  Writing has two styles, compact and
indented by two spaces; they differ only in white space, and an empty list or
object is written the same in both.
-/
import ThemeEditor.Json.Fault

namespace ThemeEditor.Json

set_option autoImplicit false

/-- A JSON value. -/
inductive Value where
  | null
  | boolean (value : Bool)
  | number (value : Number)
  | text (value : String)
  | list (items : List Value)
  | object (members : List (String × Value))
  deriving Repr, Inhabited

/-- The white space of a style: before an element at a depth, and behind a colon. -/
structure Style where
  lineBreak : Nat → List Char
  afterColon : List Char

namespace Style

/-- No white space at all. -/
def compact : Style where
  lineBreak _ := []
  afterColon := []

/-- One element a line, two spaces a level. -/
def indented : Style where
  lineBreak depth := '\n' :: List.replicate (2 * depth) ' '
  afterColon := [' ']

end Style

/-- One character of a written text: quotation mark, backslash and controls are
escaped, nothing else is. -/
def writtenChar (c : Char) : List Char :=
  if c = '"' then ['\\', '"']
  else if c = '\\' then ['\\', '\\']
  else if c = '\x08' then ['\\', 'b']
  else if c = '\x0c' then ['\\', 'f']
  else if c = '\n' then ['\\', 'n']
  else if c = '\r' then ['\\', 'r']
  else if c = '\t' then ['\\', 't']
  else if c < ' ' then
    ['\\', 'u', '0', '0', Nat.digitChar (c.toNat / 16), Nat.digitChar (c.toNat % 16)]
  else [c]

/-- A text in quotation marks. -/
def writtenText (s : String) : List Char :=
  '"' :: (s.toList.flatMap writtenChar ++ ['"'])

namespace Value

mutual

/-- The characters of a value that stands at a depth. -/
def write (style : Style) (depth : Nat) : Value → List Char
  | .null => ['n', 'u', 'l', 'l']
  | .boolean true => ['t', 'r', 'u', 'e']
  | .boolean false => ['f', 'a', 'l', 's', 'e']
  | .number n => n.written.toList
  | .text s => writtenText s
  | .list [] => ['[', ']']
  | .list (x :: xs) =>
      '[' :: style.lineBreak (depth + 1) ++ write style (depth + 1) x ++
        writeItems style (depth + 1) xs ++ style.lineBreak depth ++ [']']
  | .object [] => ['{', '}']
  | .object ((k, x) :: ms) =>
      '{' :: style.lineBreak (depth + 1) ++ writtenText k ++ ':' :: style.afterColon ++
        write style (depth + 1) x ++ writeMembers style (depth + 1) ms ++
        style.lineBreak depth ++ ['}']

/-- The items of a list after the first. -/
def writeItems (style : Style) (depth : Nat) : List Value → List Char
  | [] => []
  | x :: xs =>
      ',' :: style.lineBreak depth ++ write style depth x ++ writeItems style depth xs

/-- The members of an object after the first. -/
def writeMembers (style : Style) (depth : Nat) : List (String × Value) → List Char
  | [] => []
  | (k, x) :: ms =>
      ',' :: style.lineBreak depth ++ writtenText k ++ ':' :: style.afterColon ++
        write style depth x ++ writeMembers style depth ms

end

/-- The text without white space. -/
def compact (v : Value) : String :=
  String.ofList (v.write .compact 0)

/-- The text with one element a line. -/
def indented (v : Value) : String :=
  String.ofList (v.write .indented 0)

end Value

end ThemeEditor.Json
