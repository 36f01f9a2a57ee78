/-
# ThemeEditor.Web.Domain -- names of hosts in ASCII

A name is put into one spelling and one form, and its labels are held against
the rules for names.  A label with characters beyond ASCII is then written in
ASCII; one that is written so already has to be one that could have come of it.
-/
import ThemeEditor.Text.Compose
import ThemeEditor.Web.Domain.Direction
import ThemeEditor.Web.Domain.Joining
import ThemeEditor.Web.Punycode

namespace ThemeEditor.Web.Domain

set_option autoImplicit false

/-- What stands before a label that is written in ASCII. -/
def mark : List Char := ['x', 'n', '-', '-']

/-- A label. -/
structure Label where
  /-- Its characters. -/
  text : List Char
  /-- How it is written in ASCII. -/
  written : List Char

/-- The longest label beyond ASCII. -/
def maxLength : Nat := 1000

/-- The longest label that is read from ASCII. -/
def maxWritten : Nat := 2000

/-- Whether a label beyond ASCII is one: it begins with no mark, and its characters join
as they may. -/
def isSound (label : List Char) : Bool :=
  !label.head?.any Text.isMark && isJoined label

/-- Whether a label that was read from ASCII could have been written so. -/
def isWritten (label : List Char) : Bool :=
  !label.all Punycode.isBasic && !mark.isPrefixOf label &&
    (label.all fun c => Punycode.isBasic c || isOwnImage c) && Text.composed label = label

/-- Reads a label. -/
def label? (cs : List Char) : Option Label :=
  if mark.isPrefixOf cs then
    match Punycode.decode (cs.drop mark.length) with
    | some text =>
        if cs.length ≤ maxWritten + mark.length && isWritten text && isSound text then
          some ⟨text, cs⟩
        else none
    | none => none
  else if cs.all Punycode.isBasic then some ⟨cs, cs⟩
  else if cs.length ≤ maxLength && isSound cs then some ⟨cs, mark ++ Punycode.encode cs⟩
  else none

/-- The name in its one spelling and form. -/
def folded? (name : List Char) : Option (List Char) :=
  (name.mapM fold?).map fun images => Text.composed images.flatten

/-- A name in ASCII, if it is one. -/
def toAscii? (name : List Char) : Option (List Char) := do
  let labels ← ((← folded? name).splitOn '.').mapM label?
  if isReadable (labels.map Label.text) then
    return ['.'].intercalate (labels.map Label.written)
  else none

end ThemeEditor.Web.Domain
