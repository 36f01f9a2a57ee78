/-
# ThemeEditor.Ini -- sections of keys and texts

A text of this format is a sequence of keys with values, comments, and headers
in brackets that begin sections.  The keys before the first header stand for
themselves, those of a section form a table; all values are texts.  A key ends at
an equals sign or a colon, even on a later line; a value ends with its line, and
parts of it may stand in quotation marks.  A backslash escapes the next character
anywhere but in comments.

A later key replaces an equal one of its section, and a later section an equal one
as a whole.
-/
import ThemeEditor.Json.Tree
import ThemeEditor.Text.Blank

namespace ThemeEditor.Ini

set_option autoImplicit false

open ThemeEditor.Json (Value)

/-- Why a text cannot be read. -/
inductive Cause where
  | commentBehind
  | missingKey
  | badCode
  /-- A backslash inside a code stands before something else than a line end. -/
  | badJoin (found : Option Char)
  /-- The text ended before one of some characters. -/
  | ended (awaited : List (Option Char))
  deriving DecidableEq, Repr

/-- A cause, and the characters from the place on at which it was found. -/
structure Fault where
  cause : Cause
  rest : List Char
  deriving DecidableEq, Repr

/-! ## Wording -/

/-- How a message shows a character, or the end of the text. -/
def shownChar : Option Char → String
  | none => "None"
  | some '\n' => "Some('\\n')"
  | some '\r' => "Some('\\r')"
  | some '\t' => "Some('\\t')"
  | some '\'' => "Some('\\'')"
  | some '\\' => "Some('\\\\')"
  | some '"' => "Some('\"')"
  | some c => "Some('" ++ String.ofList (Text.quotedChar c) ++ "')"

def Cause.wording : Cause → String
  | commentBehind => "doesn't support inline comment"
  | missingKey => "missing key"
  | badCode => "unknown character in \\xHH form"
  | badJoin found => "expecting \"\\\\n\" but found \"" ++ shownChar found ++ "\"."
  | ended awaited =>
      "expecting \"[" ++ ", ".intercalate (awaited.map shownChar) ++ "]\" but found EOF."

/-- The line and the column of the place: of the characters up to it, itself included,
those behind the last line end count, and one more. -/
def Fault.position (source : List Char) (f : Fault) : Nat × Nat :=
  let seen := source.take (source.length - f.rest.length + 1)
  (seen.count '\n' + 1, (seen.reverse.takeWhile (· ≠ '\n')).length + 1)

def Fault.message (source : String) (f : Fault) : String :=
  let (line, column) := f.position source.toList
  s!"{line}:{column} {f.cause.wording}"

/-! ## Words -/

/-- The characters of which one ends a key, a header, and a value. -/
def keyEnds : List (Option Char) := [some '=', some ':']

def headerEnds : List (Option Char) := [some ']']

def valueEnds : List (Option Char) := [some '\n', some '\r', none]

/-- The characters that one letter behind a backslash stands for; other characters
stand for themselves, and a line end for nothing. -/
def escaped : Char → List Char
  | '0' => ['\x00']
  | 'a' => ['\x07']
  | 'b' => ['\x08']
  | 't' => ['\t']
  | 'r' => ['\r']
  | 'n' => ['\n']
  | '\n' => []
  | c => [c]

/-- The character of a code in hexadecimal digits. -/
def codeChar? (code : List Char) : Option Char :=
  let digits := match code with
    | '+' :: r => r
    | code => code
  if digits.all fun c => (Text.hexValue? c).isSome then
    let n := Text.digitsValue 16 digits
    if n.isValidChar then some (Char.ofNat n) else none
  else none

/-- Reads `count` more characters of a code; the last of them is not yet passed. -/
def code (ends : List (Option Char)) :
    Nat → List Char → List Char → Except Fault (Char × List Char)
  | 0, digits, s =>
      match codeChar? digits.reverse with
      | some c => .ok (c, s.drop 1)
      | none => .error ⟨.badCode, s⟩
  | count + 1, digits, s =>
      match s.drop 1 with
      | [] => .error ⟨.ended ends, []⟩
      | '\\' :: r =>
          if r.head? = some '\n' then code ends count ('\\' :: digits) r
          else .error ⟨.badJoin r.head?, r⟩
      | c :: r => code ends count (c :: digits) (c :: r)

/-- Reads characters up to one of those that end them; `fuel` bounds their number. -/
def wordFrom (ends : List (Option Char)) :
    Nat → List Char → Except Fault (List Char × List Char)
  | 0, s => .error ⟨.ended ends, s⟩
  | fuel + 1, s =>
      if ends.contains s.head? then .ok ([], s)
      else
        match s with
        | [] | ['\\'] => .error ⟨.ended ends, []⟩
        | '\\' :: 'x' :: r => do
            let (c, r) ← code ends 4 [] ('x' :: r)
            let (cs, r) ← wordFrom ends fuel r
            return (c :: cs, r)
        | '\\' :: c :: r => do
            let (cs, r) ← wordFrom ends fuel r
            return (escaped c ++ cs, r)
        | c :: r => do
            let (cs, r) ← wordFrom ends fuel r
            return (c :: cs, r)

def word (ends : List (Option Char)) (s : List Char) : Except Fault (List Char × List Char) :=
  wordFrom ends (s.length + 1) s

/-- Reads the parts of a value; `isFirst` tells whether there was one already.  Only what
stands in quotation marks keeps the blanks at its front. -/
def valueFrom : Nat → Bool → List Char → Except Fault (List Char × List Char)
  | 0, _, s => .ok ([], s)
  | fuel + 1, isFirst, s =>
      match s with
      | [] => .ok ([], [])
      | c :: r =>
          if c = '"' || c = '\'' then do
            let (part, r) ← word [some c] r
            let (parts, r) ← valueFrom fuel false (r.drop 1)
            return (part ++ parts, r)
          else do
            let (part, r) ← word valueEnds s
            return (Text.trimBack (if isFirst then Text.trimFront part else part), r)

/-- Reads a value behind its separator. -/
def value (s : List Char) : Except Fault (String × List Char) := do
  let s := s.dropWhile fun c => Text.isBlank c && c ≠ '\n' && c ≠ '\r'
  let (cs, r) ← valueFrom (s.length + 1) true s
  return (String.ofList cs, r)

/-! ## Documents -/

/-- The members of a section. -/
abbrev Members := List (String × Value)

/-- A document that is partly read. -/
structure Draft where
  /-- The members before the first header. -/
  general : Members := []
  /-- The sections, the last one first. -/
  sections : List (String × Members) := []
  /-- A key whose value is still to come. -/
  key : String := ""

/-- Sets the open key in the open section. -/
def Draft.put (draft : Draft) (text : String) : Draft :=
  let add := Value.putMember draft.key (.text text)
  match draft.sections with
  | [] => { draft with general := add draft.general, key := "" }
  | (name, members) :: rest =>
      { draft with sections := (name, add members) :: rest, key := "" }

/-- Reads what a text begins with; `isFront` tells whether a line begins here. -/
def entry (isFront : Bool) (draft : Draft) (s : List Char) : Except Fault (Draft × List Char) :=
  match s with
  | [] => .ok (draft, [])
  | c :: r =>
      if c = ';' || c = '#' then
        if isFront then .ok (draft, (r.dropWhile (· ≠ '\n')).drop 1)
        else .error ⟨.commentBehind, s⟩
      else if c = '[' then do
        let (name, r) ← word headerEnds r
        let name := Text.trim (String.ofList name)
        return ({ draft with sections := (name, []) :: draft.sections }, r.drop 1)
      else if c = '=' || c = ':' then
        if draft.key = "" then .error ⟨.missingKey, s⟩
        else do
          let (text, r) ← value r
          return (draft.put text, r)
      else do
        let (key, r) ← word keyEnds s
        return ({ draft with key := Text.trim (String.ofList key) }, r)

/-- Reads a text to its end; `before` is the character in front of what is left. -/
def draftFrom (source : List Char) : Nat → Draft → List Char → Except Fault Draft
  | 0, draft, _ => .ok draft
  | fuel + 1, draft, s =>
      let s := Text.trimFront s
      if s.isEmpty then .ok draft
      else
        let before := (source.take (source.length - s.length)).getLast?
        match entry (before.all (· = '\n')) draft s with
        | .error f => .error f
        | .ok (draft, r) => draftFrom source fuel draft r

/-- The members of a text: the keys before the first header, and the sections. -/
def Draft.members (draft : Draft) : Members :=
  draft.sections.foldr (fun s ms => Value.putMember s.1 (.object s.2) ms) draft.general

/-- Reads a text. -/
def read (source : String) : Except Fault Members :=
  (draftFrom source.toList (source.length + 1) {} source.toList).map Draft.members

end ThemeEditor.Ini
