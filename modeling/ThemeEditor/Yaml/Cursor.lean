/-
# ThemeEditor.Yaml.Cursor -- a place in a YAML text

A cursor stands before the characters not yet read and knows its line and column.
It also knows whether anything but blanks was read on its line, because blanks
there are indentation.  A text ends at its first NUL.
-/
import ThemeEditor.Text.Digit

namespace ThemeEditor.Yaml

set_option autoImplicit false

/-- A place: the characters before it, its line from 1 and its column from 0. -/
structure Mark where
  index : Nat
  line : Nat
  column : Nat
  deriving DecidableEq, Repr, Inhabited

/-- What can be wrong with a text. -/
inductive Problem where
  | commentTooClose
  | tabInBlock
  | tabBehindKey
  | tabBehindEntry
  | tabBehindValue
  | tabInPlain
  | tabInQuoted
  | tabInBlockScalar
  | behindDocumentEnd
  | badIndentation
  | badCharacter (c : Char)
  | keyWithoutColon
  | keyExpected
  | directive
  | version
  | tooDeep
  | entryInFlow
  | entryNotAllowed
  | keyNotAllowed
  | valueNotAllowed
  | colonNotAllowed
  | anchorIndentation
  | blockHeader
  | zeroIndentation
  | blockIndentation
  | documentInQuoted
  | endInQuoted
  | quotedIndentation
  | behindQuoted
  | unknownEscape
  | badCode
  | badCodePoint
  | flowIndentation
  | dashBeforeFlow
  | emptyPlain
  | noAnchorName
  | tagMark
  | tagName
  | tagEnd
  | verbatimEnd
  | documentExpected
  | directiveBeforeEnd
  | secondVersion
  | secondHandle
  | unknownHandle
  | unknownAnchor
  | nodeExpected
  | dashExpected
  | blockKeyExpected
  | flowPairEnd
  | flowItemEnd
  /-- A key, as it is shown, that a mapping has already. -/
  | secondKey (shown : String)
  deriving DecidableEq, Repr

def Problem.wording : Problem → String
  | commentTooClose => "comments must be separated from other tokens by whitespace"
  | tabInBlock => "tabs disallowed within this context (block indentation)"
  | tabBehindKey => "tabs disallowed in this context"
  | tabBehindEntry => "'-' must be followed by a valid YAML whitespace"
  | tabBehindValue => "':' must be followed by a valid YAML whitespace"
  | tabInPlain => "while scanning a plain scalar, found a tab"
  | tabInQuoted => "tab cannot be used as indentation"
  | tabInBlockScalar => "a block scalar content cannot start with a tab"
  | behindDocumentEnd => "invalid content after document end marker"
  | badIndentation => "invalid indentation"
  | badCharacter c => "unexpected character: `" ++ String.singleton c ++ "'"
  | keyWithoutColon => "simple key expect ':'"
  | keyExpected => "simple key expected"
  | directive =>
      "while scanning a directive, did not find expected comment or line break"
  | version =>
      "while scanning a YAML directive, did not find expected digit or '.' character"
  | tooDeep => "recursion limit exceeded"
  | entryInFlow => "\"-\" is only valid inside a block"
  | entryNotAllowed => "block sequence entries are not allowed in this context"
  | keyNotAllowed => "mapping keys are not allowed in this context"
  | valueNotAllowed => "mapping values are not allowed in this context"
  | colonNotAllowed => "illegal placement of ':' indicator"
  | anchorIndentation => "invalid indentation for anchor"
  | blockHeader =>
      "while scanning a block scalar, did not find expected comment or line break"
  | zeroIndentation =>
      "while scanning a block scalar, found an indentation indicator equal to 0"
  | blockIndentation => "wrongly indented line in block scalar"
  | documentInQuoted =>
      "while scanning a quoted scalar, found unexpected document indicator"
  | endInQuoted => "while scanning a quoted scalar, found unexpected end of stream"
  | quotedIndentation => "invalid indentation in quoted scalar"
  | behindQuoted => "invalid trailing content after double-quoted scalar"
  | unknownEscape => "while parsing a quoted scalar, found unknown escape character"
  | badCode => "while parsing a quoted scalar, did not find expected hexadecimal number"
  | badCodePoint =>
      "while parsing a quoted scalar, found invalid Unicode character escape code"
  | flowIndentation => "invalid indentation in flow construct"
  | dashBeforeFlow => "plain scalar cannot start with '-' followed by ,[]\x7b\x7d"
  | emptyPlain => "unexpected end of plain scalar"
  | noAnchorName =>
      "while scanning an anchor or alias, did not find expected alphabetic or numeric character"
  | tagMark => "while scanning a tag, did not find expected '!'"
  | tagName => "while parsing a tag, did not find expected tag URI"
  | tagEnd => "while scanning a tag, did not find expected whitespace or line break"
  | verbatimEnd => "while scanning a verbatim tag, did not find the expected '>'"
  | documentExpected => "did not find expected <document start>"
  | directiveBeforeEnd => "missing explicit document end marker before directive"
  | secondVersion => "duplicate version directive"
  | secondHandle =>
      "the TAG directive must only be given at most once per handle in the same document"
  | unknownHandle => "the handle wasn't declared"
  | unknownAnchor => "while parsing node, found unknown anchor"
  | nodeExpected => "while parsing a node, did not find expected node content"
  | dashExpected =>
      "while parsing a block collection, did not find expected '-' indicator"
  | blockKeyExpected => "while parsing a block mapping, did not find expected key"
  | flowPairEnd => "while parsing a flow mapping, did not find expected ',' or '\x7d'"
  | flowItemEnd => "while parsing a flow sequence, expected ',' or ']'"
  | secondKey shown => s!"{shown}: duplicated key in mapping"

/-- A problem and its place. -/
structure Fault where
  problem : Problem
  mark : Mark
  deriving DecidableEq, Repr

def Fault.message (f : Fault) : String :=
  let m := f.mark
  s!"{f.problem.wording} at byte {m.index} line {m.line} column {m.column + 1}"

/-! ## Characters -/

def isBreak (c : Char) : Bool :=
  c = '\n' || c = '\r'

def isBlank (c : Char) : Bool :=
  c = ' ' || c = '\t'

/-- Whether no word goes on with a character, or with the end of the text. -/
def isGap : Option Char → Bool
  | none => true
  | some c => isBlank c || isBreak c

/-- Whether a line ends here. -/
def isLineEnd : Option Char → Bool
  | none => true
  | some c => isBreak c

/-- Whether a character has a meaning between brackets. -/
def isFlow (c : Char) : Bool :=
  ",[]\x7b\x7d".toList.contains c

/-! ## Cursors -/

/-- A place in a text. -/
structure Cursor where
  rest : List Char
  mark : Mark
  /-- Whether the line has nothing but blanks so far. -/
  isFresh : Bool

namespace Cursor

/-- The start of a text. -/
def start (source : String) : Cursor :=
  ⟨source.toList.takeWhile (· ≠ '\x00'), ⟨0, 1, 0⟩, true⟩

/-- The next character. -/
def head? (c : Cursor) : Option Char :=
  c.rest.head?

/-- The character after the next one. -/
def second? (c : Cursor) : Option Char :=
  c.rest[1]?

def startsWith (c : Cursor) (sign : Char) : Bool :=
  c.head? = some sign

/-- The column, to be held against an indentation. -/
def column (c : Cursor) : Int :=
  c.mark.column

/-- Passes one character that leaves the line as fresh as it is. -/
def passBlank (c : Cursor) : Cursor :=
  { c with
    rest := c.rest.drop 1
    mark := { c.mark with index := c.mark.index + 1, column := c.mark.column + 1 } }

/-- Passes one character. -/
def pass (c : Cursor) : Cursor :=
  { c.passBlank with isFresh := false }

/-- Passes some characters. -/
def passMany (c : Cursor) (count : Nat) : Cursor :=
  (List.range count).foldl (fun c _ => c.pass) c

/-- Passes the end of a line. -/
def passBreak (c : Cursor) : Cursor :=
  let size := if c.rest.take 2 = ['\r', '\n'] then 2 else 1
  ⟨c.rest.drop size, ⟨c.mark.index + size, c.mark.line + 1, 0⟩, true⟩

/-- Passes the characters of a kind. -/
def passWhile (c : Cursor) (isKind : Char → Bool) : Cursor :=
  c.passMany (c.rest.takeWhile isKind).length

/-- Passes the rest of a line. -/
def passLine (c : Cursor) : Cursor :=
  c.passWhile fun c => !isBreak c

/-- Whether the text goes on with a mark of three characters that stands alone at the
beginning of a line. -/
def isAtMark (c : Cursor) (mark : List Char) : Bool :=
  c.mark.column = 0 && c.rest.take 3 = mark && isGap c.rest[3]?

def isAtDocumentStart (c : Cursor) : Bool :=
  c.isAtMark ['-', '-', '-']

def isAtDocumentEnd (c : Cursor) : Bool :=
  c.isAtMark ['.', '.', '.']

/-- Whether a document begins or ends here. -/
def isAtDocument (c : Cursor) : Bool :=
  c.isAtDocumentStart || c.isAtDocumentEnd

def fault {α : Type} (c : Cursor) (problem : Problem) : Except Fault α :=
  .error ⟨problem, c.mark⟩

/-- The blanks before the end of a line, or before what else stands on it. -/
structure Blanks where
  hasTab : Bool := false
  hasSpace : Bool := false

/-- Passes blanks, and a comment behind them. -/
def passBlanksFrom (withTabs : Bool) : Nat → Blanks → Cursor → Except Fault (Blanks × Cursor)
  | 0, seen, c => .ok (seen, c)
  | fuel + 1, seen, c =>
      match c.head? with
      | some ' ' => passBlanksFrom withTabs fuel { seen with hasSpace := true } c.passBlank
      | some '\t' =>
          if withTabs then passBlanksFrom withTabs fuel { seen with hasTab := true } c.passBlank
          else .ok (seen, c)
      | some '#' =>
          if seen.hasTab || seen.hasSpace then .ok (seen, c.passLine)
          else c.fault .commentTooClose
      | _ => .ok (seen, c)

def passBlanks (c : Cursor) (withTabs : Bool) : Except Fault (Blanks × Cursor) :=
  passBlanksFrom withTabs (c.rest.length + 1) {} c

/-- Passes blanks of both kinds. -/
def passGap (c : Cursor) : Except Fault Cursor :=
  (c.passBlanks true).map (·.2)

end Cursor

end ThemeEditor.Yaml
