/-
# ThemeEditor.Toml.Lexeme -- white space, comments, strings and keys of TOML

Every reader takes the characters not yet read and returns what it read with the
characters after it, or `none` when the text is not TOML.
-/
import ThemeEditor.Json.Lexeme

namespace ThemeEditor.Toml

set_option autoImplicit false

/-- Reads something from the front of a text. -/
abbrev Reader (α : Type) := List Char → Option (α × List Char)

/-- The control characters that may stand nowhere in a text. -/
def isControl (c : Char) : Bool :=
  (c.toNat < 0x20 && c != '\t') || c.toNat == 0x7F

/-- The white space inside a line. -/
def isGap (c : Char) : Bool :=
  c = ' ' || c = '\t'

def skipGaps (s : List Char) : List Char :=
  s.dropWhile isGap

/-- What follows the end of a line, if one stands here. -/
def lineBreak? : List Char → Option (List Char)
  | '\n' :: r => some r
  | '\r' :: '\n' :: r => some r
  | _ => none

/-- The end of a line as it is written, if one stands here. -/
def lineEnd (s : List Char) : List Char :=
  match s with
  | '\r' :: _ => ['\r', '\n']
  | _ => ['\n']

/-- What follows a comment, if one stands here.  The end of the line is left. -/
def skipComment : List Char → List Char
  | '#' :: r => r.dropWhile fun c => !isControl c
  | s => s

/-- Reads the rest of a line on which nothing more may stand. -/
def endLine (s : List Char) : Option (List Char) :=
  let s := skipComment (skipGaps s)
  if s.isEmpty then some [] else lineBreak? s

/-- Passes over white space, comments and line ends, at most `fuel` of them. -/
def skipLinesFrom : Nat → List Char → List Char
  | 0, s => s
  | fuel + 1, s =>
      let s := skipComment (skipGaps s)
      match lineBreak? s with
      | some r => skipLinesFrom fuel r
      | none => s

def skipLines (s : List Char) : List Char :=
  skipLinesFrom (s.length + 1) s

/-! ## Strings -/

/-- The value of hexadecimal digits. -/
def hexNumber? (digits : List Char) : Option Nat :=
  digits.foldl (fun n c => n.bind fun n => (Text.hexValue? c).map (n * 16 + ·)) (some 0)

/-- The character of a code point, if it is one. -/
def charOf? (n : Nat) : Option Char :=
  if n < 0xD800 || (0xE000 ≤ n && n < 0x110000) then some (Char.ofNat n) else none

/-- Reads the digits of a code escape. -/
def codeEscape (count : Nat) : Reader Char := fun s =>
  let digits := s.take count
  if digits.length < count then none
  else do
    let n ← hexNumber? digits
    let c ← charOf? n
    return (c, s.drop count)

/-- Reads an escape whose backslash is already read. -/
def escape : Reader Char
  | 'b' :: r => some ('\x08', r)
  | 't' :: r => some ('\t', r)
  | 'n' :: r => some ('\n', r)
  | 'f' :: r => some ('\x0c', r)
  | 'r' :: r => some ('\r', r)
  | 'e' :: r => some ('\x1b', r)
  | '"' :: r => some ('"', r)
  | '\\' :: r => some ('\\', r)
  | 'x' :: r => codeEscape 2 r
  | 'u' :: r => codeEscape 4 r
  | 'U' :: r => codeEscape 8 r
  | _ => none

/-- Reads a string on one line, behind its opening quotation mark. -/
def basicFrom : Nat → Reader (List Char)
  | 0, _ => none
  | fuel + 1, s =>
      match s with
      | [] => none
      | '"' :: r => some ([], r)
      | '\\' :: r => do
          let (c, r) ← escape r
          let (cs, r) ← basicFrom fuel r
          return (c :: cs, r)
      | c :: r =>
          if isControl c then none
          else do
            let (cs, r) ← basicFrom fuel r
            return (c :: cs, r)

/-- Reads a string without escapes on one line, behind its opening apostrophe. -/
def literal (s : List Char) : Option (List Char × List Char) :=
  match s.dropWhile fun c => c != '\'' && !isControl c with
  | '\'' :: r => some (s.takeWhile fun c => c != '\'' && !isControl c, r)
  | _ => none

/-- What follows a backslash at the end of a line: the white space and line ends up
to the next character are left out. -/
def lineContinuation? (s : List Char) : Option (List Char) :=
  match lineBreak? (skipGaps s) with
  | none => none
  | some r => some (r.dropWhile fun c => isGap c || c = '\n' || c = '\r')

/-- Reads a string over several lines, whose ends stay as they are written.  Three
quotation marks end it; up to two more in front of them belong to it. -/
def multilineFrom (quote : Char) (escapes : Bool) : Nat → Reader (List Char)
  | 0, _ => none
  | fuel + 1, s =>
      match s with
      | [] => none
      | c :: r =>
          if c = quote then
            let count := min 5 (s.takeWhile (· = quote)).length
            if 3 ≤ count then some (List.replicate (count - 3) quote, s.drop count)
            else do
              let (cs, r) ← multilineFrom quote escapes fuel r
              return (c :: cs, r)
          else if c = '\\' && escapes then
            match lineContinuation? r with
            | some r => multilineFrom quote escapes fuel r
            | none => do
                let (e, r) ← escape r
                let (cs, r) ← multilineFrom quote escapes fuel r
                return (e :: cs, r)
          else
            match lineBreak? s with
            | some r => do
                let (cs, r) ← multilineFrom quote escapes fuel r
                return (lineEnd s ++ cs, r)
            | none =>
                if isControl c then none
                else do
                  let (cs, r) ← multilineFrom quote escapes fuel r
                  return (c :: cs, r)

/-- Reads a string over several lines, behind its opening marks; a line end right
behind them is left out. -/
def multiline (quote : Char) (escapes : Bool) (s : List Char) : Option (List Char × List Char) :=
  let s := (lineBreak? s).getD s
  multilineFrom quote escapes (s.length + 1) s

/-- Reads a string of any kind. -/
def string : Reader String
  | '"' :: '"' :: '"' :: r => (multiline '"' true r).map fun (cs, r) => (String.ofList cs, r)
  | '\'' :: '\'' :: '\'' :: r => (multiline '\'' false r).map fun (cs, r) => (String.ofList cs, r)
  | '"' :: r => (basicFrom (r.length + 1) r).map fun (cs, r) => (String.ofList cs, r)
  | '\'' :: r => (literal r).map fun (cs, r) => (String.ofList cs, r)
  | _ => none

/-! ## Keys -/

/-- The characters of a key without quotation marks. -/
def isBare (c : Char) : Bool :=
  ('a' ≤ c && c ≤ 'z') || ('A' ≤ c && c ≤ 'Z') || ('0' ≤ c && c ≤ '9') || c = '_' || c = '-'

/-- Reads one part of a key. -/
def keyPart : Reader String
  | '"' :: r => (basicFrom (r.length + 1) r).map fun (cs, r) => (String.ofList cs, r)
  | '\'' :: r => (literal r).map fun (cs, r) => (String.ofList cs, r)
  | s =>
      if (s.takeWhile isBare).isEmpty then none
      else some (String.ofList (s.takeWhile isBare), s.dropWhile isBare)

/-- Reads the parts of a key, with points between them. -/
def keyFrom : Nat → Reader (List String)
  | 0, _ => none
  | fuel + 1, s => do
      let (part, r) ← keyPart (skipGaps s)
      match skipGaps r with
      | '.' :: r =>
          let (parts, r) ← keyFrom fuel r
          return (part :: parts, r)
      | r => return ([part], r)

/-- Reads a key: its last part, and the parts before it. -/
def key (s : List Char) : Option ((List String × String) × List Char) := do
  let (parts, r) ← keyFrom (s.length + 1) s
  let last ← parts.getLast?
  return ((parts.dropLast, last), r)

end ThemeEditor.Toml
