/-
# ThemeEditor.Json5.Lexeme -- numbers, texts and names of JSON as people write it

Beyond JSON, a text of this format may have comments, names without quotation marks
for keys, quotation marks of either kind, and numbers with a sign, in hexadecimal
digits, or with nothing on one side of the point.

Parts of a text are tried one after another.  A fault names those that were tried in
vain at the furthest place at which one was.
-/
import ThemeEditor.Json.Value
import ThemeEditor.Number.Nearest
import ThemeEditor.Text.Alphanumeric
import ThemeEditor.Text.Blank
import ThemeEditor.Text.Mark

namespace ThemeEditor.Json5

set_option autoImplicit false

open ThemeEditor.Json (Value)

/-- The parts of a text that a fault can name, in the order in which it names them. -/
inductive Part where
  | textEnd
  | array
  | boolean
  | escaped
  | literal
  | shortCode
  | identifier
  | zero
  | null
  | number
  | object
  | string
  | longCode
  deriving DecidableEq, Repr

def Part.all : List (Part × String) :=
  [(.textEnd, "EOI"), (.array, "array"), (.boolean, "boolean"),
    (.escaped, "char_escape_sequence"), (.literal, "char_literal"),
    (.shortCode, "hex_escape_sequence"), (.identifier, "identifier"),
    (.zero, "nul_escape_sequence"), (.null, "null"), (.number, "number"), (.object, "object"),
    (.string, "string"), (.longCode, "unicode_escape_sequence")]

/-- What a text can say that has no value. -/
inductive Problem where
  | integer
  | hexadecimal
  | float
  | tooLarge
  | surrogate
  deriving DecidableEq, Repr

def Problem.wording : Problem → String
  | integer => "error parsing integer"
  | hexadecimal => "error parsing hex"
  | float => "error parsing number"
  | tooLarge => "error parsing number: too large"
  | surrogate => "error parsing unicode escape"

/-- Why a text cannot be read. -/
inductive Fault where
  /-- The parts tried in vain, and the characters from their place on. -/
  | malformed (tried : List Part) (rest : List Char)
  | valueless (problem : Problem)
  deriving DecidableEq, Repr

/-! ## Wording -/

/-- Words with commas and an "or" between them. -/
def alternatives : List String → String
  | [] => ""
  | [a] => a
  | [a, b] => s!"{a} or {b}"
  | words => ", ".intercalate words.dropLast ++ ", or " ++ words.getLastD ""

/-- A line as it is shown: if the place is its end, the end is visible. -/
def shownLine (line : List Char) (atEnd : Bool) : String :=
  if atEnd then
    String.ofList (line.map fun c =>
      if c = '\r' then '\u240d' else if c = '\n' then '\u240a' else c)
  else String.ofList (line.filter fun c => c ≠ '\r' && c ≠ '\n')

/-- The line of a place with a mark below it. -/
def shownPlace (source rest : List Char) : String :=
  let seen := source.take (source.length - rest.length)
  let before := (seen.reverse.takeWhile (· ≠ '\n')).reverse
  let behind := rest.takeWhile (· ≠ '\n') ++ (rest.dropWhile (· ≠ '\n')).take 1
  let line := toString (seen.count '\n' + 1)
  let margin := String.ofList (List.replicate line.length ' ')
  let shown := shownLine (before ++ behind) (rest.head?.any fun c => c = '\n' || c = '\r')
  let gap := String.ofList (before.map fun c => if c = '\t' then c else ' ')
  s!"{margin}--> {line}:{before.length + 1}\n{margin} |\n{line} | {shown}\n" ++
    s!"{margin} | {gap}^---\n{margin} |\n{margin} = "

def Fault.message (source : String) : Fault → String
  | valueless problem => problem.wording
  | malformed tried rest =>
      let words := (Part.all.filter fun p => tried.contains p.1).map (·.2)
      shownPlace source.toList rest ++ "expected " ++ alternatives words

/-! ## Attempts -/

/-- What is known of the attempts so far. -/
structure Notes where
  /-- The parts tried in vain at the furthest place, and the characters from there on. -/
  tried : List Part := []
  rest : List Char := []
  /-- The first thing that has no value. -/
  problem : Option Problem := none

/-- An attempt to read something from the front of a text. -/
abbrev Reader (α : Type) := List Char → OptionT (StateM Notes) (α × List Char)

/-- Notes that a part was tried in vain; what was found at an earlier place does not count. -/
def Notes.add (part : Part) (s : List Char) (notes : Notes) : Notes :=
  if notes.tried.isEmpty || s.length < notes.rest.length then
    { notes with tried := [part], rest := s }
  else if s.length = notes.rest.length then { notes with tried := part :: notes.tried }
  else notes

/-- Notes a part if it cannot be read. -/
def noted {α : Type} (part : Part) (reader : Reader α) : Reader α := fun s =>
  reader s <|> (do modify (Notes.add part s); failure)

/-- Reads a part that needs no more than a look at the text. -/
def plain {α : Type} (part : Part) (look : List Char → Option (α × List Char)) : Reader α :=
  noted part fun s => OptionT.mk (pure (look s))

/-- Keeps the first thing that has no value. -/
def report (problem : Problem) : OptionT (StateM Notes) Unit :=
  modify fun notes => { notes with problem := notes.problem.or (some problem) }

/-- Passes over a character that has to come next. -/
def pass (c : Char) : List Char → OptionT (StateM Notes) (List Char)
  | d :: r => if c = d then pure r else failure
  | [] => failure

/-! ## Between the words -/

def isLineEnd (c : Char) : Bool :=
  c = '\n' || c = '\r' || c = '\u2028' || c = '\u2029'

def isSpace (c : Char) : Bool :=
  (Text.isBlank c && c ≠ '\u0085') || c = '\ufeff'

/-- What follows the end of a comment, if it has one. -/
def afterComment? : List Char → Option (List Char)
  | '*' :: '/' :: r => some r
  | _ :: r => afterComment? r
  | [] => none

/-- Passes over white space and comments, at most `fuel` of them. -/
def skipFrom : Nat → List Char → List Char
  | 0, s => s
  | fuel + 1, s =>
      match s.dropWhile isSpace with
      | '/' :: '/' :: r => skipFrom fuel (r.dropWhile fun c => !isLineEnd c)
      | '/' :: '*' :: r =>
          match afterComment? r with
          | some r => skipFrom fuel r
          | none => '/' :: '*' :: r
      | r => r

def skip (s : List Char) : List Char :=
  skipFrom (s.length + 1) s

/-! ## Numbers -/

/-- The digits that come next, if there are any. -/
def digits? (s : List Char) : Option (List Char × List Char) :=
  let digits := s.takeWhile Char.isDigit
  if digits.isEmpty then none else some (digits, s.drop digits.length)

/-- Passes over an exponent, if one comes next. -/
def skipExponent : List Char → List Char
  | c :: r =>
      if c = 'e' || c = 'E' then
        match digits? (Number.splitSign r).2 with
        | some (_, rest) => rest
        | none => c :: r
      else c :: r
  | [] => []

/-- What follows a number without its sign. -/
def afterNumber? : List Char → Option (List Char)
  | 'I' :: 'n' :: 'f' :: 'i' :: 'n' :: 'i' :: 't' :: 'y' :: r | 'N' :: 'a' :: 'N' :: r => some r
  | '.' :: r => (digits? r).map fun (_, r) => skipExponent r
  | '0' :: r =>
      let digits := (r.drop 1).takeWhile fun c => (Text.hexValue? c).isSome
      if r.head?.any (fun c => c = 'x' || c = 'X') && !digits.isEmpty then
        some (r.drop (digits.length + 1))
      else some (afterWhole r)
  | s => (digits? s).map fun (_, r) => afterWhole r
where
  afterWhole : List Char → List Char
    | '.' :: r => skipExponent (r.dropWhile Char.isDigit)
    | r => skipExponent r

/-- The number that a word writes.  A hexadecimal one has 32 bits and no sign, another
integer 64 bits. -/
def numberOf (word : List Char) : Except Problem Json.Number :=
  let (isNegative, unsigned) := Number.splitSign word
  let signed := fun (x : Float) => Double.ofFloat (if isNegative then -x else x)
  let isHexadecimal := fun (s : List Char) =>
    s.head? = some '0' && (s[1]? = some 'x' || s[1]? = some 'X')
  if unsigned.head? = some 'I' then .ok (.floating (signed (1.0 / 0.0)))
  else if unsigned.head? = some 'N' then .ok (.floating (signed (0.0 / 0.0)))
  else if isHexadecimal word then
    let n := Text.digitsValue 16 (word.drop 2)
    if n < UInt32.size then .ok (.integer n) else .error .hexadecimal
  else if word.any fun c => ".eE".toList.contains c then
    match Number.double? word with
    | some d => if d.isFinite then .ok (.floating d) else .error .tooLarge
    | none => .error .float
  else
    match Number.integer64? 10 word with
    | some n => .ok (.integer n)
    | none => .error .integer

/-- Reads a number. -/
def number : Reader Value := fun s => do
  let (word, r) ← plain .number wordOf s
  match numberOf word with
  | .ok n => return (.number n, r)
  | .error problem =>
      report problem
      return (.null, r)
where
  wordOf (s : List Char) : Option (List Char × List Char) :=
    (afterNumber? (Number.splitSign s).2).map fun r => (s.take (s.length - r.length), r)

/-! ## Texts -/

/-- A piece of a text: a character, or a code of sixteen bits. -/
inductive Piece where
  | char (c : Char)
  | code (n : Nat)

/-- The characters of pieces.  Two codes can make one character; a code that needs another
one stands for nothing. -/
def chars? : List Piece → Option (List Char)
  | [] => some []
  | .char c :: r => (chars? r).map (c :: ·)
  | .code n :: r =>
      if n.isValidChar then (chars? r).map (Char.ofNat n :: ·)
      else
        match r with
        | .code m :: r =>
            if n < 0xDC00 && 0xDC00 ≤ m && m < 0xE000 then
              let high := (n - 0xD800) * 0x400
              (chars? r).map (Char.ofNat (0x10000 + high + (m - 0xDC00)) :: ·)
            else none
        | _ => none

/-- The text of pieces. -/
def textOf (pieces : List Piece) : OptionT (StateM Notes) String :=
  match chars? pieces with
  | some cs => pure (String.ofList cs)
  | none => do
      report .surrogate
      return ""

/-- Reads a code of some hexadecimal digits. -/
def code (part : Part) (count : Nat) : Reader Piece :=
  plain part fun s =>
    let digits := s.take count
    if digits.length = count && digits.all fun c => (Text.hexValue? c).isSome then
      some (.code (Text.digitsValue 16 digits), s.drop count)
    else none

/-- The character that an escape of one letter stands for. -/
def escaped? : List Char → Option (Piece × List Char)
  | [] => none
  | c :: r =>
      if c.isDigit || c = 'x' || c = 'u' || isLineEnd c then none
      else
        let named := [('b', '\x08'), ('f', '\x0c'), ('n', '\n'), ('r', '\r'), ('t', '\t'),
          ('v', '\x0b')]
        some (.char ((named.lookup c).getD c), r)

/-- A character that stands for itself. -/
def literal : Reader Piece :=
  plain .literal fun s =>
    match s with
    | c :: r => if c = '\\' || isLineEnd c then none else some (.char c, r)
    | [] => none

/-- Reads what follows a backslash. -/
def escape : Reader Piece := fun s =>
  plain .escaped escaped? s <|>
    plain .zero (fun s => if s.head? = some '0' then some (.code 0, s.drop 1) else none) s <|>
    (do code .shortCode 2 (← pass 'x' s)) <|>
    (do code .longCode 4 (← pass 'u' s))

/-- Passes over the end of a line that a backslash hides. -/
def hiddenEnd : List Char → OptionT (StateM Notes) (List Char)
  | '\\' :: '\r' :: '\n' :: r => pure r
  | '\\' :: c :: r => if isLineEnd c then pure r else failure
  | _ => failure

/-- Reads the pieces of a text up to its mark, at most `fuel` of them. -/
def pieces (mark : Char) : Nat → Reader (List Piece)
  | 0, s => pure ([], s)
  | fuel + 1, s =>
      (do
        let (found, r) ← piece s
        let (us, r) ← pieces mark fuel r
        return (found ++ us, r)) <|>
      pure ([], s)
where
  piece : Reader (List Piece) := fun s =>
    (do
      let (u, r) ← escape (← pass '\\' s)
      return ([u], r)) <|>
    (do return ([], ← hiddenEnd s)) <|>
    (do
      if s.head? = some mark then failure
      let (u, r) ← literal s
      return ([u], r))

/-- Reads a text. -/
def string : Reader String :=
  noted .string fun s => quoted '"' s <|> quoted '\'' s
where
  quoted (mark : Char) : Reader String := fun s => do
    let r ← pass mark s
    let (found, r) ← pieces mark (r.length + 1) r
    let r ← pass mark r
    return (← textOf found, r)

/-! ## Names -/

/-- Whether a name may begin with a character. -/
def isNameStart (c : Char) : Bool :=
  c = '$' || c = '_' || (Text.isAlphanumeric c && !c.isDigit && !Text.isMark c)

/-- The characters that tie words together. -/
def isConnector (c : Char) : Bool :=
  "_\u203f\u2040\u2054\ufe33\ufe34\ufe4d\ufe4e\ufe4f\uff3f\u200c\u200d".toList.contains c

/-- Whether a name may go on with a character. -/
def isNameChar (c : Char) : Bool :=
  isNameStart c || c.isDigit || Text.isMark c || isConnector c

/-- Reads a character of a name. -/
def nameChar (isPart : Char → Bool) : Reader Piece := fun s =>
  match s with
  | '\\' :: 'u' :: r => code .longCode 4 r
  | c :: _ => if isPart c then literal s else failure
  | [] => failure

/-- Reads the rest of a name, at most `fuel` characters. -/
def nameRest : Nat → Reader (List Piece)
  | 0, s => pure ([], s)
  | fuel + 1, s =>
      (do
        let (u, r) ← nameChar isNameChar s
        let (us, r) ← nameRest fuel r
        return (u :: us, r)) <|>
      pure ([], s)

/-- Reads a name. -/
def name : Reader String :=
  noted .identifier fun s => do
    let (u, r) ← nameChar isNameStart s
    let (us, r) ← nameRest r.length r
    return (← textOf (u :: us), r)

end ThemeEditor.Json5
