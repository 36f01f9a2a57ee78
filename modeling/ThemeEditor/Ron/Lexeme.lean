/-
# ThemeEditor.Ron.Lexeme -- names, numbers and texts of records

Comments stand in front of anything, also inside each other.  Every reader takes the
characters not yet read and returns what it read with the characters after it, or the
fault and its place.
-/
import ThemeEditor.Json.Value
import ThemeEditor.Number.Nearest
import ThemeEditor.Text.Blank
import ThemeEditor.Text.Quoted

namespace ThemeEditor.Ron

set_option autoImplicit false

/-- Why a text cannot be read. -/
inductive Cause where
  | ended
  | integerExpected
  | floatExpected
  | underscoreInFloat
  | leadingUnderscore
  | outOfBounds
  | charExpected
  | textExpected
  | textEnd
  | unknownEscape
  | badDigit
  | codeStart
  | noDigits
  | codeEnd
  | badCode
  | commaExpected
  | colonExpected
  | nameExpected
  | optionStart
  | optionEnd
  | unexpected (c : Char)
  | openComment
  | tooDeep
  | attributeStart
  | attributeEnd
  | unknownExtension (name : String)
  | trailing
  /-- A key of a map, as it is shown, is no text. -/
  | badKey (shown : String)
  deriving DecidableEq, Repr

def Cause.wording : Cause → String
  | ended => "Unexpected end of RON"
  | integerExpected => "Expected integer"
  | floatExpected => "Expected float"
  | underscoreInFloat => "Unexpected underscore in float"
  | leadingUnderscore => "Unexpected leading underscore in a number"
  | outOfBounds => "Integer is out of bounds"
  | charExpected => "Expected char"
  | textExpected => "Expected string"
  | textEnd => "Expected end of string"
  | unknownEscape => "Unknown escape character"
  | badDigit => "Non-hex digit found"
  | codeStart => "Missing \x7b"
  | noDigits => "Expected 1-6 digits, got 0 digits"
  | codeEnd => "No \x7d at the end"
  | badCode => "Not a valid char"
  | commaExpected => "Expected comma"
  | colonExpected => "Expected colon"
  | nameExpected => "Expected identifier"
  | optionStart => "Expected option"
  | optionEnd => "Expected closing `)`"
  | unexpected c => "Unexpected char '" ++ String.ofList (Text.quotedChar c) ++ "'"
  | openComment => "Unclosed block comment"
  | tooDeep =>
      "Exceeded recursion limit, try increasing `ron::Options::recursion_limit` " ++
        "and using `serde_stacker` to protect against a stack overflow"
  | attributeStart => "Expected an `#![enable(...)]` attribute"
  | attributeEnd => "Expected closing `)]` after the enable attribute"
  | unknownExtension name => s!"No RON extension named `{name}`"
  | trailing => "Non-whitespace trailing characters"
  | badKey shown => s!"Expected a string but found {shown} instead"

/-- A cause, and the characters from the place on at which it was found. -/
structure Fault where
  cause : Cause
  rest : List Char
  deriving DecidableEq, Repr

/-- The line and the column of the place. -/
def Fault.position (source : List Char) (f : Fault) : Nat × Nat :=
  let seen := source.take (source.length - f.rest.length)
  (seen.count '\n' + 1, (seen.reverse.takeWhile (· ≠ '\n')).length + 1)

def Fault.message (source : String) (f : Fault) : String :=
  match f.cause with
  | .badKey _ => f.cause.wording
  | cause =>
      let (line, column) := f.position source.toList
      s!"{line}:{column}: {cause.wording}"

/-- Reads something from the front of a text. -/
abbrev Reader (α : Type) := List Char → Except Fault (α × List Char)

/-! ## Between the words -/

/-- Passes over a comment that is open `depth` times. -/
def skipBlock : Nat → List Char → Except Fault (List Char)
  | 0, s => .ok s
  | _ + 1, [] => .error ⟨.openComment, []⟩
  | depth + 1, '*' :: '/' :: r => skipBlock depth r
  | depth + 1, '/' :: '*' :: r => skipBlock (depth + 2) r
  | depth + 1, _ :: r => skipBlock (depth + 1) r
termination_by structural _ s => s

/-- Passes over white space and comments, at most `fuel` of them. -/
def skipFrom : Nat → List Char → Except Fault (List Char)
  | 0, s => .ok s
  | fuel + 1, s =>
      match s.dropWhile Text.isBlank with
      | '/' :: '/' :: r => skipFrom fuel (r.dropWhile (· ≠ '\n'))
      | '/' :: '*' :: r =>
          match skipBlock 1 r with
          | .error f => .error f
          | .ok r => skipFrom fuel r
      | '/' :: c :: r => .error ⟨.unexpected c, r⟩
      | ['/'] => .error ⟨.ended, []⟩
      | r => .ok r

/-- Passes over white space and comments. -/
def skip (s : List Char) : Except Fault (List Char) :=
  skipFrom (s.length + 1) s

/-- Passes over a comma, if one comes next: whether it did. -/
def comma : Reader Bool := fun s => do
  match ← skip s with
  | ',' :: r => return (true, ← skip r)
  | r => return (false, r)

/-! ## Names -/

def isNameStart (c : Char) : Bool :=
  c = '_' || c.isAlpha

def isNameChar (c : Char) : Bool :=
  c = '_' || c.isAlphanum

/-- Whether a character may stand in a name behind its mark. -/
def isRawChar (c : Char) : Bool :=
  isNameChar c || c = '.' || c = '+' || c = '-'

/-- The name that comes next.  What begins a raw or a byte text is none. -/
def name? : List Char → Option (String × List Char)
  | 'r' :: '"' :: _ | 'b' :: '"' :: _ | 'b' :: '\'' :: _ => none
  | 'r' :: '#' :: r =>
      let name := r.takeWhile isRawChar
      if name.isEmpty then none else some (String.ofList name, r.dropWhile isRawChar)
  | s =>
      if s.head?.any isNameStart then
        some (String.ofList (s.takeWhile isNameChar), s.dropWhile isNameChar)
      else none

/-- Reads a name. -/
def name : Reader String := fun s =>
  match name? s with
  | some found => .ok found
  | none => .error ⟨if s.isEmpty then .ended else .nameExpected, s⟩

/-! ## Numbers -/

/-- Whether a character may stand in a float. -/
def isFloatChar (c : Char) : Bool :=
  c.isDigit || "eE.+-_".toList.contains c

/-- Whether a character may stand in an integer. -/
def isIntegerChar (c : Char) : Bool :=
  (Text.hexValue? c).isSome || c = '_'

/-- The base that digits begin with, and what follows. -/
def base : List Char → Nat × List Char
  | '0' :: 'x' :: r => (16, r)
  | '0' :: 'b' :: r => (2, r)
  | '0' :: 'o' :: r => (8, r)
  | s => (10, s)

/-- Whether an integer has 64 bits, with or without a sign. -/
def isWithin (n : Int) : Bool :=
  -(Nat.pow 2 63 : Int) ≤ n && n < (UInt64.size : Int)

/-- The kinds of integers that a number can name, and their least and greatest values. -/
def integerKinds : List (String × Int × Int) :=
  [8, 16, 32, 64].flatMap fun size =>
    let half : Int := Nat.pow 2 (size - 1)
    [(s!"i{size}", -half, half - 1), (s!"u{size}", 0, 2 * half - 1)]

/-- Reads the kind that an integer names, if it does, and checks the integer against it. -/
def kindOf (n : Int) : Reader Int := fun s =>
  match (name? s).bind fun (name, r) => (integerKinds.lookup name).map fun k => (k, r) with
  | none => .ok (n, s)
  | some ((least, greatest), r) =>
      if least ≤ n && n ≤ greatest then .ok (n, r) else .error ⟨.outOfBounds, s⟩

/-- Reads an integer without its kind. -/
def integer : Reader Int := fun s =>
  let (isNegative, unsigned) := Number.splitSign s
  let (base, digits) := base unsigned
  let word := digits.takeWhile isIntegerChar
  if word.isEmpty then .error ⟨.integerExpected, digits⟩
  else if word.head? = some '_' then .error ⟨.leadingUnderscore, digits⟩
  else
    let sign := if isNegative then ['-'] else []
    match (Number.signed? base (sign ++ word.filter (· ≠ '_'))).filter isWithin with
    | some n => .ok (n, digits.drop word.length)
    | none => .error ⟨.integerExpected, digits⟩

/-- What is no number, and what is not finite, by name. -/
def named? (name : String) : Option Float :=
  if ["inf", "inff32", "inff64"].contains name then some (1.0 / 0.0)
  else if ["NaN", "NaNf32", "NaNf64"].contains name then some (0.0 / 0.0)
  else none

/-- Reads a float. -/
def float : Reader Double := fun s =>
  let (isNegative, unsigned) := Number.splitSign s
  match (name? unsigned).bind fun (name, r) => (named? name).map fun x => (x, r) with
  | some (x, r) => .ok (Double.ofFloat (if isNegative then -x else x), r)
  | none =>
      let word := s.takeWhile isFloatChar
      if word.contains '_' then .error ⟨.underscoreInFloat, s⟩
      else
        match Number.double? word with
        | some d => .ok (d, s.drop word.length)
        | none => .error ⟨.floatExpected, s⟩

/-- Reads a number: an integer, or a float if it has a point or an exponent, or is too
large for an integer. -/
def number : Reader Json.Number := fun s =>
  let unsigned := (Number.splitSign s).2
  let isLonger := decide ((unsigned.takeWhile isIntegerChar).length <
    (unsigned.takeWhile isFloatChar).length)
  match if isLonger then .error ⟨.integerExpected, s⟩ else integer s with
  | .ok (n, r) => (kindOf n r).map fun (n, r) => (.integer n, r)
  | .error _ => (float s).map fun (d, r) => (.floating d, afterKind r)
where
  afterKind (s : List Char) : List Char :=
    match name? s with
    | some ("f32", r) | some ("f64", r) => r
    | _ => s

/-! ## Texts -/

/-- Reads at most `count` digits of a code, up to its closing brace. -/
def codeDigits : Nat → List Char → Except Fault (List Char × List Char)
  | 0, s => .ok ([], s)
  | _ + 1, [] => .error ⟨.ended, []⟩
  | count + 1, c :: r =>
      if c = '\x7d' then .ok ([], c :: r)
      else if (Text.hexValue? c).isNone then .error ⟨.badDigit, r⟩
      else (codeDigits count r).map fun (cs, r) => (c :: cs, r)

/-- Reads what follows a backslash. -/
def escape : Reader Char
  | [] => .error ⟨.ended, []⟩
  | '\'' :: r => .ok ('\'', r)
  | '"' :: r => .ok ('"', r)
  | '\\' :: r => .ok ('\\', r)
  | 'n' :: r => .ok ('\n', r)
  | 'r' :: r => .ok ('\r', r)
  | 't' :: r => .ok ('\t', r)
  | '0' :: r => .ok ('\x00', r)
  | 'x' :: r =>
      let digits := r.take 2
      if !digits.all fun c => (Text.hexValue? c).isSome then .error ⟨.badDigit, r⟩
      else if digits.length < 2 then .error ⟨.ended, []⟩
      else .ok (Char.ofNat (Text.digitsValue 16 digits), r.drop 2)
  | 'u' :: '\x7b' :: r =>
      match codeDigits 6 r with
      | .error f => .error f
      | .ok ([], r) => .error ⟨.noDigits, r⟩
      | .ok (digits, '\x7d' :: r) =>
          let n := Text.digitsValue 16 digits
          if n.isValidChar then .ok (Char.ofNat n, r) else .error ⟨.badCode, r⟩
      | .ok (_, r) => .error ⟨.codeEnd, r⟩
  | 'u' :: r => .error ⟨.codeStart, r⟩
  | _ :: r => .error ⟨.unknownEscape, r⟩

/-- Reads a text behind its first quotation mark; `fuel` bounds its length. -/
def textFrom : Nat → Reader (List Char)
  | 0, s => .error ⟨.textEnd, s⟩
  | _ + 1, [] => .error ⟨.textEnd, []⟩
  | _ + 1, '"' :: r => .ok ([], r)
  | fuel + 1, '\\' :: r => do
      let (c, r) ← escape r
      let (cs, r) ← textFrom fuel r
      return (c :: cs, r)
  | fuel + 1, c :: r => do
      let (cs, r) ← textFrom fuel r
      return (c :: cs, r)

/-- Reads a raw text up to what closes it. -/
def rawFrom (closing : List Char) : Reader (List Char)
  | [] => .error ⟨.textEnd, []⟩
  | c :: r =>
      if closing.isPrefixOf (c :: r) then .ok ([], (c :: r).drop closing.length)
      else (rawFrom closing r).map fun (cs, r) => (c :: cs, r)

/-- Reads a text behind the letter that makes it raw. -/
def rawText : Reader (List Char) := fun s =>
  let marks := s.takeWhile (· = '#')
  match s.drop marks.length with
  | '"' :: r => rawFrom ('"' :: marks) r
  | r => .error ⟨.textExpected, r⟩

/-- Reads a character behind its first mark. -/
def char : Reader Char := fun s => do
  let (c, r) ← match s with
    | [] => .error ⟨.ended, []⟩
    | '\\' :: r => escape r
    | c :: r => .ok (c, r)
  match r with
  | '\'' :: r => return (c, r)
  | r => .error ⟨.charExpected, r⟩

end ThemeEditor.Ron
