/-
# ThemeEditor.Toml.Scalar -- words, numbers and dates of TOML

A scalar without quotation marks is one run of characters; only a date may be
followed by a space and a time.  How the run begins tells what it is meant to
be, and the rest has to follow.  A date or a time is kept as its text, written
the one way.

A number is kept as it is written, because a document can be read whose numbers
have no value here: `Scalar.value` is what gives them one.  Its faults are those
of the number and not of the document.
-/
import ThemeEditor.Json.Value
import ThemeEditor.Number.Nearest
import ThemeEditor.Toml.Lexeme

namespace ThemeEditor.Toml

set_option autoImplicit false

open ThemeEditor.Json (Value isDigit)

/-- A scalar without quotation marks. -/
inductive Scalar where
  | boolean (value : Bool)
  /-- An integer: its sign and digits, without underscores. -/
  | integer (base : Nat) (digits : List Char)
  /-- A float, without underscores. -/
  | floating (digits : List Char)
  /-- A date, a time, or both. -/
  | moment (text : List Char)
  deriving DecidableEq, Repr

/-! ## The shapes of numbers -/

def isHexDigit (c : Char) : Bool := (Text.hexValue? c).isSome

/-- Whether a digit begins a part that stands behind an underscore. -/
def beginsWell (digit : Char → Bool) (part : List Char) : Bool :=
  part.head?.all digit

/-- Whether a digit ends a part that stands in front of an underscore.  A part of one
character is held against what stands around it. -/
def endsWell (digit : Char → Bool) (part : List Char) : Bool :=
  part.length ≤ 1 || part.getLast?.all digit

/-- A number without its underscores, which may only stand between digits. -/
def withoutUnderscores? (digit : Char → Bool) (s : List Char) : Option (List Char) :=
  match s.splitOn '_' with
  | first :: second :: more =>
      let rest := second :: more
      let isWhole := fun part => !part.isEmpty && beginsWell digit part && endsWell digit part
      let last := rest.getLastD []
      if !first.isEmpty && endsWell digit first && rest.dropLast.all isWhole &&
          !last.isEmpty && beginsWell digit last then
        some (first ++ rest.flatten)
      else none
  | _ => some s

/-- Whether a character belongs to the digits of a float. -/
def isPlace (c : Char) : Bool :=
  isDigit c || c = '_'

/-- What follows the digits before the point of a float. -/
def afterWhole? (s : List Char) : Option (List Char) :=
  let count := ((s.takeWhile isPlace).filter isDigit).length
  if count = 0 || (1 < count && s.head? = some '0') then none else some (s.dropWhile isPlace)

/-- What follows digits of which there has to be one. -/
def afterDigits? (s : List Char) : Option (List Char) :=
  if (s.takeWhile isPlace).any isDigit then some (s.dropWhile isPlace) else none

/-- Whether a text has the shape of a float, underscores aside. -/
def isFloat (s : List Char) : Bool :=
  let rest? : Option (List Char) := do
    let r ← afterWhole? s
    let r ← match r with
      | '.' :: r => afterDigits? r
      | r => some r
    match r with
    | 'e' :: r | 'E' :: r => afterDigits? (Number.splitSign r).2
    | r => some r
  rest? = some []

/-- An integer in a base other than ten, behind its letter. -/
def radixInteger? (base : Nat) (s : List Char) : Option Scalar :=
  let fits := fun c => c = '_' || (Text.hexValue? c).any (· < base)
  if s.all fits then (withoutUnderscores? isHexDigit s).map (.integer base) else none

/-- Reads what begins with a digit or an underscore behind its sign; `whole` has the
sign. -/
def number? (whole s : List Char) : Option Scalar :=
  let rest := s.dropWhile isDigit
  let isDecimal := s.head? ≠ some '0' || s = ['0']
  match rest with
  | [] => if isDecimal then some (.integer 10 whole) else none
  | c :: _ =>
      if c = '-' || c = ':' || rest.contains ' ' then some (.moment whole)
      else if rest.any fun c => c = '.' || c = 'e' || c = 'E' then
        if isFloat s then (withoutUnderscores? isDigit whole).map .floating else none
      else if c = '_' && isDecimal then (withoutUnderscores? isHexDigit whole).map (.integer 10)
      else none

/-- Reads a number or a moment. -/
def numeric? (whole : List Char) : Option Scalar :=
  let s := match whole with
    | '-' :: r | '+' :: r => r
    | s => s
  match s with
  | ['i', 'n', 'f'] | ['n', 'a', 'n'] => some (.floating whole)
  | '0' :: 'x' :: r => if s = whole then radixInteger? 16 r else none
  | '0' :: 'o' :: r => if s = whole then radixInteger? 8 r else none
  | '0' :: 'b' :: r => if s = whole then radixInteger? 2 r else none
  | c :: _ => if isPlace c then number? whole s else none
  | [] => none

/-! ## The values of numbers -/

/-- Why a number has no value. -/
inductive NumberFault where
  | noDigits
  | badDigit
  | tooLarge
  | tooSmall
  | overflow
  deriving DecidableEq, Repr

def NumberFault.message : NumberFault → String
  | noDigits => "cannot parse integer from empty string"
  | badDigit => "invalid digit found in string"
  | tooLarge => "number too large to fit in target type"
  | tooSmall => "number too small to fit in target type"
  | overflow => "floating-point number overflowed"

/-- Reads digits behind the number `n`; what is wrong first counts. -/
def integerFrom (base : Nat) (isNegative : Bool) : Int → List Char → Except NumberFault Int
  | n, [] => .ok n
  | n, c :: r =>
      match (Text.hexValue? c).filter (· < base) with
      | none => .error .badDigit
      | some digit =>
          let next := if isNegative then n * base - digit else n * base + digit
          if next < -(Nat.pow 2 63 : Int) then .error .tooSmall
          else if (Nat.pow 2 63 : Int) ≤ next then .error .tooLarge
          else integerFrom base isNegative next r

/-- The value of an integer, which has 64 bits. -/
def integerValue (base : Nat) (s : List Char) : Except NumberFault Int :=
  let (isNegative, digits) := Number.splitSign s
  if s.isEmpty then .error .noDigits
  else if digits.isEmpty then .error .badDigit
  else integerFrom base isNegative 0 digits

/-- The value of a float.  It may only be infinite when it says so. -/
def floatValue (s : List Char) : Except NumberFault Double :=
  let (isNegative, places) := Number.splitSign s
  let signed := fun (x : Float) => Double.ofFloat (if isNegative then -x else x)
  if places = ['i', 'n', 'f'] then .ok (signed (1.0 / 0.0))
  else if places = ['n', 'a', 'n'] then .ok (Double.ofFloat (0.0 / 0.0))
  else
    let x := Number.floatOf places
    if x.isInf then .error .overflow else .ok (signed x)

/-- The value of a scalar. -/
def Scalar.value : Scalar → Except NumberFault Value
  | .boolean b => .ok (.boolean b)
  | .integer base digits => (integerValue base digits).map fun n => .number (.integer n)
  | .floating digits => (floatValue digits).map fun d => .number (.floating d)
  | .moment t => .ok (.text (String.ofList t))

/-! ## Dates and times -/

/-- Reads a number of exactly `count` digits. -/
def fixed (count : Nat) : Reader Nat := fun s =>
  let digits := s.take count
  if digits.length = count && digits.all isDigit then
    some (Text.digitsValue 10 digits, s.drop count)
  else none

/-- The number of days of a month. -/
def daysOf (year month : Nat) : Nat :=
  if month = 2 then
    if year % 4 = 0 && (year % 100 != 0 || year % 400 = 0) then 29 else 28
  else if month = 4 || month = 6 || month = 9 || month = 11 then 30
  else 31

/-- Reads one character. -/
def exactly (c : Char) : List Char → Option (List Char)
  | d :: r => if c = d then some r else none
  | [] => none

/-- Reads a date and returns what follows it. -/
def date? (s : List Char) : Option (List Char) := do
  let (year, r) ← fixed 4 s
  let (month, r) ← fixed 2 (← exactly '-' r)
  let (day, r) ← fixed 2 (← exactly '-' r)
  if 1 ≤ month && month ≤ 12 && 1 ≤ day && day ≤ daysOf year month then some r else none

/-- Reads a fraction of a second: nine digits at most, and no zeros at the end but the
only digit. -/
def fraction (s : List Char) : Option (List Char × List Char) :=
  match s with
  | '.' :: r =>
      let digits := r.takeWhile isDigit
      if digits.isEmpty then none
      else
        let kept := ((digits.take 9).reverse.dropWhile (· = '0')).reverse
        some ('.' :: (if kept.isEmpty then ['0'] else kept), r.dropWhile isDigit)
  | s => some ([], s)

/-- Reads a time and writes it the one way. -/
def time : Reader (List Char) := fun s => do
  let (hour, r) ← fixed 2 s
  let (minute, r) ← fixed 2 (← exactly ':' r)
  if 23 < hour || 59 < minute then none
  else
    match r with
    | ':' :: r =>
        let (second, r) ← fixed 2 r
        if 60 < second then none
        else
          let (rest, r) ← fraction r
          return (s.take 8 ++ rest, r)
    | r => return (s.take 5, r)

/-- Reads the distance from universal time, to the end of the text.  No distance is a
positive one. -/
def offset? (s : List Char) : Option (List Char) :=
  match s with
  | [] => some []
  | [c] => if c = 'Z' || c = 'z' then some ['Z'] else none
  | c :: r => do
      if c != '+' && c != '-' then none
      else
        let (hour, t) ← fixed 2 r
        let (minute, t) ← fixed 2 (← exactly ':' t)
        if t.isEmpty && hour ≤ 23 && minute ≤ 59 then
          some ((if hour = 0 && minute = 0 then '+' else c) :: r)
        else none

/-- Reads a date, a time, or both. -/
def dateTime? (s : List Char) : Option (List Char) :=
  match date? s with
  | none => do
      let (t, r) ← time s
      if r.isEmpty then some t else none
  | some [] => some s
  | some (c :: r) => do
      if c != 'T' && c != 't' && c != ' ' then none
      else
        let (t, r) ← time r
        let zone ← offset? r
        return s.take 10 ++ 'T' :: t ++ zone

/-! ## Scalars -/

/-- Whether a character belongs to a scalar without quotation marks. -/
def isScalarChar (c : Char) : Bool :=
  !"=,[]\x7b\x7d #\t\r\n".toList.contains c

/-- The run of characters of a scalar; a date may go on behind a space. -/
def scalarRun (s : List Char) : List Char × List Char :=
  let first := s.takeWhile isScalarChar
  let rest := s.dropWhile isScalarChar
  match rest with
  | ' ' :: d :: r =>
      if isDigit d && date? first = some [] then
        (first ++ ' ' :: (d :: r).takeWhile isScalarChar, (d :: r).dropWhile isScalarChar)
      else (first, rest)
  | _ => (first, rest)

/-- The scalar that a run of characters is. -/
def scalarOf? (s : List Char) : Option Scalar :=
  if s = ['t', 'r', 'u', 'e'] then some (.boolean true)
  else if s = ['f', 'a', 'l', 's', 'e'] then some (.boolean false)
  else
    match numeric? s with
    | some (.moment t) => (dateTime? t).map .moment
    | found => found

/-- Reads a scalar without quotation marks. -/
def scalar : Reader Scalar := fun s =>
  let (run, rest) := scalarRun s
  (scalarOf? run).map fun v => (v, rest)

end ThemeEditor.Toml
