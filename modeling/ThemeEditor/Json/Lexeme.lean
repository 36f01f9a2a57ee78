/-
# ThemeEditor.Json.Lexeme -- white space, words, texts and numbers of JSON

Each function takes the characters from the lexeme on and returns what it read
with the characters after it.

A text is read piece by piece (`piece`): a plain character, an escape, or the
closing quotation mark.  A code point beyond `FFFF` is escaped as a lead and a
trail surrogate; one without the other is refused.

A number keeps as many digits as fit a 64-bit significand (`Number.absorb`).  An
integer outside 64 bits, the integer `-0`, and every number with a fraction or
an exponent are doubles.
-/
import ThemeEditor.Json.Fault
import ThemeEditor.Number.Decimal
import ThemeEditor.Text.Digit

namespace ThemeEditor.Json

set_option autoImplicit false

/-- The white space between lexemes. -/
def isSpace (c : Char) : Bool :=
  c = ' ' || c = '\n' || c = '\t' || c = '\r'

def skipSpace (s : List Char) : List Char :=
  s.dropWhile isSpace

/-- Reads the rest of a word whose first letter is already read. -/
def word : List Char → List Char → Except Fault (List Char)
  | [], s => .ok s
  | _ :: _, [] => .error (.after .endInValue [])
  | w :: ws, c :: s => if w = c then word ws s else .error ⟨.expectedWord, c :: s, 1⟩

/-! ## Texts -/

/-- Four hexadecimal digits, the most significant first. -/
def hexCode? (a b c d : Char) : Option Nat :=
  match Text.hexValue? a, Text.hexValue? b, Text.hexValue? c, Text.hexValue? d with
  | some a, some b, some c, some d => some (((a * 16 + b) * 16 + c) * 16 + d)
  | _, _, _, _ => none

/-- Reads the four digits of a code escape. -/
def hexCode : List Char → Except Fault (Nat × List Char)
  | a :: b :: c :: d :: r =>
      match hexCode? a b c d with
      | some n => .ok (n, r)
      | none => .error ⟨.invalidEscape, a :: b :: c :: d :: r, 4⟩
  | s => if byteSize s < 4 then .error (.after .endInText []) else .error ⟨.invalidEscape, s, 4⟩

/-- The escapes of one letter. -/
def shortEscape? (c : Char) : Option Char :=
  if c = '"' then some '"'
  else if c = '\\' then some '\\'
  else if c = '/' then some '/'
  else if c = 'b' then some '\x08'
  else if c = 'f' then some '\x0c'
  else if c = 'n' then some '\n'
  else if c = 'r' then some '\r'
  else if c = 't' then some '\t'
  else none

/-- What stands behind a backslash: a character, or one 16-bit unit. -/
inductive Escape where
  | character (c : Char)
  | unit (n : Nat)

/-- Reads an escape whose backslash is already read. -/
def escape : List Char → Except Fault (Escape × List Char)
  | [] => .error (.after .endInText [])
  | c :: r =>
      if c = 'u' then
        match hexCode r with
        | .error f => .error f
        | .ok (n, r) => .ok (.unit n, r)
      else
        match shortEscape? c with
        | some e => .ok (.character e, r)
        | none => .error ⟨.invalidEscape, c :: r, 1⟩

def isLead (n : Nat) : Bool := 0xD800 ≤ n && n ≤ 0xDBFF

def isTrail (n : Nat) : Bool := 0xDC00 ≤ n && n ≤ 0xDFFF

/-- The character of a lead and a trail surrogate. -/
def pairedChar (lead trail : Nat) : Char :=
  Char.ofNat (0x10000 + (lead - 0xD800) * 0x400 + (trail - 0xDC00))

/-- Reads the trail surrogate that has to follow a lead. -/
def trailAfter (lead : Nat) : List Char → Except Fault (Char × List Char)
  | [] => .error (.after .endInText [])
  | [c] =>
      if c = '\\' then .error (.after .endInText []) else .error ⟨.endOfSurrogate, [c], 1⟩
  | c :: d :: r =>
      if c ≠ '\\' then .error ⟨.endOfSurrogate, c :: d :: r, 1⟩
      else if d ≠ 'u' then .error ⟨.endOfSurrogate, d :: r, 1⟩
      else
        match hexCode r with
        | .error f => .error f
        | .ok (n, r) =>
            if isTrail n then .ok (pairedChar lead n, r) else .error (.after .loneSurrogate r)

/-- The character of a 16-bit unit, with the unit that has to follow a lead. -/
def unitChar (n : Nat) (r : List Char) : Except Fault (Char × List Char) :=
  if isTrail n then .error (.after .loneSurrogate r)
  else if isLead n then trailAfter n r
  else .ok (Char.ofNat n, r)

/-- Reads one character of a text, or `none` with its closing quotation mark. -/
def piece : List Char → Except Fault (Option Char × List Char)
  | [] => .error (.after .endInText [])
  | c :: r =>
      if c = '"' then .ok (none, r)
      else if c = '\\' then
        match escape r with
        | .error f => .error f
        | .ok (.character e, r) => .ok (some e, r)
        | .ok (.unit n, r) =>
            match unitChar n r with
            | .error f => .error f
            | .ok (u, r) => .ok (some u, r)
      else if c < ' ' then .error (.after .controlCharacter r)
      else .ok (some c, r)

/-- Reads a text of at most `fuel` pieces up to its closing quotation mark. -/
def textFrom : Nat → List Char → Except Fault (List Char × List Char)
  | 0, _ => .error (.after .endInText [])
  | fuel + 1, s =>
      match piece s with
      | .error f => .error f
      | .ok (none, r) => .ok ([], r)
      | .ok (some c, r) =>
          match textFrom fuel r with
          | .error f => .error f
          | .ok (cs, r) => .ok (c :: cs, r)

/-- Reads a text whose opening quotation mark is already read.  Every piece takes
a character, so the fuel suffices. -/
def textBody (s : List Char) : Except Fault (String × List Char) :=
  match textFrom (s.length + 1) s with
  | .error f => .error f
  | .ok (cs, r) => .ok (String.ofList cs, r)

/-! ## Numbers -/

def isDigit (c : Char) : Bool :=
  '0' ≤ c && c ≤ '9'

/-- The double of a significand and an exponent that end before `rest`. -/
def scaled (negative : Bool) (significand : Nat) (exponent : Int) (rest : List Char) :
    Except Fault (Double × List Char) :=
  match Number.decimalDouble negative significand exponent with
  | some d => .ok (d, rest)
  | none => .error (.after .numberOutOfRange rest)

/-- The sign of an exponent: whether it is negative, and what follows. -/
def exponentSign : List Char → Bool × List Char
  | [] => (false, [])
  | c :: r => if c = '-' then (true, r) else if c = '+' then (false, r) else (false, c :: r)

/-- The largest exponent that is read as a number.  Beyond it only the sign counts. -/
def maxExponent : Nat := Nat.pow 2 31 - 1

/-- Reads an exponent whose letter is already read. -/
def exponentFrom (negative : Bool) (significand : Nat) (start : Int) (s : List Char) :
    Except Fault (Double × List Char) :=
  let (down, s) := exponentSign s
  match s with
  | [] => .error (.after .endInValue [])
  | c :: r =>
      if !isDigit c then .error ⟨.invalidNumber, c :: r, 1⟩
      else
        let rest := (c :: r).dropWhile isDigit
        match Number.absorb maxExponent 0 ((c :: r).takeWhile isDigit) with
        | (e, _, []) => scaled negative significand (if down then start - e else start + e) rest
        | (_, _, _ :: more) =>
            if significand ≠ 0 ∧ !down then .error (.after .numberOutOfRange (more ++ rest))
            else scaled negative 0 0 rest

/-- Reads the exponent, if there is one. -/
def exponentPart (negative : Bool) (significand : Nat) (start : Int) :
    List Char → Except Fault (Double × List Char)
  | [] => scaled negative significand start []
  | c :: r =>
      if c = 'e' || c = 'E' then exponentFrom negative significand start r
      else scaled negative significand start (c :: r)

/-- Reads a fraction whose point is already read. -/
def fractionFrom (negative : Bool) (significand : Nat) (start : Int) (s : List Char) :
    Except Fault (Double × List Char) :=
  let digits := s.takeWhile isDigit
  let rest := s.dropWhile isDigit
  if digits.isEmpty then
    .error (.before (if rest.isEmpty then .endInValue else .invalidNumber) rest)
  else
    let (value, count, _) := Number.absorb Number.maxSignificand significand digits
    exponentPart negative value (start - count) rest

/-- The integer of a sign and a significand, if 64 bits hold it. -/
def integerOf? (negative : Bool) (significand : Nat) : Option Int :=
  if !negative then some significand
  else if 0 < significand ∧ significand ≤ Nat.pow 2 63 then some (-significand)
  else none

/-- What follows the whole part of a number; `start` is the count of its digits
beyond the significand. -/
def afterWhole (negative : Bool) (significand start : Nat) :
    List Char → Except Fault (Number × List Char)
  | [] => whole []
  | c :: r =>
      if c = '.' then floating (fractionFrom negative significand start r)
      else if c = 'e' || c = 'E' then floating (exponentFrom negative significand start r)
      else whole (c :: r)
where
  floating : Except Fault (Double × List Char) → Except Fault (Number × List Char)
    | .error f => .error f
    | .ok (d, r) => .ok (.floating d, r)
  whole (rest : List Char) : Except Fault (Number × List Char) :=
    if start = 0 then
      match integerOf? negative significand with
      | some n => .ok (.integer n, rest)
      | none => floating (scaled negative significand 0 rest)
    else floating (scaled negative significand start rest)

/-- Reads a number whose sign is already read.  A leading zero stands alone. -/
def numberFrom (negative : Bool) : List Char → Except Fault (Number × List Char)
  | [] => .error (.after .endInValue [])
  | c :: r =>
      if !isDigit c then .error ⟨.invalidNumber, c :: r, 1⟩
      else if c = '0' then
        if (r.takeWhile isDigit).isEmpty then afterWhole negative 0 0 r
        else .error (.before .invalidNumber r)
      else
        let (value, _, left) :=
          Number.absorb Number.maxSignificand 0 ((c :: r).takeWhile isDigit)
        afterWhole negative value left.length ((c :: r).dropWhile isDigit)

end ThemeEditor.Json
