/-
# ThemeEditor.Json.Skip -- values that are passed over

The value of an unknown key is checked against the grammar and forgotten, to any
depth.  The check is laxer than reading: escaped surrogates need no partner and
numbers no range.
-/
import ThemeEditor.Json.Lexeme

namespace ThemeEditor.Json

set_option autoImplicit false

/-- Passes over a text of at most `fuel` pieces up to its closing quotation mark. -/
def skipTextFrom : Nat → List Char → Except Fault (List Char)
  | 0, _ => .error (.after .endInText [])
  | _ + 1, [] => .error (.after .endInText [])
  | fuel + 1, c :: r =>
      if c = '"' then .ok r
      else if c = '\\' then
        match escape r with
        | .error f => .error f
        | .ok (_, r) => skipTextFrom fuel r
      else if c < ' ' then .error (.after .controlCharacter (c :: r))
      else skipTextFrom fuel r

/-- Passes over a text whose opening quotation mark is already read. -/
def skipText (s : List Char) : Except Fault (List Char) :=
  skipTextFrom (s.length + 1) s

/-- Passes over an exponent whose letter is already read. -/
def skipExponent (s : List Char) : Except Fault (List Char) :=
  match (exponentSign s).2 with
  | [] => .error (.after .invalidNumber [])
  | c :: r =>
      if isDigit c then .ok (r.dropWhile isDigit) else .error ⟨.invalidNumber, c :: r, 1⟩

/-- Passes over an exponent, if there is one. -/
def skipExponentPart : List Char → Except Fault (List Char)
  | [] => .ok []
  | c :: r => if c = 'e' || c = 'E' then skipExponent r else .ok (c :: r)

/-- Passes over a fraction and an exponent, if there are any. -/
def skipFractionPart : List Char → Except Fault (List Char)
  | [] => .ok []
  | c :: r =>
      if c = '.' then
        if (r.takeWhile isDigit).isEmpty then .error (.before .invalidNumber r)
        else skipExponentPart (r.dropWhile isDigit)
      else skipExponentPart (c :: r)

/-- Passes over a number whose sign is already read. -/
def skipNumber : List Char → Except Fault (List Char)
  | [] => .error (.after .invalidNumber [])
  | c :: r =>
      if !isDigit c then .error ⟨.invalidNumber, c :: r, 1⟩
      else if c = '0' then
        if (r.takeWhile isDigit).isEmpty then skipFractionPart r
        else .error (.before .invalidNumber r)
      else skipFractionPart (r.dropWhile isDigit)

/-- Passes over the colon behind a key. -/
def colon (s : List Char) : Except Fault (List Char) :=
  match skipSpace s with
  | [] => .error (.before .endInObject [])
  | c :: r => if c = ':' then .ok r else .error (.before .expectedColon (c :: r))

mutual

/-- Passes over a value. -/
def skipValueFrom : Nat → List Char → Except Fault (List Char)
  | 0, _ => .error (.before .endInValue [])
  | fuel + 1, s =>
      match skipSpace s with
      | [] => .error (.before .endInValue [])
      | c :: r =>
          if c = 'n' then word ['u', 'l', 'l'] r
          else if c = 't' then word ['r', 'u', 'e'] r
          else if c = 'f' then word ['a', 'l', 's', 'e'] r
          else if c = '-' then skipNumber r
          else if isDigit c then skipNumber (c :: r)
          else if c = '"' then skipText r
          else if c = '[' then
            match skipSpace r with
            | [] => .error (.before .endInList [])
            | d :: t => if d = ']' then .ok t else skipItemsFrom fuel (d :: t)
          else if c = '{' then
            match skipSpace r with
            | [] => .error (.before .endInObject [])
            | d :: t => if d = '}' then .ok t else skipMembersFrom fuel (d :: t)
          else .error (.before .expectedValue (c :: r))

/-- Passes over the items of a list, at least one, and the closing bracket. -/
def skipItemsFrom : Nat → List Char → Except Fault (List Char)
  | 0, _ => .error (.before .endInValue [])
  | fuel + 1, s =>
      match skipValueFrom fuel s with
      | .error f => .error f
      | .ok r =>
          match skipSpace r with
          | [] => .error (.before .endInList [])
          | c :: t =>
              if c = ',' then skipItemsFrom fuel t
              else if c = ']' then .ok t
              else .error (.before .expectedCommaOrBracket (c :: t))

/-- Passes over the members of an object, at least one, and the closing brace. -/
def skipMembersFrom : Nat → List Char → Except Fault (List Char)
  | 0, _ => .error (.before .endInValue [])
  | fuel + 1, s =>
      match skipSpace s with
      | [] => .error (.before .endInObject [])
      | q :: k =>
          if q ≠ '"' then .error (.before .keyNotText (q :: k))
          else
            match skipText k with
            | .error f => .error f
            | .ok r =>
                match colon r with
                | .error f => .error f
                | .ok v =>
                    match skipValueFrom fuel v with
                    | .error f => .error f
                    | .ok r =>
                        match skipSpace r with
                        | [] => .error (.before .endInObject [])
                        | c :: t =>
                            if c = ',' then skipMembersFrom fuel t
                            else if c = '}' then .ok t
                            else .error (.before .expectedCommaOrBrace (c :: t))

end

/-- Passes over a value.  Each nested value takes a character, so twice the length
is fuel enough. -/
def skipValue (s : List Char) : Except Fault (List Char) :=
  skipValueFrom (2 * s.length + 2) s

end ThemeEditor.Json
