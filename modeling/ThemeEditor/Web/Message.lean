/-
# ThemeEditor.Web.Message -- requests and responses as bytes

A request asks for the connection to be closed after its response, so a response
is read from everything that came until then.  Its head is a line with its
number, lines with a name and a value, and an empty line.  Its body is as long as
announced, comes in chunks of announced lengths, or goes to the end.
-/
import ThemeEditor.Web.Exchange

namespace ThemeEditor.Web

set_option autoImplicit false

/-- The bytes that ask for a place. -/
def Address.requestBytes (a : Address) : ByteArray :=
  s!"{a.requestLine}\r\nhost: {a.server}\r\naccept: */*\r\nconnection: close\r\n\r\n".toUTF8

namespace Response

/-! ## The head -/

/-- The bytes of an ASCII text. -/
def bytesOf (t : String) : List UInt8 :=
  t.toUTF8.toList

/-- The text of some bytes. -/
def textOf (bytes : List UInt8) : String :=
  Text.lossy ⟨bytes.toArray⟩

def lineEnd : UInt8 := 10

/-- A return, which may stand before the end of a line. -/
def carriageReturn : UInt8 := 13

def colon : UInt8 := 58

def semicolon : UInt8 := 59

/-- Reads a line. -/
def line? (bytes : List UInt8) : Option (List UInt8 × List UInt8) :=
  match bytes.dropWhile (· ≠ lineEnd) with
  | [] => none
  | _ :: rest =>
      let line := bytes.takeWhile (· ≠ lineEnd)
      some (if line.getLast? = some carriageReturn then line.dropLast else line, rest)

/-- Whether a byte can be in a name. -/
def isNameByte (b : UInt8) : Bool :=
  let c := Char.ofNat b.toNat
  b < 0x80 && (c.isAlphanum || "!#$%&'*+-.^_\x60|~".toList.contains c)

def isBlank (b : UInt8) : Bool :=
  b = 32 || b = 9

/-- Whether a byte can be in a value: controls cannot, but for the tab. -/
def isValueByte (b : UInt8) : Bool :=
  b = 9 || (32 ≤ b && b ≠ 127)

/-- A line with a name and a value. -/
structure Field where
  /-- In lower case. -/
  name : String
  value : List UInt8

/-- Reads a name, a colon, and a value without the blanks around it. -/
def field? (line : List UInt8) : Option Field :=
  let name := line.takeWhile isNameByte
  match line.dropWhile isNameByte with
  | sign :: value =>
      if !name.isEmpty && sign = colon && value.all isValueByte then
        some ⟨Text.lower (textOf name),
          ((value.dropWhile isBlank).reverse.dropWhile isBlank).reverse⟩
      else none
  | [] => none

/-- Reads the lines up to an empty one, and returns what follows; `fuel` bounds their
number. -/
def fields? : Nat → List UInt8 → Option (List Field × List UInt8)
  | 0, _ => none
  | fuel + 1, bytes =>
      match line? bytes with
      | none => none
      | some ([], rest) => some ([], rest)
      | some (line, rest) =>
          match field? line, fields? fuel rest with
          | some field, some (fields, rest) => some (field :: fields, rest)
          | _, _ => none

/-- The value of the first line with a name. -/
def value? (fields : List Field) (name : String) : Option (List UInt8) :=
  (fields.find? fun field => field.name = name).map Field.value

/-- The number in the first line of a response. -/
def status? (line : List UInt8) : Option Nat :=
  let version := line.take 8
  let digits := (textOf ((line.drop 9).takeWhile (· ≠ 32))).toList
  let isKnown := version = bytesOf "HTTP/1.1" || version = bytesOf "HTTP/1.0"
  if isKnown && (line.drop 8).head? = some 32 && digits.length = 3 &&
      digits.all Char.isDigit then
    some (Text.digitsValue 10 digits)
  else none

/-! ## The body -/

/-- Joins chunks; tells whether the last one is there. -/
def chunks : Nat → List UInt8 → List UInt8 × Bool
  | 0, _ => ([], false)
  | fuel + 1, bytes =>
      let size := bytes.takeWhile fun b => b ≠ lineEnd && b ≠ carriageReturn && b ≠ semicolon
      let rest := (bytes.dropWhile (· ≠ lineEnd)).drop 1
      match size, Host.digitsValue? 16 ((textOf size).toList.filter (· ≠ ' ')) with
      | [], _ | _, none => ([], false)
      | _, some 0 => ([], true)
      | _, some n =>
          if rest.length < n then (rest, false)
          else
            let (more, isComplete) := chunks fuel ((rest.drop n).drop 2)
            (rest.take n ++ more, isComplete)

/-- The body behind a head, and whether it is complete. -/
def bodyOf (fields : List Field) (rest : List UInt8) : List UInt8 × Bool :=
  if (value? fields "transfer-encoding").any fun v => Text.lower (textOf v) = "chunked" then
    chunks rest.length rest
  else
    match (value? fields "content-length").bind fun v => Host.digitsValue? 10 (textOf v).toList with
    | some n => (rest.take n, n ≤ rest.length)
    | none => (rest, true)

/-! ## The whole -/

/-- The place that a response names, if it is text. -/
def location? (fields : List Field) : Option String :=
  (value? fields "location").bind fun v => String.fromUTF8? ⟨v.toArray⟩

/-- Reads a response, leaving out those that only announce one; `fuel` bounds their
number. -/
def readFrom : Nat → List UInt8 → Option Response
  | 0, _ => none
  | fuel + 1, bytes =>
      match line? bytes with
      | none => none
      | some (first, rest) =>
          match status? first, fields? rest.length rest with
          | some status, some (fields, rest) =>
              if Status.isFinal status then
                let (body, isComplete) := bodyOf fields rest
                some ⟨status, location? fields, ⟨body.toArray⟩, !isComplete⟩
              else if 100 ≤ status then readFrom fuel rest
              else none
          | _, _ => none

/-- Reads a response; `none` if it is none. -/
def read (bytes : ByteArray) : Option Response :=
  readFrom bytes.size bytes.toList

end Response

end ThemeEditor.Web
