/-
# ThemeEditor.Web.Host -- the machines that addresses name

A host is a name or a number.  A name whose last label is a number has to be a
number of 32 bits as a whole; one of 128 bits stands in brackets, in eight pieces
of which a run of zeros may be left out.
-/
import ThemeEditor.Web.Domain
import ThemeEditor.Web.Percent

namespace ThemeEditor.Web

set_option autoImplicit false

/-- A host. -/
inductive Host where
  | named (name : String)
  | short (number : UInt32)
  | long (pieces : List UInt16)
  deriving DecidableEq, Repr

namespace Host

/-! ## Numbers of 32 bits -/

/-- Reads digits of a base; nothing is zero. -/
def digitsValue? (base : Nat) (cs : List Char) : Option Nat :=
  cs.foldl
    (fun n? c =>
      match n?, Text.hexValue? c with
      | some n, some d => if d < base then some (n * base + d) else none
      | _, _ => none)
    (some 0)

/-- Reads one part of a number: hexadecimal after `0x`, octal after a zero. -/
def part? : List Char → Option Nat
  | [] => none
  | '0' :: 'x' :: r | '0' :: 'X' :: r => digitsValue? 16 r
  | ['0'] => some 0
  | '0' :: r => digitsValue? 8 r
  | cs => digitsValue? 10 cs

/-- The parts of a name between its points; one point at the end does not count. -/
def parts (name : List Char) : List (List Char) :=
  let ps := name.splitOn '.'
  if 1 < ps.length && ps.getLast? = some [] then ps.dropLast else ps

/-- Whether a name has to be read as a number. -/
def endsInNumber (name : List Char) : Bool :=
  match (parts name).getLast? with
  | none | some [] => false
  | some p => p.all Char.isDigit || (p.take 1 = ['0'] && (part? p).isSome)

/-- The number of some parts: the last one fills the bytes that the others leave. -/
def joinParts : List Nat → Nat → Option Nat
  | [], _ => none
  | [last], room => if last < Nat.pow 256 room then some last else none
  | n :: ns, room =>
      if n < 256 then (joinParts ns (room - 1)).map (n * Nat.pow 256 (room - 1) + ·) else none

/-- Reads a number of 32 bits. -/
def short? (name : List Char) : Option UInt32 := do
  let ps ← (parts name).mapM part?
  if 4 < ps.length then none else (← joinParts ps 4).toUInt32

/-- Four bytes with points between them. -/
def shortText (n : UInt32) : String :=
  let byte := fun (place : Nat) => toString (n.toNat / Nat.pow 256 place % 256)
  ".".intercalate [byte 3, byte 2, byte 1, byte 0]

/-! ## Numbers of 128 bits -/

/-- Reads a piece of 16 bits. -/
def piece? (cs : List Char) : Option UInt16 :=
  if cs.isEmpty || 4 < cs.length then none else (digitsValue? 16 cs).map Nat.toUInt16

/-- Reads a byte in decimal, without a zero in front. -/
def byte? (cs : List Char) : Option Nat :=
  if cs.isEmpty || 3 < cs.length || (1 < cs.length && cs.head? = some '0') then none
  else (digitsValue? 10 cs).filter (· < 256)

/-- Reads a last piece, which may be four bytes with points. -/
def lastPieces? (cs : List Char) : Option (List UInt16) :=
  if cs.contains '.' then
    match (cs.splitOn '.').mapM byte? with
    | some [a, b, c, d] => some [(a * 256 + b).toUInt16, (c * 256 + d).toUInt16]
    | _ => none
  else (piece? cs).map ([·])

/-- Reads pieces with colons between them. -/
def pieces? : List (List Char) → Option (List UInt16)
  | [] => some []
  | [last] => lastPieces? last
  | p :: ps => do return (← piece? p) :: (← pieces? ps)

/-- Reads the pieces on one side of the gap. -/
def side? (cs : List Char) : Option (List UInt16) :=
  if cs.isEmpty then some [] else pieces? (cs.splitOn ':')

/-- Splits a text at its first double colon. -/
def gap? : List Char → Option (List Char × List Char)
  | ':' :: ':' :: r => some ([], r)
  | c :: r => (gap? r).map fun (before, after) => (c :: before, after)
  | [] => none

/-- Reads a number of 128 bits. -/
def long? (cs : List Char) : Option (List UInt16) :=
  match gap? cs with
  | none => (side? cs).filter (·.length = 8)
  | some (before, after) => do
      let front ← side? before
      let back ← side? after
      if before.contains '.' || 7 < front.length + back.length then none
      else some (front ++ List.replicate (8 - front.length - back.length) 0 ++ back)

/-- The number of zeros at the front. -/
def zeros (pieces : List UInt16) : Nat :=
  (pieces.takeWhile (· = 0)).length

/-- The place and length of the first of the longest runs of zeros. -/
def longestGap : Nat → List UInt16 → Nat × Nat
  | _, [] => (0, 0)
  | place, p :: ps =>
      let here := zeros (p :: ps)
      let later := longestGap (place + 1) ps
      if later.2 ≤ here then (place, here) else later

/-- Pieces with colons between them. -/
def piecesText (pieces : List UInt16) : String :=
  ":".intercalate (pieces.map fun p => String.ofList (Nat.toDigits 16 p.toNat))

/-- Eight pieces, without the longest run of two or more zeros. -/
def longText (pieces : List UInt16) : String :=
  let (place, length) := longestGap 0 pieces
  if length < 2 then piecesText pieces
  else piecesText (pieces.take place) ++ "::" ++ piecesText (pieces.drop (place + length))

/-! ## Hosts -/

def text : Host → String
  | named name => name
  | short n => shortText n
  | long pieces => "[" ++ longText pieces ++ "]"

/-- Whether a character cannot be in the name of a host on the web. -/
def isForbidden (c : Char) : Bool :=
  c.toNat ≤ 0x20 || c.toNat = 0x7F || "#%/:<>?@[\\]^|".toList.contains c

/-- Reads a number of 128 bits in brackets. -/
def bracketed? (cs : List Char) : Option Host :=
  if cs.getLast? = some ']' then (long? (cs.drop 1).dropLast).map .long else none

/-- Reads the host of an address of the web. -/
def read (cs : List Char) : Option Host :=
  if cs.head? = some '[' then bracketed? cs
  else
    match Domain.toAscii? (Percent.decode cs) with
    | none => none
    | some name =>
        if name.isEmpty || name.any isForbidden then none
        else if endsInNumber name then (short? name).map .short
        else some (.named (String.ofList name))

/-- Whether a character cannot be in the host of any address. -/
def isBarred (c : Char) : Bool :=
  c.toNat = 0 || "\t\n\r #/:<>?@[\\]^|".toList.contains c

/-- Reads the host of an address that is not of the web; its name is kept as it is. -/
def readOther (cs : List Char) : Option Host :=
  if cs.head? = some '[' then bracketed? cs
  else if cs.any isBarred then none
  else some (.named (String.ofList (Percent.encode [] cs)))

end Host

end ThemeEditor.Web
