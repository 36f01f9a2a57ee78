/-
# ThemeEditor.Text.Utf8 -- text from any bytes

Bytes that are not UTF-8 are read as the replacement character, one for each
longest piece that begins a character, or for a single byte that cannot.
-/
namespace ThemeEditor.Text

set_option autoImplicit false

/-- The character that stands for what cannot be read. -/
def replacementChar : Char := '\ufffd'

/-- A byte inside a character that has several. -/
def isContinuation (b : UInt8) : Bool :=
  0x80 ≤ b && b ≤ 0xBF

/-- The number of bytes behind a first byte, and the range of the second one. -/
def sequence? (b : UInt8) : Option (Nat × UInt8 × UInt8) :=
  if 0xC2 ≤ b && b ≤ 0xDF then some (1, 0x80, 0xBF)
  else if b = 0xE0 then some (2, 0xA0, 0xBF)
  else if b = 0xED then some (2, 0x80, 0x9F)
  else if 0xE1 ≤ b && b ≤ 0xEF then some (2, 0x80, 0xBF)
  else if b = 0xF0 then some (3, 0x90, 0xBF)
  else if 0xF1 ≤ b && b ≤ 0xF3 then some (3, 0x80, 0xBF)
  else if b = 0xF4 then some (3, 0x80, 0x8F)
  else none

/-- The bytes behind a first byte that belong to it. -/
def following (b : UInt8) (rest : List UInt8) : List UInt8 :=
  match sequence? b, rest with
  | some (count, low, high), c :: cs =>
      if low ≤ c && c ≤ high then c :: (cs.take (count - 1)).takeWhile isContinuation else []
  | _, _ => []

/-- The character of a first byte and those that belong to it. -/
def charOf (b : UInt8) (more : List UInt8) : Char :=
  if b < 0x80 then Char.ofNat b.toNat
  else
    match sequence? b with
    | none => replacementChar
    | some (count, _, _) =>
        if more.length < count then replacementChar
        else
          let lead := b.toNat % Nat.pow 2 (6 - count)
          Char.ofNat (more.foldl (fun n c => n * 64 + c.toNat % 64) lead)

/-- Reads at most `fuel` characters. -/
def lossyFrom : Nat → List UInt8 → List Char
  | 0, _ => []
  | _ + 1, [] => []
  | fuel + 1, b :: rest =>
      let more := following b rest
      charOf b more :: lossyFrom fuel (rest.drop more.length)

/-- The text of some bytes. -/
def lossy (bytes : ByteArray) : String :=
  match String.fromUTF8? bytes with
  | some text => text
  | none => String.ofList (lossyFrom bytes.size bytes.toList)

end ThemeEditor.Text
