/-
# ThemeEditor.Number.Nearest -- numbers as people write them

A number is a sign, digits, a point with more digits, and an exponent; all but
one digit may be left out.  Its value is the double nearest to it, or an integer
of 64 bits.
-/
import ThemeEditor.Number.Double
import ThemeEditor.Text.Digit

namespace ThemeEditor.Number

set_option autoImplicit false

/-- A sign and what follows it: whether it is negative. -/
def splitSign : List Char → Bool × List Char
  | '-' :: r => (true, r)
  | '+' :: r => (false, r)
  | s => (false, s)

/-- The double nearest to decimal digits times a power of ten, sign aside.  What lies far
beyond the doubles is not computed. -/
def decimal (digits : List Char) (exponent : Int) : Float :=
  let digits := digits.dropWhile (· = '0')
  let n := Text.digitsValue 10 digits
  let size : Int := digits.length
  if n = 0 || exponent + size < -400 then 0.0
  else if 400 < exponent + size then 1.0 / 0.0
  else if 0 ≤ exponent then Float.ofScientific n false exponent.toNat
  else Float.ofScientific n true exponent.natAbs

/-- The exponent behind its letter; nothing is zero. -/
def exponentOf (s : List Char) : Int :=
  let (isNegative, digits) := splitSign s
  let n : Int := Text.digitsValue 10 digits
  if isNegative then -n else n

/-- The double nearest to a float, sign aside. -/
def floatOf (s : List Char) : Float :=
  let isLetter := fun c => c = 'e' || c = 'E'
  let places := s.takeWhile (!isLetter ·)
  let fraction := (places.dropWhile (· ≠ '.')).drop 1
  decimal (places.takeWhile (· ≠ '.') ++ fraction)
    (exponentOf ((s.dropWhile (!isLetter ·)).drop 1) - fraction.length)

/-- What follows an exponent, if all of it is one. -/
def isExponent (s : List Char) : Bool :=
  match s with
  | [] => true
  | c :: r =>
      let digits := (splitSign r).2
      (c = 'e' || c = 'E') && !digits.isEmpty && digits.all Char.isDigit

/-- Whether a text is a number. -/
def isWritten (s : List Char) : Bool :=
  let s := (splitSign s).2
  let whole := s.takeWhile Char.isDigit
  match s.dropWhile Char.isDigit with
  | '.' :: r =>
      !(whole.isEmpty && (r.takeWhile Char.isDigit).isEmpty) &&
        isExponent (r.dropWhile Char.isDigit)
  | r => !whole.isEmpty && isExponent r

/-- The double nearest to a number; one that is too large is infinite. -/
def double? (s : List Char) : Option Double :=
  if isWritten s then
    let (isNegative, places) := splitSign s
    let x := floatOf places
    some (Double.ofFloat (if isNegative then -x else x))
  else none

/-- The integer that a sign and digits of a base write. -/
def signed? (base : Nat) (s : List Char) : Option Int :=
  let (isNegative, digits) := splitSign s
  let isDigit := fun c => (Text.hexValue? c).any (· < base)
  if digits.isEmpty || !digits.all isDigit then none
  else
    let n : Int := Text.digitsValue base digits
    some (if isNegative then -n else n)

/-- The integer of 64 bits that a sign and digits of a base write. -/
def integer64? (base : Nat) (s : List Char) : Option Int :=
  (signed? base s).filter fun n => -(Nat.pow 2 63 : Int) ≤ n && n < (Nat.pow 2 63 : Int)

end ThemeEditor.Number
