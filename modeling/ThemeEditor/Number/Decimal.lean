/-
# ThemeEditor.Number.Decimal -- the double nearest to what a decimal text says

A decimal number is a significand below `2 ^ 64` with a power of ten.  Digits
that would take the significand past that bound are not read into it.

The double is the significand, rounded, then multiplied or divided by the power
of ten, rounded again.  A power beyond `10 ^ 308` is applied in steps; a result
too large for a double is reported as such, a result too small is zero.
-/
import ThemeEditor.Number.Double

namespace ThemeEditor.Number

set_option autoImplicit false

/-- The value of an ASCII digit. -/
def digitValue (c : Char) : Nat :=
  c.toNat - '0'.toNat

/-- Reads digits into `acc` for as long as the result stays at most `bound`;
returns the result, the number of digits read and the digits left over. -/
def absorb (bound : Nat) : Nat → List Char → Nat × Nat × List Char
  | acc, [] => (acc, 0, [])
  | acc, c :: cs =>
      let next := acc * 10 + digitValue c
      if bound < next then (acc, 0, c :: cs)
      else
        let (value, count, rest) := absorb bound next cs
        (value, count + 1, rest)

/-- The largest significand. -/
def maxSignificand : Nat := UInt64.size - 1

/-- The double `10 ^ n` for `n` up to 308. -/
def powerOfTen (n : Nat) : Float :=
  Float.ofScientific 1 false n

/-- Applies a power of ten in steps of at most 308, at most `fuel` of them; `none`
when the number is too large. -/
def applyPower : Nat → Float → Int → Option Float
  | 0, x, _ => some x
  | fuel + 1, x, e =>
      if e.natAbs ≤ 308 then
        if 0 ≤ e then
          let y := x * powerOfTen e.toNat
          if y.isInf then none else some y
        else some (x / powerOfTen e.natAbs)
      else if x == 0.0 then some x
      else if 0 ≤ e then none
      else applyPower fuel (x / powerOfTen 308) (e + 308)

/-- The double of a signed decimal number; `none` when it is too large.  Two
divisions by `10 ^ 308` already leave zero, so four steps are enough. -/
def decimalDouble (negative : Bool) (significand : Nat) (exponent : Int) : Option Double :=
  (applyPower 4 significand.toUInt64.toFloat exponent).map fun x =>
    Double.ofFloat (if negative then -x else x)

end ThemeEditor.Number
