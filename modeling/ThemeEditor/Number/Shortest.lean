/-
# ThemeEditor.Number.Shortest -- the fewest decimal digits that read back

Every real number close enough to a double rounds to it.  `shortest` finds the
coarsest decimal grid with a point in that interval and takes the point nearest
to the double, so no decimal with fewer digits reads back as the same double.

All steps are exact arithmetic on natural numbers.  A quarter of the spacing is
the unit: the double is `4 * m` units, its upper neighbour is half a spacing, so
two units, away, and the lower end is one unit away where the spacing halves.

`FloatStyle` holds what a format decides for itself: where positional notation
ends, whether a whole number keeps a fraction, and how an exponent is written.
-/
import ThemeEditor.Number.Double

namespace ThemeEditor.Number

set_option autoImplicit false

/-- Decimal digits `d₁ d₂ …` standing for `d₁.d₂… * 10 ^ exponent`. -/
structure Digits where
  digits : List Char
  exponent : Int
  deriving DecidableEq, Repr

/-- The position of the first digit of the positive fraction `num / den`, if that
is at least `10 ^ -400`. -/
def leadingExponent (num den : Nat) : Int :=
  ((Nat.toDigits 10 (num * Nat.pow 10 400 / den)).length : Int) - 401

/-- The interval of reals that round to a double, on a decimal grid: the double
is `middle / den` grid steps, and the ends belong to it when `closed` is set. -/
structure Window where
  low : Nat
  middle : Nat
  high : Nat
  den : Nat
  closed : Bool

namespace Window

/-- The window of a finite double on the grid of step `10 ^ step`. -/
def of (d : Double) (step : Int) : Window :=
  let unit := d.scale - 2
  let mul := Nat.pow 2 unit.toNat * Nat.pow 10 (-step).toNat
  let m := 4 * d.mantissa
  { low := (m - if d.atBinade then 1 else 2) * mul
    middle := m * mul
    high := (m + 2) * mul
    den := Nat.pow 2 (-unit).toNat * Nat.pow 10 step.toNat
    closed := d.mantissa % 2 == 0 }

/-- Whether the grid point `n` lies in the window. -/
def contains (w : Window) (n : Nat) : Bool :=
  if w.closed then w.low ≤ n * w.den && n * w.den ≤ w.high
  else w.low < n * w.den && n * w.den < w.high

/-- The grid point of the window nearest to its middle; the even one of two. -/
def nearest? (w : Window) : Option Nat :=
  let below := w.middle / w.den
  let above := below + 1
  match w.contains below, w.contains above with
  | false, false => none
  | true, false => some below
  | false, true => some above
  | true, true =>
      let down := w.middle - below * w.den
      let up := above * w.den - w.middle
      if down < up then some below
      else if up < down then some above
      else if below % 2 = 0 then some below else some above

end Window

/-- The first grid with a point in the window, from `count` digits on. -/
def shortestFrom (d : Double) (lead : Int) : Nat → Nat → Option (Nat × Int)
  | 0, _ => none
  | fuel + 1, count =>
      let step := lead - (count : Int) + 1
      match (Window.of d step).nearest? with
      | some n => if n = 0 then shortestFrom d lead fuel (count + 1) else some (n, step)
      | none => shortestFrom d lead fuel (count + 1)

/-- The shortest digits of a finite double other than zero, sign aside.  Seventeen
digits always suffice. -/
def shortest (d : Double) : Digits :=
  let lead := leadingExponent (d.mantissa * Nat.pow 2 d.scale.toNat) (Nat.pow 2 (-d.scale).toNat)
  match shortestFrom d lead 17 1 with
  | none => ⟨['0'], 0⟩
  | some (n, step) =>
      let all := Nat.toDigits 10 n
      let kept := (all.reverse.dropWhile (· = '0')).reverse
      ⟨kept, step + (all.length : Int) - 1⟩

/-- How a format writes floating point numbers. -/
structure FloatStyle where
  /-- The least exponent written positionally. -/
  lowest : Int
  /-- The greatest exponent written positionally. -/
  highest : Int
  /-- Whether a whole number in positional notation ends in `.0`. -/
  keepsFraction : Bool
  /-- The text of the undefined number. -/
  undefined : String
  /-- The text of infinity. -/
  infinite : String

namespace FloatStyle

/-- Positional notation: zeros fill the places between the digits and the point. -/
def positional (style : FloatStyle) (d : Digits) : List Char :=
  if d.exponent < 0 then
    ['0', '.'] ++ List.replicate ((-d.exponent).toNat - 1) '0' ++ d.digits
  else
    let places := d.exponent.toNat + 1
    let whole := d.digits.take places
    let rest := d.digits.drop places
    let filled := whole ++ List.replicate (places - whole.length) '0'
    if rest.isEmpty then filled ++ (if style.keepsFraction then ['.', '0'] else [])
    else filled ++ ['.'] ++ rest

/-- Scientific notation: one digit before the point and a signed exponent. -/
def scientific (d : Digits) : List Char :=
  let fraction := d.digits.drop 1
  let sign := if d.exponent < 0 then '-' else '+'
  d.digits.take 1 ++ (if fraction.isEmpty then [] else '.' :: fraction) ++
    ['e', sign] ++ Nat.toDigits 10 d.exponent.natAbs

/-- The text of a double. -/
def write (style : FloatStyle) (d : Double) : String :=
  let sign : String := if d.isNegative then "-" else ""
  if !d.isFinite then
    if d.fractionBits = 0 then sign ++ style.infinite else style.undefined
  else if d.mantissa = 0 then
    sign ++ (if style.keepsFraction then "0.0" else "0")
  else
    let s := shortest d
    let body :=
      if style.lowest ≤ s.exponent && s.exponent ≤ style.highest then style.positional s
      else scientific s
    sign ++ String.ofList body

end FloatStyle

end ThemeEditor.Number
