/-
# ThemeEditor.Web.Punycode -- labels of names in ASCII

A label with characters beyond ASCII is written as its ASCII characters, a
hyphen, and the differences between its other characters in ascending order,
each as a number of variable length whose digits adapt to the ones before.
-/
namespace ThemeEditor.Web.Punycode

set_option autoImplicit false

/-! ## Numbers of variable length -/

/-- A digit of base 36: letters, then numerals. -/
def digit (n : Nat) : Char :=
  if n < 26 then Char.ofNat ('a'.toNat + n) else Char.ofNat ('0'.toNat + (n - 26))

/-- The largest final digit at a position, one more than it. -/
def threshold (position bias : Nat) : Nat :=
  if position ≤ bias then 1 else if bias + 26 ≤ position then 26 else position - bias

/-- The digits of a number; `fuel` bounds their count. -/
def digits (bias : Nat) : Nat → Nat → Nat → List Char
  | 0, _, _ => []
  | fuel + 1, position, n =>
      let t := threshold position bias
      if n < t then [digit n]
      else
        digit (t + (n - t) % (36 - t)) :: digits bias fuel (position + 36) ((n - t) / (36 - t))

/-- Divides until little is left, and counts the divisions in steps of 36. -/
def shrink : Nat → Nat → Nat → Nat × Nat
  | 0, delta, steps => (delta, steps)
  | fuel + 1, delta, steps =>
      if 455 < delta then shrink fuel (delta / 35) (steps + 36) else (delta, steps)

/-- The bias after a difference; `count` characters are written. -/
def adapt (delta count : Nat) (isFirst : Bool) : Nat :=
  let delta := if isFirst then delta / 700 else delta / 2
  let delta := delta + delta / count
  let (delta, steps) := shrink delta delta 0
  steps + 36 * delta / (delta + 38)

/-! ## Labels -/

/-- A label that is partly written. -/
structure Draft where
  output : List Char
  delta : Nat
  bias : Nat
  /-- The number of characters that are written. -/
  written : Nat

/-- Passes one character while the character `point` is being written. -/
def Draft.pass (basic point : Nat) (d : Draft) (c : Char) : Draft :=
  if c.toNat < point then { d with delta := d.delta + 1 }
  else if c.toNat = point then
    { output := d.output ++ digits d.bias (d.delta + 1) 36 d.delta
      delta := 0
      bias := adapt d.delta (d.written + 1) (d.written = basic)
      written := d.written + 1 }
  else d

/-- Writes the occurrences of each of some characters, in ascending order. -/
def Draft.points (label : List Char) (basic : Nat) : Nat → List Nat → Draft → Draft
  | _, [], d => d
  | next, point :: points, d =>
      let d := { d with delta := d.delta + (point - next) * (d.written + 1) }
      let d := label.foldl (Draft.pass basic point) d
      Draft.points label basic (point + 1) points { d with delta := d.delta + 1 }

/-- Whether a character is ASCII. -/
def isBasic (c : Char) : Bool :=
  c.toNat < 0x80

/-- What a label beyond ASCII is written as. -/
def encode (cs : List Char) : List Char :=
  let basic := cs.filter isBasic
  let points := ((cs.filter fun c => !isBasic c).map Char.toNat).eraseDups.mergeSort
  let d := Draft.points cs basic.length 0x80 points ⟨[], 0, 72, basic.length⟩
  (if basic.isEmpty then [] else basic ++ ['-']) ++ d.output

/-! ## Reading -/

/-- The value of a digit. -/
def digitValue? (c : Char) : Option Nat :=
  if 'a' ≤ c && c ≤ 'z' then some (c.toNat - 'a'.toNat)
  else if '0' ≤ c && c ≤ '9' then some (c.toNat - '0'.toNat + 26)
  else none

/-- Reads a number from a position on: `value` is what its digits so far are worth, and
`weight` what the next one counts. -/
def number? (bias : Nat) : Nat → Nat → Nat → List Char → Option (Nat × List Char)
  | _, _, _, [] => none
  | position, weight, value, c :: r =>
      match digitValue? c with
      | none => none
      | some d =>
          let t := threshold position bias
          let value := value + d * weight
          if d < t then some (value, r)
          else number? bias (position + 36) (weight * (36 - t)) value r

/-- Puts characters into a label, the first of them after `place` steps that each pass a
character or, at the end, raise `point`; `fuel` bounds their number. -/
def insertAll : Nat → Nat → Nat → Nat → List Char → List Char → Option (List Char)
  | _, _, _, _, out, [] => some out
  | 0, _, _, _, _, _ :: _ => none
  | fuel + 1, bias, point, place, out, digits =>
      match number? bias 36 1 0 digits with
      | none => none
      | some (delta, rest) =>
          let count := out.length + 1
          let bias := adapt delta count (place = 0)
          let point := point + (place + delta) / count
          let place := (place + delta) % count
          if point.isValidChar then
            insertAll fuel bias point (place + 1) (out.insertIdx place (Char.ofNat point)) rest
          else none

/-- The label that a text is written for. -/
def decode (cs : List Char) : Option (List Char) :=
  let basic := ((cs.reverse.dropWhile (· ≠ '-')).drop 1).reverse
  let digits := if basic.isEmpty then cs else cs.drop (basic.length + 1)
  if basic.all isBasic then insertAll digits.length 72 0x80 0 basic digits else none

end ThemeEditor.Web.Punycode
