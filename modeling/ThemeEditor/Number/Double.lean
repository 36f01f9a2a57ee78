/-
# ThemeEditor.Number.Double -- binary floating point numbers with decidable equality

A `Double` is the 64-bit pattern of an IEEE 754 number.  Two doubles are equal
when their patterns are, so the two zeros differ.
-/
namespace ThemeEditor

set_option autoImplicit false

/-- A binary floating point number, by its bit pattern. -/
structure Double where
  bits : UInt64
  deriving DecidableEq, Repr, Inhabited

namespace Double

def ofFloat (x : Float) : Double :=
  ⟨x.toBits⟩

def toFloat (d : Double) : Float :=
  Float.ofBits d.bits

/-- Whether the sign bit is set. -/
def isNegative (d : Double) : Bool :=
  d.bits >>> 63 == 1

/-- The eleven bits of the exponent. -/
def exponentBits (d : Double) : Nat :=
  ((d.bits >>> 52) &&& 0x7FF).toNat

/-- The fifty-two bits of the fraction. -/
def fractionBits (d : Double) : Nat :=
  (d.bits &&& 0xFFFFFFFFFFFFF).toNat

/-- Whether the number is neither infinite nor undefined. -/
def isFinite (d : Double) : Bool :=
  d.exponentBits != 0x7FF

/-- The integer factor of a finite number, sign aside. -/
def mantissa (d : Double) : Nat :=
  if d.exponentBits = 0 then d.fractionBits else Nat.pow 2 52 + d.fractionBits

/-- The power of two that multiplies the integer factor. -/
def scale (d : Double) : Int :=
  (if d.exponentBits = 0 then 1 else (d.exponentBits : Int)) - 1075

/-- Whether the gap to the next smaller number is half the gap to the next larger one. -/
def atBinade (d : Double) : Bool :=
  d.fractionBits = 0 && 1 < d.exponentBits

end Double

end ThemeEditor
