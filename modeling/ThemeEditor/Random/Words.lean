/-
# ThemeEditor.Random.Words -- a stream of random words and fair draws from it

A `WordSource` is a sequence of 64-bit words with the count of those already
used.  A draw below a bound multiplies a word by the bound and takes the upper
half of the product.  Words whose lower half lies beyond the `zone` are thrown
away: what remains holds every result equally often.
-/
namespace ThemeEditor.Random

set_option autoImplicit false

/-- A sequence of random words, read from the front. -/
structure WordSource where
  word : Nat → UInt64
  used : Nat

namespace WordSource

/-- The next word. -/
def next (w : WordSource) : UInt64 × WordSource :=
  (w.word w.used, { w with used := w.used + 1 })

/-- The distance between the states of the mixing generator. -/
def gamma : UInt64 := 0x9E3779B97F4A7C15

/-- The word that the mixing generator makes of a state. -/
def mix (state : UInt64) : UInt64 :=
  let z := (state ^^^ (state >>> 30)) * 0xBF58476D1CE4E5B9
  let z := (z ^^^ (z >>> 27)) * 0x94D049BB133111EB
  z ^^^ (z >>> 31)

/-- The given words, then those of the mixing generator from a seed on. -/
def ofSeed (given : Array UInt64) (seed : UInt64) : WordSource where
  word n := given.getD n (mix (seed + gamma * (n - given.size + 1).toUInt64))
  used := 0

/-- The greatest lower half that a draw below `bound` accepts. -/
def zone (bound : Nat) : Nat :=
  bound * Nat.pow 2 (63 - bound.log2) - 1

/-- Draws a number below `bound` from at most `fuel` words, and zero when none of
them is accepted. -/
def drawFrom : Nat → Nat → WordSource → Nat × WordSource
  | 0, _, w => (0, w)
  | fuel + 1, bound, w =>
      let (v, w) := w.next
      let product := v.toNat * bound
      if product % UInt64.size ≤ zone bound then (product / UInt64.size, w)
      else drawFrom fuel bound w

/-- Draws a number below `bound`.  The mixing generator makes every word once in
`2 ^ 64` steps, and more than half of them are accepted. -/
def draw (bound : Nat) (w : WordSource) : Nat × WordSource :=
  drawFrom UInt64.size bound w

end WordSource

end ThemeEditor.Random
