/-
# ThemeEditor.Random.Shuffle -- a fair rearrangement of a list

A shuffle walks from the last place down to the second and swaps each place with
one drawn from the places up to it.  The draws are made first; `rearrange` is
what they do to the list.
-/
import ThemeEditor.Random.Words

namespace ThemeEditor.Random

set_option autoImplicit false

/-- One draw for each place from `last` down to 1: a place up to that one. -/
def draws : Nat → WordSource → List Nat × WordSource
  | 0, w => ([], w)
  | last + 1, w =>
      let (j, w) := w.draw (last + 2)
      let (js, w) := draws last w
      (j :: js, w)

/-- Swaps each place from `last` down to 1 with the drawn one. -/
def rearrange {α : Type} : Nat → List Nat → Array α → Array α
  | last + 1, j :: js, items => rearrange last js (items.swapIfInBounds (last + 1) j)
  | _, _, items => items

/-- The list that some draws make of a list. -/
def arranged {α : Type} (js : List Nat) (items : List α) : List α :=
  (rearrange (items.length - 1) js items.toArray).toList

/-- A random rearrangement of a list. -/
def shuffle {α : Type} (items : List α) (w : WordSource) : List α × WordSource :=
  let (js, w) := draws (items.length - 1) w
  (arranged js items, w)

end ThemeEditor.Random
