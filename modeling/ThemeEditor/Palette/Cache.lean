/-
# ThemeEditor.Palette.Cache -- palettes waiting to be used

For each mode there is a stack of palettes.  A batch is shuffled and put on top;
palettes are taken from the top one by one.  Nothing is ever evicted.
-/
import ThemeEditor.Random.Shuffle
import ThemeEditor.Theme.Batch
import ThemeEditor.Theme.Mode

namespace ThemeEditor

set_option autoImplicit false

open ThemeEditor.Random (WordSource)

/-- A stack of palettes for each mode, the top first. -/
abbrev PaletteCache := PerMode (List Palette)

namespace PaletteCache

def empty : PaletteCache := .both []

/-- Takes the palette on top. -/
def take (cache : PaletteCache) (mode : Mode) : Option Palette × PaletteCache :=
  match cache.get mode with
  | [] => (none, cache)
  | p :: rest => (some p, cache.set mode rest)

theorem take_fst (cache : PaletteCache) (mode : Mode) :
    (cache.take mode).1 = (cache.get mode).head? := by
  unfold take
  split
  · next empty => rw [empty]; rfl
  · next p rest found => rw [found]; rfl

theorem get_take (cache : PaletteCache) (mode other : Mode) :
    (cache.take mode).2.get other =
      if other = mode then (cache.get mode).tail else cache.get other := by
  unfold take
  split
  · next empty =>
    rw [empty]
    split
    · next same => rw [same, empty]; rfl
    · rfl
  · next p rest found => rw [PerMode.get_set, found]; rfl

/-- Puts shuffled palettes on top; the last of them is taken first. -/
def push (cache : PaletteCache) (mode : Mode) (palettes : List Palette) : PaletteCache :=
  cache.set mode (palettes.reverse ++ cache.get mode)

/-- Shuffles palettes and puts them on top. -/
def fill (cache : PaletteCache) (mode : Mode) (palettes : List Palette) (w : WordSource) :
    PaletteCache × WordSource :=
  let (shuffled, w) := Random.shuffle palettes w
  (cache.push mode shuffled, w)

theorem get_fill (cache : PaletteCache) (mode other : Mode) (palettes : List Palette)
    (words : WordSource) :
    (cache.fill mode palettes words).1.get other =
      if other = mode then (Random.shuffle palettes words).1.reverse ++ cache.get mode
      else cache.get other :=
  PerMode.get_set _ _ _ _

/-- The number of palettes that wait for a mode. -/
def size (cache : PaletteCache) (mode : Mode) : Nat :=
  (cache.get mode).length

def isEmpty (cache : PaletteCache) (mode : Mode) : Bool :=
  (cache.get mode).isEmpty

/-- Drops the palettes of every mode. -/
def clear (cache : PaletteCache) : PaletteCache :=
  Mode.all.foldl (fun cache mode => cache.set mode []) cache

@[simp]
theorem get_clear (cache : PaletteCache) (mode : Mode) : cache.clear.get mode = [] := by
  cases mode <;> rfl

end PaletteCache

end ThemeEditor
