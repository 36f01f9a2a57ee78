/-
# ThemeEditor.Theme.Fetcher -- which theme file is asked for next

A fetcher walks through the theme files 1 to `fileCount` over and over and
remembers for which modes a request is under way.  File names have two digits,
so there are at most 99 of them, and there is always at least one.
-/
import ThemeEditor.Theme.Mode

namespace ThemeEditor

set_option autoImplicit false

/-- The state of a fetcher, its cache apart. -/
structure Fetcher where
  fileCount : UInt8
  nextIndex : UInt8
  loading : PerMode Bool
  deriving DecidableEq, Repr

namespace Fetcher

/-- The number of theme files unless another one is set. -/
def defaultFileCount : UInt8 := 10

/-- The greatest number of theme files. -/
def maxFileCount : UInt8 := 99

/-- A fetcher that starts at the first file. -/
def new : Fetcher :=
  ⟨defaultFileCount, 1, .both false⟩

/-- A number of files moved into the range that file names allow. -/
def clampCount (n : UInt8) : UInt8 :=
  if n < 1 then 1 else if maxFileCount < n then maxFileCount else n

/-- The fetcher with another number of files; it starts over if it is beyond them. -/
def withFileCount (f : Fetcher) (n : UInt8) : Fetcher :=
  { f with
    fileCount := clampCount n
    nextIndex := if clampCount n < f.nextIndex then 1 else f.nextIndex }

/-- Takes the next file and moves on; the first file follows the last. -/
def claim (f : Fetcher) : UInt8 × Fetcher :=
  (f.nextIndex, { f with nextIndex := f.nextIndex % f.fileCount + 1 })

/-- Whether the mode shows as loading. -/
def isLoading (f : Fetcher) (mode : Mode) : Bool :=
  f.loading.get mode

/-- The fetcher with the sign for a mode put up or taken down. -/
def setLoading (f : Fetcher) (mode : Mode) (on : Bool) : Fetcher :=
  { f with loading := f.loading.set mode on }

end Fetcher

end ThemeEditor
