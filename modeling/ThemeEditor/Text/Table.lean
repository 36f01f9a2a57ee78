/-
# ThemeEditor.Text.Table -- large tables, written as text

A large table of code points is written as lines of text: rows with semicolons
between them, and in a row hexadecimal numbers with blanks between them.  A row
that stands for a range has its two ends, or the one code point that it is.
-/
import ThemeEditor.Text.Digit

namespace ThemeEditor.Text

set_option autoImplicit false

/-- The number that a word is. -/
def wordValue (word : String) : Nat :=
  digitsValue 16 word.toList

/-- The rows of a table, as words. -/
def rows (table : List String) : List (List String) :=
  table.flatMap fun line => (line.splitOn ";").map (·.splitOn " ")

/-- The ranges of a table. -/
def rangesOf (table : List String) : List (Nat × Nat) :=
  (rows table).map fun row => (wordValue (row.headD ""), wordValue (row.getLastD ""))

end ThemeEditor.Text
