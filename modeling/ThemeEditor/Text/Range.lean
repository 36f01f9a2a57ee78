/-
# ThemeEditor.Text.Range -- a set of characters as a list of code point ranges

A table lists its ranges in ascending order with both ends included.
-/
namespace ThemeEditor.Text

set_option autoImplicit false

/-- Whether a character lies in one of the ranges. -/
def inRanges (table : List (Nat × Nat)) (c : Char) : Bool :=
  table.any fun range => range.1 ≤ c.toNat && c.toNat ≤ range.2

end ThemeEditor.Text
