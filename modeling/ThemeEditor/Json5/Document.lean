/-
# ThemeEditor.Json5.Document -- JSON as people write it

A text is one value.  Lists and objects may have a comma behind the last item; of
members with the same key the last one counts.  What a number or a text cannot say
counts only if the text is well formed.
-/
import ThemeEditor.Json.Tree
import ThemeEditor.Json5.Lexeme

namespace ThemeEditor.Json5

set_option autoImplicit false

open ThemeEditor.Json (Value)

/-! ## Lists and objects -/

/-- Reads items with commas between them, at most `fuel` more; `item` takes the result so
far. -/
def itemsFrom {α : Type} (item : α → Reader α) : Nat → α → Reader α
  | 0, done, s => pure (done, s)
  | fuel + 1, done, s =>
      (do
        let r ← pass ',' (skip s)
        let (done, r) ← item done (skip r)
        itemsFrom item fuel done r) <|>
      pure (done, s)

/-- Reads items between two marks. -/
def items {α : Type} (first last : Char) (item : α → Reader α) (start : α) : Reader α := fun s => do
  let s ← pass first s
  (do return (start, ← pass last (skip s))) <|>
    (do
      let (done, r) ← item start (skip s)
      let (done, r) ← itemsFrom item r.length done r
      let r := skip r
      let r ← pass ',' r <|> pure r
      return (done, ← pass last (skip r)))

/-- An item of a list; the last one stands first. -/
def listItem (value : Reader Value) (done : List Value) : Reader (List Value) := fun s => do
  let (v, r) ← value s
  return (v :: done, r)

/-- A member of an object. -/
def member (value : Reader Value) (done : List (String × Value)) :
    Reader (List (String × Value)) := fun s => do
  let (key, r) ← name s <|> string s
  let r ← pass ':' (skip r)
  let (v, r) ← value (skip r)
  return (Value.putMember key v done, r)

/-! ## Values -/

/-- Reads a word that stands for a value. -/
def word (part : Part) (words : List (String × Value)) : Reader Value :=
  plain part fun s =>
    (words.find? fun w => w.1.toList.isPrefixOf s).map fun w => (w.2, s.drop w.1.length)

/-- Reads a value whose parts nest at most `depth` deep. -/
def value : Nat → Reader Value
  | 0, _ => failure
  | depth + 1, s =>
      word .null [("null", .null)] s <|>
        word .boolean [("true", .boolean true), ("false", .boolean false)] s <|>
        (do
          let (t, r) ← string s
          return (.text t, r)) <|>
        number s <|>
        (do
          let (ms, r) ← noted .object (items '\x7b' '\x7d' (member (value depth)) []) s
          return (.object ms, r)) <|>
        (do
          let (xs, r) ← noted .array (items '[' ']' (listItem (value depth)) []) s
          return (.list xs.reverse, r))

/-- Reads a value and the end of the text. -/
def document (source : List Char) : OptionT (StateM Notes) Value := do
  let (v, r) ← value (source.length + 1) (skip source)
  let _ ← plain .textEnd (fun s => if s.isEmpty then some ((), s) else none) (skip r)
  return v

/-- Reads a text. -/
def read (source : String) : Except Fault Value :=
  match (document source.toList).run.run {} with
  | (none, notes) => .error (.malformed notes.tried notes.rest)
  | (some v, notes) =>
      match notes.problem with
      | some problem => .error (.valueless problem)
      | none => .ok v

end ThemeEditor.Json5
