/-
# ThemeEditor.Ron.Document -- records, lists and maps of values

A text of this notation is one value.  A record has named fields in parentheses, a
list stands in brackets or without names in parentheses, and a map in braces.  A
record may have a name of its own, which tells nothing.  A comma may follow the last
item.

Of fields and keys with the same name the last one counts.
-/
import ThemeEditor.Json.Tree
import ThemeEditor.Ron.Lexeme

namespace ThemeEditor.Ron

set_option autoImplicit false

open ThemeEditor.Json (Value)

/-! ## Items -/

/-- Reads items up to a closing mark, which stays; `hasComma` tells whether an item may
stand here.  `item` takes the result so far. -/
def itemsFrom {α : Type} (closing : Char) (item : α → Reader α) :
    Nat → Bool → α → Reader α
  | 0, _, _, s => .error ⟨.ended, s⟩
  | fuel + 1, hasComma, done, s => do
      let s ← skip s
      if s.head? = some closing then return (done, s)
      else if !hasComma then .error ⟨.commaExpected, s⟩
      else
        let (done, r) ← item done s
        let (hasComma, r) ← comma r
        itemsFrom closing item fuel hasComma done r

/-- Reads all items up to a closing mark and the mark itself. -/
def items {α : Type} (closing : Char) (item : α → Reader α) (start : α) : Reader α := fun s =>
  (itemsFrom closing item (s.length + 1) true start s).map fun (done, r) => (done, r.drop 1)

/-- An item of a list; the last one stands first. -/
def listItem (value : Reader Value) (done : List Value) : Reader (List Value) := fun s =>
  (value s).map fun (v, r) => (v :: done, r)

/-- Reads the value behind a key. -/
def valued (value : Reader Value) (key : String) (done : List (String × Value)) :
    Reader (List (String × Value)) := fun s => do
  match ← skip s with
  | ':' :: r =>
      let (v, r) ← value (← skip r)
      return (Value.putMember key v done, r)
  | r => .error ⟨.colonExpected, r⟩

/-- A field of a record. -/
def field (value : Reader Value) (done : List (String × Value)) :
    Reader (List (String × Value)) := fun s => do
  let (key, r) ← name s
  valued value key done r

/-- How a message shows a value that is no key. -/
def shownKey : Value → String
  | .null => "a unit value"
  | .boolean b => s!"the boolean `{b}`"
  | .number (.integer n) =>
      if n < 0 then s!"the signed integer `{n}`" else s!"the unsigned integer `{n}`"
  | .number (.floating _) => "a floating point number"
  | .text t => s!"the string {Text.quoted t}"
  | .list _ => "a sequence"
  | .object _ => "a map"

/-- An entry of a map. -/
def entry (value : Reader Value) (done : List (String × Value)) :
    Reader (List (String × Value)) := fun s => do
  let (key, r) ← value s
  match key with
  | .text key => valued value key done r
  | key => .error ⟨.badKey (shownKey key), s⟩

/-! ## Values -/

/-- Whether what follows an opening parenthesis has names. -/
def isRecord (s : List Char) : Bool :=
  match skip s with
  | .ok s =>
      match (name? s).map fun (_, r) => skip r with
      | some (.ok (':' :: _)) => true
      | _ => false
  | .error _ => false

/-- Reads what stands in parentheses. -/
def grouped (value : Reader Value) : Reader Value := fun s =>
  if isRecord s then (items ')' (field value) [] s).map fun (ms, r) => (.object ms, r)
  else (items ')' (listItem value) [] s).map fun (xs, r) => (.list xs.reverse, r)

/-- Reads what follows the word for a value that is there. -/
def present (value : Reader Value) : Reader Value := fun s => do
  match ← skip s with
  | '(' :: r =>
      let (v, r) ← value (← skip r)
      match ← comma r with
      | (_, ')' :: r) => return (v, r)
      | (_, r) => .error ⟨.optionEnd, r⟩
  | r => .error ⟨.optionStart, r⟩

/-- Reads a value whose parts nest at most `depth` deep. -/
def value : Nat → Reader Value
  | 0, s => .error ⟨.tooDeep, s⟩
  | depth + 1, s =>
      match name? s with
      | some ("true", r) => .ok (.boolean true, r)
      | some ("false", r) => .ok (.boolean false, r)
      | some ("None", r) => .ok (.null, r)
      | some ("Some", r) => present (value depth) r
      | some (name, r) =>
          match named? name with
          | some x => .ok (.number (.floating (Double.ofFloat x)), r)
          | none =>
              match skip r with
              | .error f => .error f
              | .ok ('(' :: r) => grouped (value depth) r
              | .ok r => .ok (.null, r)
      | none =>
          match s with
          | [] => .error ⟨.ended, []⟩
          | '(' :: ')' :: r => .ok (.null, r)
          | '(' :: r => grouped (value depth) r
          | '[' :: r =>
              (items ']' (listItem (value depth)) [] r).map fun (xs, r) => (.list xs.reverse, r)
          | '\x7b' :: r =>
              (items '\x7d' (entry (value depth)) [] r).map fun (ms, r) => (.object ms, r)
          | '"' :: r => (textFrom (r.length + 1) r).map fun (cs, r) => (.text (String.ofList cs), r)
          | 'r' :: r => (rawText r).map fun (cs, r) => (.text (String.ofList cs), r)
          | '\'' :: r => (char r).map fun (c, r) => (.text (String.singleton c), r)
          | c :: _ =>
              if c.isDigit || c = '+' || c = '-' || c = '.' then
                (number s).map fun (n, r) => (.number n, r)
              else .error ⟨.unexpected c, s⟩

/-! ## Documents -/

/-- The extensions of the notation that a text may name. -/
def extensions : List String :=
  ["unwrap_newtypes", "implicit_some", "unwrap_variant_newtypes"]

/-- Passes over words with white space between them, if they come next. -/
def words? : List String → List Char → Option (List Char)
  | [], s => some s
  | word :: words, s =>
      match skip s with
      | .ok s =>
          if word.toList.isPrefixOf s then words? words (s.drop word.length) else none
      | .error _ => none

/-- Passes over the names of extensions, at most `fuel` of them. -/
def skipNames : Nat → List Char → Except Fault (List Char)
  | 0, s => .ok s
  | fuel + 1, s => do
      let (found, r) ← name s
      if !extensions.contains found then .error ⟨.unknownExtension found, r⟩
      let (hasComma, r) ← comma r
      if hasComma && r.head?.any isNameStart then skipNames fuel r else return r

/-- Passes over the attributes in front of the value, at most `fuel` of them. -/
def skipAttributes : Nat → List Char → Except Fault (List Char)
  | 0, s => .ok s
  | fuel + 1, s => do
      let s ← skip s
      if s.head? ≠ some '#' then return s
      match words? ["#", "!", "[", "enable", "("] s with
      | none => .error ⟨.attributeStart, s⟩
      | some r =>
          let r ← skipNames r.length (← skip r)
          match words? [")", "]"] r with
          | none => .error ⟨.attributeEnd, r⟩
          | some r => skipAttributes fuel r

/-- The largest number of values inside each other. -/
def maxDepth : Nat := 65

/-- Reads a text. -/
def read (source : String) : Except Fault Value := do
  let s ← skipAttributes (source.length + 1) source.toList
  let (v, r) ← value maxDepth s
  match ← skip r with
  | [] => return v
  | r => .error ⟨.trailing, r⟩

end ThemeEditor.Ron
