/-
# ThemeEditor.Toml.Document -- reading a TOML text

A document is a sequence of lines: headers, keys with values, and comments.
Values lie in each other and keys have parts up to a limit.  Keys beyond it are
reported only for a text that is TOML in all else, so such a text is read once
more without that limit.
-/
import ThemeEditor.Toml.Table

namespace ThemeEditor.Toml

set_option autoImplicit false

open ThemeEditor.Json (Value)

/-- Why a document cannot be used. -/
inductive Fault where
  | notToml
  | keyTooLong
  | number (fault : NumberFault)
  deriving DecidableEq, Repr

/-- How many lists and tables may lie in each other, and how many parts of a key. -/
def depthLimit : Nat := 80

/-- What a reader of lexemes finds. -/
def need {α : Type} : Option α → Except Fault α
  | some a => .ok a
  | none => .error .notToml

/-- Reads a key of at most `limit` parts, if there is a limit. -/
def boundedKey (limit : Option Nat) (s : List Char) :
    Except Fault ((List String × String) × List Char) := do
  let ((path, k), r) ← need (key s)
  if limit.any (· ≤ path.length) then .error .keyTooLong else return ((path, k), r)

mutual

/-- Reads a value; `depth` more lists and tables may lie in each other. -/
def itemFrom (limit : Option Nat) : Nat → Nat → List Char → Except Fault (Item × List Char)
  | 0, _, _ => .error .notToml
  | fuel + 1, depth, s =>
      match s, depth with
      | '[' :: r, depth + 1 => do
          let (items, r) ← itemsFrom limit fuel depth (skipLines r)
          return (.list items, r)
      | '\x7b' :: r, depth + 1 => do
          let (members, r) ← pairsFrom limit fuel depth [] (skipLines r)
          return (.table (membersItems members), r)
      | '[' :: _, 0 | '\x7b' :: _, 0 => .error .notToml
      | '"' :: _, _ | '\'' :: _, _ => do
          let (t, r) ← need (string s)
          return (.text t, r)
      | _, _ => do
          let (v, r) ← need (scalar s)
          return (.scalar v, r)

/-- Reads the items of a list and the closing bracket. -/
def itemsFrom (limit : Option Nat) : Nat → Nat → List Char → Except Fault (List Item × List Char)
  | 0, _, _ => .error .notToml
  | fuel + 1, depth, s =>
      match s with
      | ']' :: r => .ok ([], r)
      | s => do
          let (x, r) ← itemFrom limit fuel depth s
          match skipLines r with
          | ',' :: r =>
              let (xs, r) ← itemsFrom limit fuel depth (skipLines r)
              return (x :: xs, r)
          | ']' :: r => return ([x], r)
          | _ => .error .notToml

/-- Reads the pairs of a table within braces and the closing brace.  They may spread
over lines. -/
def pairsFrom (limit : Option Nat) :
    Nat → Nat → Members → List Char → Except Fault (Members × List Char)
  | 0, _, _, _ => .error .notToml
  | fuel + 1, depth, ms, s =>
      match s with
      | '\x7d' :: r => .ok (ms, r)
      | s => do
          let ((path, k), r) ← boundedKey limit s
          let r ← need (exactly '=' (skipLines r))
          let (v, r) ← itemFrom limit fuel depth (skipLines r)
          let ms ← need (ms.put path k v)
          match skipLines r with
          | ',' :: r => pairsFrom limit fuel depth ms (skipLines r)
          | '\x7d' :: r => return (ms, r)
          | _ => .error .notToml

end

/-- A document that is partly read: its members and the open header. -/
structure Draft where
  members : Members
  header : List String

/-- Reads one line. -/
def line (limit : Option Nat) (draft : Draft) (s : List Char) :
    Except Fault (Draft × List Char) :=
  match skipGaps s with
  | '[' :: '[' :: r => do
      let ((path, k), r) ← boundedKey limit r
      let r ← need (exactly ']' (skipGaps r))
      let r ← need (exactly ']' r)
      let members ← need (draft.members.openNext path k)
      return (⟨members, path ++ [k]⟩, ← need (endLine r))
  | '[' :: r => do
      let ((path, k), r) ← boundedKey limit r
      let r ← need (exactly ']' (skipGaps r))
      let members ← need (draft.members.openTable path k)
      return (⟨members, path ++ [k]⟩, ← need (endLine r))
  | s =>
      if s.isEmpty || s.head? = some '#' || (lineBreak? s).isSome then do
        return (draft, ← need (endLine s))
      else do
        let ((path, k), r) ← boundedKey limit s
        let r ← need (exactly '=' (skipGaps r))
        let (v, r) ← itemFrom limit (r.length + 1) depthLimit (skipGaps r)
        let members ← need (draft.members.putBelow draft.header path k v)
        return ({ draft with members }, ← need (endLine r))

/-- Reads lines to the end of the text. -/
def linesFrom (limit : Option Nat) : Nat → Draft → List Char → Except Fault Draft
  | 0, draft, s => if s.isEmpty then .ok draft else .error .notToml
  | fuel + 1, draft, s =>
      if s.isEmpty then .ok draft
      else
        match line limit draft s with
        | .error f => .error f
        | .ok (draft, r) => linesFrom limit fuel draft r

/-- The members of a document as they are written. -/
def items (limit : Option Nat) (s : List Char) : Except Fault (List (String × Item)) :=
  (linesFrom limit (s.length + 1) ⟨[], []⟩ s).map fun draft => membersItems draft.members

/-- The characters of a text without a byte order mark. -/
def withoutMark (source : String) : List Char :=
  match source.toList with
  | '\ufeff' :: r => r
  | s => s

/-- The members of a document, in the order of their keys. -/
def read (source : String) : Except Fault (List (String × Value)) :=
  match items (some depthLimit) (withoutMark source) with
  | .error .keyTooLong =>
      match items none (withoutMark source) with
      | .error f => .error f
      | .ok _ => .error .keyTooLong
  | .error f => .error f
  | .ok members =>
      match ordered (membersValues members) with
      | .error f => .error (.number f)
      | .ok values => .ok values

end ThemeEditor.Toml
