/-
# ThemeEditor.Json.Reader -- typed reading of values, lists, objects and records

A `Reader` takes the characters not yet read, skips white space, and reads one
value.  A value of another type is read to its end, so that a message can show
it; a list or an object is only named.

A `Layout` describes a record: its fields in declaration order, each with a
reader that puts the value into the record.  A record is written as an object,
in any order and with unknown members between, or as the list of its fields.
No field may come twice in an object.
-/
import ThemeEditor.Json.Skip

namespace ThemeEditor.Json

set_option autoImplicit false

/-- Reads one value and returns it with the characters after it. -/
abbrev Reader (α : Type) := List Char → Except Fault (α × List Char)

/-- The fault of a value that is not of the expected type.  Its first character is
the head of the input. -/
def mismatch (expected : String) (s : List Char) : Fault :=
  match s with
  | [] => .before .endInValue []
  | c :: r =>
      if c = 'n' then afterWord .null (word ['u', 'l', 'l'] r)
      else if c = 't' then afterWord (.boolean true) (word ['r', 'u', 'e'] r)
      else if c = 'f' then afterWord (.boolean false) (word ['a', 'l', 's', 'e'] r)
      else if c = '-' then afterNumber (numberFrom true r)
      else if isDigit c then afterNumber (numberFrom false (c :: r))
      else if c = '"' then
        match textBody r with
        | .error f => f
        | .ok (t, r) => .after (.wrongType (.text t) expected) r
      else if c = '[' then .after (.wrongType .list expected) (c :: r)
      else if c = '{' then .after (.wrongType .object expected) (c :: r)
      else .before .expectedValue (c :: r)
where
  afterWord (found : Found) : Except Fault (List Char) → Fault
    | .error f => f
    | .ok r => .after (.wrongType found expected) r
  afterNumber : Except Fault (Number × List Char) → Fault
    | .error f => f
    | .ok (n, r) => .after (.wrongType (.number n) expected) r

/-! ## Scalars -/

/-- Reads a text. -/
def text : Reader String := fun s =>
  match skipSpace s with
  | [] => .error (.before .endInValue [])
  | c :: r => if c = '"' then textBody r else .error (mismatch "a string" (c :: r))

/-- Reads `true` or `false`. -/
def boolean : Reader Bool := fun s =>
  match skipSpace s with
  | [] => .error (.before .endInValue [])
  | c :: r =>
      if c = 't' then (word ['r', 'u', 'e'] r).map fun r => (true, r)
      else if c = 'f' then (word ['a', 'l', 's', 'e'] r).map fun r => (false, r)
      else .error (mismatch "a boolean" (c :: r))

/-- Reads a natural number up to `bound`. -/
def natural (bound : Nat) (expected : String) : Reader Nat := fun s =>
  match skipSpace s with
  | [] => .error (.before .endInValue [])
  | c :: r =>
      if c = '-' then ranged (numberFrom true r)
      else if isDigit c then ranged (numberFrom false (c :: r))
      else .error (mismatch expected (c :: r))
where
  ranged : Except Fault (Number × List Char) → Except Fault (Nat × List Char)
    | .error f => .error f
    | .ok (.integer n, r) =>
        if 0 ≤ n ∧ n ≤ bound then .ok (n.toNat, r)
        else .error (.after (.wrongValue (.number (.integer n)) expected) r)
    | .ok (n, r) => .error (.after (.wrongType (.number n) expected) r)

/-- Reads `null` as nothing and any other value with `reader`. -/
def optional {α : Type} (reader : Reader α) : Reader (Option α) := fun s =>
  match skipSpace s with
  | [] => .error (.before .endInValue [])
  | c :: r =>
      if c = 'n' then (word ['u', 'l', 'l'] r).map fun r => (none, r)
      else
        match reader (c :: r) with
        | .error f => .error f
        | .ok (a, r) => .ok (some a, r)

/-! ## Lists -/

/-- What comes next inside brackets or braces: another element, or the end. -/
inductive Turn where
  | more (rest : List Char)
  | closed (rest : List Char)

/-- Whether another item of a list follows; reads the comma before it or the
closing bracket. -/
def nextItem (first : Bool) (s : List Char) : Except Fault Turn :=
  match skipSpace s with
  | [] => .error (.before .endInList [])
  | c :: r =>
      if c = ']' then .ok (.closed r)
      else if first then .ok (.more (c :: r))
      else if c = ',' then
        match skipSpace r with
        | [] => .error (.before .endInValue [])
        | d :: t =>
            if d = ']' then .error (.before .trailingComma (d :: t)) else .ok (.more (d :: t))
      else .error (.before .expectedCommaOrBracket (c :: r))

/-- Reads the items of a list and the closing bracket. -/
def itemsFrom {α : Type} (item : Reader α) : Nat → Bool → Reader (List α)
  | 0, _, _ => .error (.before .endInList [])
  | fuel + 1, first, s =>
      match nextItem first s with
      | .error f => .error f
      | .ok (.closed r) => .ok ([], r)
      | .ok (.more r) =>
          match item r with
          | .error f => .error f
          | .ok (x, r) =>
              match itemsFrom item fuel false r with
              | .error f => .error f
              | .ok (xs, r) => .ok (x :: xs, r)

/-- Reads a list whose items all read with `item`. -/
def list {α : Type} (item : Reader α) : Reader (List α) := fun s =>
  match skipSpace s with
  | [] => .error (.before .endInValue [])
  | c :: r =>
      if c = '[' then itemsFrom item (r.length + 1) true r
      else .error (mismatch "a sequence" (c :: r))

/-- Reads the closing bracket of a list whose items are all read. -/
def closeList (s : List Char) : Except Fault (List Char) :=
  match skipSpace s with
  | [] => .error (.before .endInList [])
  | c :: r =>
      if c = ']' then .ok r
      else if c = ',' then
        match skipSpace r with
        | [] => .error (.before .trailingCharacters [])
        | d :: t =>
            .error (.before (if d = ']' then .trailingComma else .trailingCharacters) (d :: t))
      else .error (.before .trailingCharacters (c :: r))

/-! ## Objects -/

/-- Whether another member of an object follows; reads the comma and the opening
quotation mark of its key, or the closing brace. -/
def nextKey (first : Bool) (s : List Char) : Except Fault Turn :=
  match skipSpace s with
  | [] => .error (.before .endInObject [])
  | c :: r =>
      if c = '}' then .ok (.closed r)
      else if first then
        if c = '"' then .ok (.more r) else .error (.before .keyNotText (c :: r))
      else if c = ',' then
        match skipSpace r with
        | [] => .error (.before .endInValue [])
        | d :: t =>
            if d = '"' then .ok (.more t)
            else if d = '}' then .error (.before .trailingComma (d :: t))
            else .error (.before .keyNotText (d :: t))
      else .error (.before .expectedCommaOrBrace (c :: r))

/-- Reads the members of an object and the closing brace.  `member` gets what is
read so far and the key, and reads the colon and the value. -/
def membersFrom {σ : Type} (member : σ → String → Reader σ) : Nat → Bool → σ → Reader σ
  | 0, _, _, _ => .error (.before .endInObject [])
  | fuel + 1, first, st, s =>
      match nextKey first s with
      | .error f => .error f
      | .ok (.closed r) => .ok (st, r)
      | .ok (.more r) =>
          match textBody r with
          | .error f => .error f
          | .ok (key, r) =>
              match member st key r with
              | .error f => .error f
              | .ok (st, r) => membersFrom member fuel false st r

/-- Reads the colon behind a key and the value. -/
def valued {α : Type} (reader : Reader α) : Reader α := fun s =>
  match colon s with
  | .error f => .error f
  | .ok r => reader r

/-- Reads an object member by member. -/
def object {σ : Type} (start : σ) (member : σ → String → Reader σ) : Reader σ := fun s =>
  match skipSpace s with
  | [] => .error (.before .endInValue [])
  | c :: r =>
      if c = '{' then membersFrom member (r.length + 1) true start r
      else .error (mismatch "a map" (c :: r))

/-! ## Records -/

/-- A field of a record that is read into `σ`. -/
structure Field (σ : Type) where
  name : String
  /-- Reads the value into the record. -/
  read : σ → Reader σ
  /-- Whether an object without the field is refused. -/
  inObject : Bool
  /-- Whether a list that ends before the field is refused. -/
  inList : Bool

/-- The field that reads its value with `reader` and stores it with `put`. -/
def Field.of {α σ : Type} (name : String) (reader : Reader α) (put : α → σ → σ)
    (inObject inList : Bool) : Field σ where
  name := name
  read record s :=
    match reader s with
    | .error f => .error f
    | .ok (a, r) => .ok (put a record, r)
  inObject := inObject
  inList := inList

/-- A record: what a message calls it and its fields in declaration order. -/
structure Layout (σ : Type) where
  title : String
  fields : List (Field σ)

namespace Layout

variable {σ : Type}

/-- The record with the count of its fields, as a message puts it. -/
def counted (layout : Layout σ) : String :=
  match layout.fields.length with
  | 1 => s!"{layout.title} with 1 element"
  | n => s!"{layout.title} with {n} elements"

/-- The field of a name. -/
def field? (layout : Layout σ) (name : String) : Option (Field σ) :=
  layout.fields.find? fun f => f.name = name

/-- Where a record that failed by its members ends: behind the white space, and
behind the closing brace if that is next. -/
def endOfMembers (s : List Char) : List Char :=
  match skipSpace s with
  | [] => []
  | c :: r => if c = '}' then r else c :: r

/-- Reads one member of a record; `st` holds the names of the fields met before.
The value of an unknown member is passed over. -/
def member (layout : Layout σ) (st : List String × σ) (key : String) :
    Reader (List String × σ) := fun s =>
  match layout.field? key with
  | none =>
      match colon s with
      | .error f => .error f
      | .ok r =>
          match skipValue r with
          | .error f => .error f
          | .ok r => .ok (st, r)
  | some field =>
      if key ∈ st.1 then .error (.after (.duplicateField key) (endOfMembers s))
      else
        match valued (field.read st.2) s with
        | .error f => .error f
        | .ok (record, r) => .ok ((key :: st.1, record), r)

/-- The first field that an object with these names lacks. -/
def missing? (layout : Layout σ) (names : List String) : Option (Field σ) :=
  layout.fields.find? fun f => f.inObject && !names.contains f.name

/-- Reads a record written as an object, behind the opening brace. -/
def fromMembers (layout : Layout σ) (start : σ) : Reader σ := fun s =>
  match membersFrom layout.member (s.length + 1) true ([], start) s with
  | .error f => .error f
  | .ok ((names, record), r) =>
      match layout.missing? names with
      | some field => .error (.after (.missingField field.name) r)
      | none => .ok (record, r)

/-- The place, from `count` on, of the first field that a list has to hold. -/
def lacking? (fields : List (Field σ)) (count : Nat) : Option Nat :=
  (fields.findIdx? (·.inList)).map (· + count)

/-- Reads the fields of a record written as a list, up to its closing bracket. -/
def placesFrom (layout : Layout σ) : List (Field σ) → Nat → σ → Reader σ
  | [], _, record, s =>
      match closeList s with
      | .error f => .error f
      | .ok r => .ok (record, r)
  | field :: fields, count, record, s =>
      match nextItem (count = 0) s with
      | .error f => .error f
      | .ok (.closed r) =>
          match lacking? (field :: fields) count with
          | some place => .error (.after (.wrongLength place layout.counted) r)
          | none => .ok (record, r)
      | .ok (.more r) =>
          match field.read record r with
          | .error f => .error f
          | .ok (record, r) => placesFrom layout fields (count + 1) record r

/-- Reads a record in either form; fields that do not occur keep their value in
`start`. -/
def read (layout : Layout σ) (start : σ) : Reader σ := fun s =>
  match skipSpace s with
  | [] => .error (.before .endInValue [])
  | c :: r =>
      if c = '[' then placesFrom layout layout.fields 0 start r
      else if c = '{' then layout.fromMembers start r
      else .error (mismatch layout.title (c :: r))

end Layout

/-! ## Documents -/

/-- Reads a whole text as one value with white space around it. -/
def document {α : Type} (reader : Reader α) (source : String) : Except Refusal α :=
  match reader source.toList with
  | .error f => .error (f.locate source.toList)
  | .ok (a, r) =>
      match skipSpace r with
      | [] => .ok a
      | c :: t => .error ((Fault.before .trailingCharacters (c :: t)).locate source.toList)

end ThemeEditor.Json
