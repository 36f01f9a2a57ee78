/-
# ThemeEditor.Toml.Table -- tables while they are built

A table may be opened by a header, implied by a longer header, or implied by a
key with points.  No table is opened twice, a header does not reopen a table of
keys with points, such keys only end in a table that is implied, and nothing is
added to a value.

When all is read, numbers get their values.  Of several that have none, the
first in the order of the keys is reported.
-/
import ThemeEditor.Toml.Scalar

namespace ThemeEditor.Toml

set_option autoImplicit false

open ThemeEditor.Json (Value)

/-- A value as it is written. -/
inductive Item where
  | text (text : String)
  | scalar (scalar : Scalar)
  | list (items : List Item)
  | table (members : List (String × Item))

/-- What stands under a key. -/
inductive Node where
  | value (item : Item)
  /-- A table; whether it is only implied, and whether by a key with points. -/
  | table (isImplied byPoints : Bool) (members : List (String × Node))
  /-- A list of tables, the latest first. -/
  | tables (items : List (List (String × Node)))

/-- What stands under the keys of a table. -/
abbrev Members := List (String × Node)

namespace Members

def find? (ms : Members) (key : String) : Option Node :=
  (List.find? (fun m => m.1 = key) ms).map (·.2)

/-- The members with one of them replaced. -/
def replace (ms : Members) (key : String) (node : Node) : Members :=
  ms.map fun m => if m.1 = key then (key, node) else m

/-- Follows a path and changes the members at its end.  `act` learns whether they
belong to a table that is only implied. -/
def reach (byPoints : Bool) (act : Bool → Members → Option Members) :
    List String → Bool → Members → Option Members
  | [], isImplied, ms => act isImplied ms
  | key :: path, _, ms =>
      match find? ms key with
      | none => do
          let inner ← reach byPoints act path true []
          return ms ++ [(key, .table true byPoints inner)]
      | some (.value _) => none
      | some (.table isImplied points inner) =>
          if byPoints && !isImplied then none
          else do
            let inner ← reach byPoints act path isImplied inner
            return replace ms key (.table isImplied points inner)
      | some (.tables []) => none
      | some (.tables (latest :: earlier)) => do
          let latest ← reach byPoints act path false latest
          return replace ms key (.tables (latest :: earlier))

/-- Puts a value under a key with points in front of it. -/
def put (path : List String) (key : String) (item : Item) (ms : Members) : Option Members :=
  reach true
    (fun isImplied ms =>
      if !path.isEmpty && !isImplied then none
      else
        match find? ms key with
        | none => some (ms ++ [(key, .value item)])
        | some _ => none)
    path false ms

/-- Opens a table. -/
def openTable (path : List String) (key : String) (ms : Members) : Option Members :=
  reach false
    (fun _ ms =>
      match find? ms key with
      | none => some (ms ++ [(key, .table false false [])])
      | some (.table true false inner) => some (replace ms key (.table false false inner))
      | some _ => none)
    path false ms

/-- Opens the next table of a list. -/
def openNext (path : List String) (key : String) (ms : Members) : Option Members :=
  reach false
    (fun _ ms =>
      match find? ms key with
      | none => some (ms ++ [(key, .tables [[]])])
      | some (.tables items) => some (replace ms key (.tables ([] :: items)))
      | some _ => none)
    path false ms

/-- Puts a value into the table that a header opened. -/
def putBelow (header path : List String) (key : String) (item : Item) (ms : Members) :
    Option Members :=
  reach false (fun _ ms => put path key item ms) header false ms

end Members

mutual

/-- A node as a value that is written out. -/
def Node.item : Node → Item
  | .value item => item
  | .table _ _ members => .table (membersItems members)
  | .tables items => .list (tablesItems items)

def membersItems : List (String × Node) → List (String × Item)
  | [] => []
  | (k, n) :: rest => (k, n.item) :: membersItems rest

/-- The values of tables, the earliest first. -/
def tablesItems : List (List (String × Node)) → List Item
  | [] => []
  | ms :: rest => tablesItems rest ++ [.table (membersItems ms)]

end

/-- The members of a table in the order of their keys, if all have values. -/
def ordered (members : List (String × Except NumberFault Value)) :
    Except NumberFault (List (String × Value)) :=
  (members.mergeSort fun a b => decide (a.1 ≤ b.1)).mapM fun m => m.2.map fun v => (m.1, v)

mutual

/-- The value of what is written. -/
def Item.value : Item → Except NumberFault Value
  | .text t => .ok (.text t)
  | .scalar s => s.value
  | .list items => (itemsValues items).map .list
  | .table members => (ordered (membersValues members)).map .object

def itemsValues : List Item → Except NumberFault (List Value)
  | [] => .ok []
  | item :: rest =>
      match item.value with
      | .error f => .error f
      | .ok v => (itemsValues rest).map (v :: ·)

def membersValues : List (String × Item) → List (String × Except NumberFault Value)
  | [] => []
  | (k, item) :: rest => (k, item.value) :: membersValues rest

end

end ThemeEditor.Toml
