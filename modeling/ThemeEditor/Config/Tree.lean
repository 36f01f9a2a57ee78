/-
# ThemeEditor.Config.Tree -- configuration values with their origins

Layers of values are laid over each other.  Every value knows where it comes
from, so that a message can name its origin.  A table is merged key by key; any
other value replaces what was there.  A name with points leads into tables, and
one with a number in brackets into a list; what lies in the way is replaced.
-/
import ThemeEditor.Json.Value
import ThemeEditor.Toml.Lexeme

namespace ThemeEditor.Config

set_option autoImplicit false

/-- A value that is neither list nor table.  Integers have 64 bits, with or without a
sign. -/
inductive Scalar where
  | null
  | boolean (value : Bool)
  | integer (value : Int)
  | floating (value : Double)
  | text (value : String)
  deriving DecidableEq, Repr, Inhabited

/-- A value with its origin, if it has one. -/
inductive Tree where
  | scalar (value : Scalar) (origin : Option String)
  | list (items : List Tree) (origin : Option String)
  | table (members : List (String × Tree)) (origin : Option String)
  deriving Inhabited

namespace Tree

/-- No value at all. -/
def nothing : Tree := .scalar .null none

mutual

/-- A value that comes from one place. -/
def ofValue (origin : Option String) : Json.Value → Tree
  | .null => .scalar .null origin
  | .boolean b => .scalar (.boolean b) origin
  | .number (.integer n) => .scalar (.integer n) origin
  | .number (.floating d) => .scalar (.floating d) origin
  | .text t => .scalar (.text t) origin
  | .list xs => .list (ofItems origin xs) origin
  | .object ms => .table (ofMembers origin ms) origin

def ofItems (origin : Option String) : List Json.Value → List Tree
  | [] => []
  | x :: xs => ofValue origin x :: ofItems origin xs

def ofMembers (origin : Option String) : List (String × Json.Value) → List (String × Tree)
  | [] => []
  | (k, x) :: ms => (k, ofValue origin x) :: ofMembers origin ms

end

/-- What stands under a key. -/
def get? (key : String) : Tree → Option Tree
  | .table ms _ => (ms.find? fun m => m.1 = key).map (·.2)
  | _ => none

/-- The members with one of them set. -/
def putMember (key : String) (t : Tree) : List (String × Tree) → List (String × Tree)
  | [] => [(key, t)]
  | (k, u) :: ms => if k = key then (k, t) :: ms else (k, u) :: putMember key t ms

/-- A table with a key set; anything but a table gives way to one. -/
def put (below : Tree) (key : String) (t : Tree) : Tree :=
  match below with
  | .table ms origin => .table (putMember key t ms) origin
  | _ => .table [(key, t)] none

mutual

/-- A value laid over another one. -/
def merge (below : Tree) : Tree → Tree
  | .table ms _ =>
      match below with
      | .scalar .null _ => mergeMembers (.table [] none) ms
      | below => mergeMembers below ms
  | above => above

def mergeMembers (below : Tree) : List (String × Tree) → Tree
  | [] => below
  | (k, t) :: ms => mergeMembers (below.put k (merge ((below.get? k).getD nothing) t)) ms

end

/-! ## Names -/

/-- One step of a name. -/
inductive Segment where
  | key (name : String)
  | index (place : Int)
  deriving DecidableEq, Repr

/-- Whether a number can be a place. -/
def isPlace (n : Int) : Bool :=
  -(Nat.pow 2 63 : Int) ≤ n && n < (Nat.pow 2 63 : Int)

/-- Reads a place and the closing bracket; there may be gaps around the digits. -/
def placeFrom (s : List Char) : Option (Int × List Char) :=
  let (negative, r) := match s.dropWhile Toml.isGap with
    | '-' :: r => (true, r)
    | r => (false, r)
  let digits := r.takeWhile Char.isDigit
  match digits, (r.dropWhile Char.isDigit).dropWhile Toml.isGap with
  | _ :: _, ']' :: rest =>
      let n : Int := digits.foldl (fun n c => n * 10 + (c.toNat - '0'.toNat)) 0
      let place := if negative then -n else n
      if isPlace place then some (place, rest) else none
  | _, _ => none

/-- Reads the steps of a name behind its first key. -/
def segmentsFrom : Nat → List Char → Option (List Segment)
  | 0, _ => none
  | _ + 1, [] => some []
  | fuel + 1, '.' :: r =>
      let name := r.takeWhile Toml.isBare
      if name.isEmpty then none
      else (segmentsFrom fuel (r.dropWhile Toml.isBare)).map (.key (String.ofList name) :: ·)
  | fuel + 1, '[' :: r => do
      let (place, r) ← placeFrom r
      return .index place :: (← segmentsFrom fuel r)
  | _ + 1, _ => none

/-- The steps of a name.  A name that is none of a path is one key as it is. -/
def segments (name : String) : List Segment :=
  let cs := name.toList
  let first := cs.takeWhile Toml.isBare
  let plain := [Segment.key name]
  if first.isEmpty then plain
  else
    match segmentsFrom (cs.length + 1) (cs.dropWhile Toml.isBare) with
    | some rest => .key (String.ofList first) :: rest
    | none => plain

/-- The items of a list that has to have an item at a place, with that place; a
negative place counts from the end. -/
def placed (items : List Tree) (place : Int) : List Tree × Nat :=
  if 0 ≤ place then
    let n := place.toNat
    (items ++ List.replicate (n + 1 - items.length) nothing, n)
  else if place.natAbs ≤ items.length then (items, items.length - place.natAbs)
  else (List.replicate (place.natAbs - items.length) nothing ++ items, 0)

/-- Lays a value over what a path leads to. -/
def setAt (value : Tree) : List Segment → Tree → Tree
  | [], below => merge below value
  | .key k :: path, below => below.put k (setAt value path ((below.get? k).getD nothing))
  | .index place :: path, below =>
      let (items, origin) := match below with
        | .list items origin => (items, origin)
        | _ => ([], none)
      let (items, n) := placed items place
      .list (items.modify n (setAt value path)) origin

/-- Lays named values over a table. -/
def layer (below : Tree) (named : List (String × Tree)) : Tree :=
  named.foldl (fun t m => setAt m.2 (segments m.1) t) below

end Tree

end ThemeEditor.Config
