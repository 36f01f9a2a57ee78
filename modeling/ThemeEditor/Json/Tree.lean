/-
# ThemeEditor.Json.Tree -- reading any value at all

Lists and objects may nest 127 deep.  Of members with the same key the last one
counts, at the place of the first.
-/
import ThemeEditor.Json.Reader
import ThemeEditor.Json.Value

namespace ThemeEditor.Json

set_option autoImplicit false

namespace Value

/-- The members with one of them set. -/
def putMember (key : String) (value : Value) :
    List (String × Value) → List (String × Value)
  | [] => [(key, value)]
  | (k, v) :: rest =>
      if k = key then (k, value) :: rest else (k, v) :: putMember key value rest

/-- The value under a key of an object. -/
def get? (key : String) : Value → Option Value
  | .object members => (members.find? fun m => m.1 = key).map (·.2)
  | _ => none

end Value

/-- Reads a value whose lists and objects nest at most `depth` deep. -/
def tree (depth : Nat) : Reader Value := fun s =>
  match skipSpace s with
  | [] => .error (.before .endInValue [])
  | c :: r =>
      if c = 'n' then (word ['u', 'l', 'l'] r).map fun r => (.null, r)
      else if c = 't' then (word ['r', 'u', 'e'] r).map fun r => (.boolean true, r)
      else if c = 'f' then (word ['a', 'l', 's', 'e'] r).map fun r => (.boolean false, r)
      else if c = '-' then (numberFrom true r).map fun (n, r) => (.number n, r)
      else if isDigit c then (numberFrom false (c :: r)).map fun (n, r) => (.number n, r)
      else if c = '"' then (textBody r).map fun (t, r) => (.text t, r)
      else if c = '[' then
        match depth with
        | 0 => .error (.before .tooDeep (c :: r))
        | depth + 1 =>
            (itemsFrom (tree depth) (r.length + 1) true r).map fun (xs, r) => (.list xs, r)
      else if c = '{' then
        match depth with
        | 0 => .error (.before .tooDeep (c :: r))
        | depth + 1 =>
            (membersFrom (member (tree depth)) (r.length + 1) true [] r).map
              fun (ms, r) => (.object ms, r)
      else .error (.before .expectedValue (c :: r))
where
  member (reader : Reader Value) (members : List (String × Value)) (key : String) :
      Reader (List (String × Value)) := fun s =>
    match valued reader s with
    | .error f => .error f
    | .ok (v, r) => .ok (Value.putMember key v members, r)

/-- The value that a text holds. -/
def Value.decode (source : String) : Except Refusal Value :=
  document (tree 127) source

end ThemeEditor.Json
