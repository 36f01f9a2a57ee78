/-
# ThemeEditor.Yaml.Document -- the value of a YAML text

A text has one document at most; without one it is an empty table.  Keys have to be
texts, or what can be written as one.
-/
import ThemeEditor.Json.Tree
import ThemeEditor.Yaml.Node

namespace ThemeEditor.Yaml

set_option autoImplicit false

open ThemeEditor.Json (Value)

/-- Why a text has no value. -/
inductive Failure where
  | malformed (fault : Fault)
  | manyDocuments (count : Nat)
  | unboundNumber (text : String)
  | badKey (shown : String)
  deriving DecidableEq, Repr

def Failure.message : Failure → String
  | malformed fault => fault.message
  | manyDocuments count => s!"Got {count} YAML documents, expected 1"
  | unboundNumber text => s!"Parsing {text} as floating point number failed"
  | badKey shown => s!"Cannot parse {shown} because it is an unsupported hash key type"

/-- A key as text. -/
def Node.key? : Node → Option String
  | .text t | .real t => some t
  | .integer n => some (toString n)
  | .boolean b => some (toString b)
  | _ => none

mutual

/-- The value of a node. -/
def Node.value : Node → Except Failure Value
  | .null | .undefined => .ok .null
  | .boolean b => .ok (.boolean b)
  | .integer n => .ok (.number (.integer n))
  | .real t =>
      match Number.double? t.toList with
      | some d => .ok (.number (.floating d))
      | none => .error (.unboundNumber t)
  | .text t => .ok (.text t)
  | .list items =>
      match itemValues items with
      | .ok xs => .ok (.list xs)
      | .error f => .error f
  | .mapping members =>
      match memberValues [] members with
      | .ok ms => .ok (.object ms)
      | .error f => .error f

def itemValues : List Node → Except Failure (List Value)
  | [] => .ok []
  | n :: ns =>
      match n.value with
      | .error f => .error f
      | .ok x =>
          match itemValues ns with
          | .error f => .error f
          | .ok xs => .ok (x :: xs)

/-- The members behind those that are done. -/
def memberValues (done : List (String × Value)) :
    List (Node × Node) → Except Failure (List (String × Value))
  | [] => .ok done
  | (k, n) :: ns =>
      match k.key? with
      | none => .error (.badKey k.shown)
      | some key =>
          match n.value with
          | .error f => .error f
          | .ok x => memberValues (Value.putMember key x done) ns

end

/-- The value of a text. -/
def read (source : String) : Except Failure Value :=
  match nodes source with
  | .error f => .error (.malformed f)
  | .ok [] => .ok (.object [])
  | .ok [n] => n.value
  | .ok ns => .error (.manyDocuments ns.length)

end ThemeEditor.Yaml
