/-
# ThemeEditor.Config.Read -- a configuration from values of any type

A layer may hold any value under a key, so values are converted: a whole number
may be written as a fraction, a truth value or a text, and a text as anything
but a list or a table.  What cannot be converted is reported with its key and, if
it has one, its origin.
-/
import ThemeEditor.Config.Basic
import ThemeEditor.Config.Tree

namespace ThemeEditor.Config

set_option autoImplicit false

/-- Floats are written positionally, without a fraction if they are whole. -/
def floatStyle : Number.FloatStyle where
  lowest := -400
  highest := 400
  keepsFraction := false
  undefined := "NaN"
  infinite := "inf"

namespace Scalar

/-- How a message shows a value that cannot be converted. -/
def wording : Scalar → String
  | .null => "unit value"
  | .boolean b => s!"boolean `{b}`"
  | .integer n =>
      if n < (Nat.pow 2 63 : Int) then s!"64-bit integer `{n}`"
      else s!"64-bit unsigned integer `{n}`"
  | .floating d => s!"floating point `{floatStyle.write d}`"
  | .text t => s!"string {Text.quoted t}"

/-- How a message shows a value in the place of a record. -/
def shortWording : Scalar → String
  | .integer n => s!"integer `{n}`"
  | .floating d =>
      let style := { floatStyle with keepsFraction := true }
      s!"floating point `{style.write d}`"
  | s => s.wording

end Scalar

/-- A value that cannot be converted: what is wrong, its key, and its origin. -/
structure Mismatch where
  problem : String
  key : String
  origin : Option String
  deriving DecidableEq, Repr

def Mismatch.message (m : Mismatch) : String :=
  let place := match m.origin with
    | some origin => s!" in {origin}"
    | none => ""
  s!"{m.problem} for key `{m.key}`{place}"

/-- A value that is not of the expected type. -/
def wrongType (found expected key : String) (origin : Option String) : Mismatch :=
  ⟨s!"invalid type: {found}, expected {expected}", key, origin⟩

/-- Reads a text. -/
def readText (key : String) : Tree → Except Mismatch String
  | .scalar (.text t) _ => .ok t
  | .scalar (.boolean b) _ => .ok (toString b)
  | .scalar (.integer n) _ => .ok (toString n)
  | .scalar (.floating d) _ => .ok (floatStyle.write d)
  | .scalar .null origin => .error (wrongType Scalar.null.wording "a string" key origin)
  | .list _ origin => .error (wrongType "sequence" "a string" key origin)
  | .table _ origin => .error (wrongType "map" "a string" key origin)

/-- The number of a text: a word for a truth value, or decimal digits. -/
def numberOfText? (t : String) : Option Nat :=
  let word := Text.lower t
  if word ∈ ["true", "on", "yes"] then some 1
  else if word ∈ ["false", "off", "no"] then some 0
  else
    let digits := match t.toList with
      | '+' :: r => r
      | r => r
    if digits.isEmpty || !digits.all Char.isDigit then none
    else
      let n := digits.foldl (fun n c => n * 10 + (c.toNat - '0'.toNat)) 0
      if n < UInt64.size then some n else none

/-- Reads a natural number of 64 bits. -/
def readNatural (key : String) : Tree → Except Mismatch UInt64
  | .scalar (.integer n) origin =>
      if 0 ≤ n then .ok n.toNat.toUInt64
      else
        .error (wrongType (Scalar.integer n).wording "an unsigned 64 bit or less integer"
          key origin)
  | .scalar (.text t) origin =>
      match numberOfText? t with
      | some n => .ok n.toUInt64
      | none => .error (wrongType (Scalar.text t).wording "an integer" key origin)
  | .scalar (.boolean b) _ => .ok (if b then 1 else 0)
  | .scalar (.floating d) _ => .ok d.toFloat.round.toUInt64
  | .scalar .null origin => .error (wrongType Scalar.null.wording "an integer" key origin)
  | .list _ origin => .error (wrongType "sequence" "an integer" key origin)
  | .table _ origin => .error (wrongType "map" "an integer" key origin)

/-- Reads a natural number of 8 bits. -/
def readSmall (key : String) (t : Tree) : Except Mismatch UInt8 :=
  match readNatural key t with
  | .error m => .error m
  | .ok n =>
      if n < 256 then .ok n.toUInt8
      else
        .error (wrongType s!"64-bit unsigned integer `{n.toNat}`" "an unsigned 8 bit integer"
          key none)

/-- Reads a value that may be left out. -/
def readOptional {α : Type} (read : String → Tree → Except Mismatch α) (key : String) :
    Option Tree → Except Mismatch (Option α)
  | none => .ok none
  | some (.scalar .null _) => .ok none
  | some t =>
      match read key t with
      | .error m => .error m
      | .ok a => .ok (some a)

/-- Reads what is configured of the log: a table, or the list of its two values. -/
def readLog (key : String) : Tree → Except Mismatch LogConfig
  | .table ms origin => do
      let t := Tree.table ms origin
      let level ← readOptional readText s!"{key}.level" (t.get? "level")
      let file ← readOptional readText s!"{key}.file" (t.get? "file")
      return ⟨level, file⟩
  | .list [] _ => .error (short 0)
  | .list [level] _ => do
      let _ ← readOptional readText s!"{key}[0]" (some level)
      .error (short 1)
  | .list (level :: file :: _) _ => do
      let level ← readOptional readText s!"{key}[0]" (some level)
      let file ← readOptional readText s!"{key}[1]" (some file)
      return ⟨level, file⟩
  | .scalar s _ =>
      .error (wrongType s.shortWording "struct LoggingConfig" key none)
where
  short (count : Nat) : Mismatch :=
    ⟨s!"invalid length {count}, expected struct LoggingConfig with 2 elements", key, none⟩

/-- Reads a configuration. -/
def ofTree (t : Tree) : Except Mismatch Config := do
  let serviceUrl ← readOptional readText "theme_service_url" (t.get? "theme_service_url")
  let fileCount ← readOptional readSmall "theme_file_count" (t.get? "theme_file_count")
  let timeout ← readOptional readNatural "request_timeout_secs" (t.get? "request_timeout_secs")
  let storage ← readOptional readText "storage_dir" (t.get? "storage_dir")
  let log ← match t.get? "logging" with
    | none => .ok ⟨none, none⟩
    | some t => readLog "logging" t
  return ⟨serviceUrl, fileCount, timeout, storage, log⟩

end ThemeEditor.Config
