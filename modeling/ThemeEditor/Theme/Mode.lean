/-
# ThemeEditor.Theme.Mode -- light and dark

A mode is spelled with any letter case and white space around it.  `PerMode`
holds one value for each mode.
-/
import ThemeEditor.Json.Reader
import ThemeEditor.Text.Blank
import ThemeEditor.Text.Lower

namespace ThemeEditor

set_option autoImplicit false

/-- The two kinds of themes. -/
inductive Mode where
  | light
  | dark
  deriving DecidableEq, Repr, Inhabited

namespace Mode

def name : Mode → String
  | light => "light"
  | dark => "dark"

def all : List Mode := [light, dark]

/-- The mode with exactly this name. -/
def withName? (s : String) : Option Mode :=
  all.find? fun m => m.name = s

/-- The mode that a spelling names. -/
def ofName? (s : String) : Option Mode :=
  withName? (Text.lower (Text.trim s))

/-- What is said of a spelling that names no mode. -/
def unknownMessage (s : String) : String :=
  s!"Unknown theme mode '{s}' (expected 'light' or 'dark')"

/-- The mode of a name that ends before `r`. -/
def named (s : String) (r : List Char) : Except Json.Fault Mode :=
  match withName? s with
  | some m => .ok m
  | none => .error (.after (.unknownVariant s (all.map name)) r)

/-- Reads a mode: its name, or an object with its name as the only key and `null`
as the value. -/
def reader : Json.Reader Mode := fun s =>
  match Json.skipSpace s with
  | [] => .error (.before .endInValue [])
  | c :: r =>
      if c = '"' then do
        let (name, r) ← Json.textBody r
        let mode ← named name r
        return (mode, r)
      else if c = '{' then do
        let (name, r) ← variant r
        let mode ← named name r
        let r ← Json.colon r
        let r ← nothing r
        let r ← close r
        return (mode, r)
      else .error (.before .expectedValue (c :: r))
where
  variant : Json.Reader String := fun s =>
    match Json.skipSpace s with
    | [] => .error (.before .endInValue [])
    | c :: r =>
        if c = '"' then Json.textBody r else .error (Json.mismatch "variant identifier" (c :: r))
  nothing (s : List Char) : Except Json.Fault (List Char) :=
    match Json.skipSpace s with
    | [] => .error (.before .endInValue [])
    | c :: r =>
        if c = 'n' then Json.word ['u', 'l', 'l'] r else .error (Json.mismatch "unit" (c :: r))
  close (s : List Char) : Except Json.Fault (List Char) :=
    match Json.skipSpace s with
    | [] => .error (.after .endInObject [])
    | c :: r => if c = '}' then .ok r else .error (.after .expectedValue (c :: r))

/-- The mode that a JSON text holds. -/
def decode (source : String) : Except Json.Refusal Mode :=
  Json.document reader source

end Mode

/-- A value for each mode. -/
structure PerMode (α : Type) where
  light : α
  dark : α
  deriving DecidableEq, Repr

namespace PerMode

variable {α : Type}

/-- The same value for both modes. -/
def both (a : α) : PerMode α := ⟨a, a⟩

def get (p : PerMode α) : Mode → α
  | .light => p.light
  | .dark => p.dark

def set (p : PerMode α) (mode : Mode) (a : α) : PerMode α :=
  match mode with
  | .light => { p with light := a }
  | .dark => { p with dark := a }

theorem get_set (p : PerMode α) (mode other : Mode) (a : α) :
    (p.set mode a).get other = if other = mode then a else p.get other := by
  cases mode <;> cases other <;> rfl

theorem set_set (p : PerMode α) (mode : Mode) (a b : α) :
    (p.set mode a).set mode b = p.set mode b := by
  cases mode <;> rfl

end PerMode

end ThemeEditor
