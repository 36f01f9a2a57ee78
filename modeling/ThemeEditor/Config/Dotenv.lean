/-
# ThemeEditor.Config.Dotenv -- variables from a file

Each line of the file defines a variable; blank lines and comments are passed
over.  A value may be quoted: apostrophes keep everything as it is, quotation
marks and plain text know escapes and insert the values of other variables.
Reading stops at the first line that cannot be read, and a variable that is set
already keeps its value.
-/
import ThemeEditor.Config.Environment
import ThemeEditor.Disk.Basic
import ThemeEditor.Text.Alphanumeric
import ThemeEditor.Text.Blank

namespace ThemeEditor.Dotenv

set_option autoImplicit false

/-! ## Names -/

def isNameStart (c : Char) : Bool :=
  ('a' ≤ c && c ≤ 'z') || ('A' ≤ c && c ≤ 'Z') || c = '_'

def isNameChar (c : Char) : Bool :=
  isNameStart c || ('0' ≤ c && c ≤ '9') || c = '.'

/-- Reads the name of a variable. -/
def name? (s : List Char) : Option (List Char × List Char) :=
  match s with
  | c :: _ => if isNameStart c then some (s.takeWhile isNameChar, s.dropWhile isNameChar) else none
  | [] => none

/-- What follows an equals sign. -/
def afterEquals? : List Char → Option (List Char)
  | '=' :: r => some r
  | _ => none

/-! ## Values -/

/-- Where in a value a reader is. -/
inductive Place where
  /-- Outside quotation marks, or within double ones. -/
  | plain
  /-- Behind a backslash. -/
  | escaped
  /-- Within apostrophes. -/
  | apostrophes
  /-- Behind a dollar sign. -/
  | insertion
  /-- Within braces behind a dollar sign. -/
  | braces
  /-- Behind the value. -/
  | ended
  deriving DecidableEq, Repr

/-- A value that is partly read. -/
structure Draft where
  place : Place
  /-- Whether double quotation marks are open. -/
  quoted : Bool
  /-- The value so far, backwards. -/
  output : List Char
  /-- The name of the variable to insert, backwards. -/
  name : List Char

/-- The escapes of a value. -/
def escape? (c : Char) : Option Char :=
  if c = '\\' || c = '\'' || c = '"' || c = '$' || c = ' ' then some c
  else if c = 'n' then some '\n'
  else none

namespace Draft

/-- The draft with a variable inserted. -/
def insert (lookup : String → String) (d : Draft) : Draft :=
  { d with
    output := (lookup (String.ofList d.name.reverse)).toList.reverse ++ d.output
    name := [] }

/-- The draft with one more character of the value. -/
def push (d : Draft) (c : Char) : Draft :=
  { d with output := c :: d.output }

/-- Reads one character; `none` when it may not stand there. -/
def step (lookup : String → String) (d : Draft) (c : Char) : Option Draft :=
  match d.place with
  | .ended => if c = ' ' || c = '\t' then some d else none
  | .escaped => (escape? c).map fun e => { d.push e with place := .plain }
  | .apostrophes => if c = '\'' then some { d with place := .plain } else some (d.push c)
  | .insertion =>
      if Text.isAlphanumeric c then some { d with name := c :: d.name }
      else if c = '{' && d.name.isEmpty then some { d with place := .braces }
      else if c = '$' then some (d.insert lookup)
      else some ({ (d.insert lookup) with place := .plain }.push c)
  | .braces =>
      if c = '}' then some { (d.insert lookup) with place := .plain }
      else some { d with name := c :: d.name }
  | .plain =>
      if c = '$' then some { d with place := .insertion }
      else if c = '\\' then some { d with place := .escaped }
      else if d.quoted then
        if c = '"' then some { d with quoted := false } else some (d.push c)
      else if c = '\'' then some { d with place := .apostrophes }
      else if c = '"' then some { d with quoted := true }
      else if c = ' ' || c = '\t' then some { d with place := .ended }
      else some (d.push c)

/-- Reads characters to the end of the value; a comment ends it behind white space. -/
def read (lookup : String → String) : Draft → List Char → Option Draft
  | d, [] => some d
  | d, c :: cs =>
      if d.place = .ended && c = '#' then some d
      else
        match d.step lookup c with
        | none => none
        | some d => read lookup d cs

/-- The value, unless quotation marks or braces are open. -/
def finish? (lookup : String → String) (d : Draft) : Option String :=
  if d.place = .braces || d.place = .apostrophes || d.quoted then none
  else some (String.ofList (d.insert lookup).output.reverse)

end Draft

/-- Reads a value. -/
def value? (lookup : String → String) (s : List Char) : Option String :=
  match Draft.read lookup ⟨.plain, false, [], []⟩ s with
  | none => none
  | some d => d.finish? lookup

/-! ## Lines -/

/-- What a line defines. -/
inductive Line where
  | nothing
  | variable (name value : String)
  | unreadable
  deriving DecidableEq, Repr

/-- Reads the value behind an equals sign. -/
def define (lookup : String → String) (name s : List Char) : Line :=
  let s := Text.trimFront s
  if s.isEmpty || s.head? = some '#' then .variable (String.ofList name) ""
  else
    match value? lookup s with
    | some value => .variable (String.ofList name) value
    | none => .unreadable

/-- Reads a line.  The word `export` may stand in front of the name. -/
def readLine (lookup : String → String) (s : List Char) : Line :=
  let s := Text.trimFront (Text.trimBack s)
  if s.isEmpty || s.head? = some '#' then .nothing
  else
    match name? s with
    | none => .unreadable
    | some (name, r) =>
        match afterEquals? (Text.trimFront r) with
        | some r => define lookup name r
        | none =>
            if name ≠ "export".toList then .unreadable
            else
              match name? (Text.trimFront r) with
              | none => .unreadable
              | some (name, r) =>
                  match afterEquals? (Text.trimFront r) with
                  | some r => define lookup name r
                  | none => .unreadable

/-- The value that is inserted for a variable: of the environment, else of an
earlier line, else nothing. -/
def inserted (env : Environment) (defined : List (String × String)) (name : String) : String :=
  (env.get? name).getD ((defined.lookup name).getD "")

/-- The environment after some lines; the latest definitions come first. -/
def readLines : Environment → List (String × String) → List (Option (List Char)) → Environment
  | env, _, [] => env
  | env, _, none :: _ => env
  | env, defined, some line :: lines =>
      match readLine (inserted env defined) line with
      | .nothing => readLines env defined lines
      | .unreadable => env
      | .variable name value =>
          readLines (env.withDefault name value) ((name, value) :: defined) lines

/-- A line as text, without the return before its end; `none` if it is no text. -/
def lineText (bytes : List UInt8) : Option (List Char) :=
  (String.fromUTF8? ⟨bytes.toArray⟩).map fun t =>
    match t.toList.reverse with
    | '\r' :: r => r.reverse
    | _ => t.toList

/-- The lines of a file. -/
def fileLines (bytes : ByteArray) : List (Option (List Char)) :=
  (bytes.toList.splitOn 10).map lineText

/-- The directories from one up to the root. -/
def upward (route : Disk.Route) : List Disk.Route :=
  (List.range (route.length + 1)).reverse.map fun n => route.take n

/-- The bytes of the nearest file of variables, from the working directory upward. -/
def nearest? (d : Disk) : Option ByteArray :=
  (upward d.current).findSome? fun route =>
    match d.node? (route ++ [".env"]) with
    | some (.file bytes) => some bytes
    | _ => none

/-- The environment with the variables of the nearest file. -/
def extend (d : Disk) (env : Environment) : Environment :=
  match nearest? d with
  | none => env
  | some bytes => readLines env [] (fileLines bytes)

end ThemeEditor.Dotenv
