/-
# ThemeEditor.Yaml.Scalar -- the texts of YAML

A plain text and a quoted one may run over lines; a line end in them counts as a
space, and of several line ends all but one are kept.  A block is a text of whole
lines, told by their indentation: a literal one keeps its line ends, a folded one
treats them like those of a plain text, except next to lines that are indented
further.  Line ends at the end of a block are dropped, cut to one, or kept.
-/
import ThemeEditor.Yaml.Cursor

namespace ThemeEditor.Yaml

set_option autoImplicit false

/-- What was read, with the place behind it. -/
abbrev Scanned := Except Fault (List Char × Cursor)

/-- What stands between two words: blanks of one line, or line ends. -/
structure Between where
  blanks : List Char := []
  breaks : Nat := 0

/-- The characters that it counts as. -/
def Between.text (between : Between) : List Char :=
  match between.breaks with
  | 0 => between.blanks
  | 1 => [' ']
  | count + 1 => List.replicate count '\n'

/-! ## Plain texts -/

/-- Whether a plain text can go on with the next character, blanks aside. -/
def goesOn (inFlow : Bool) (c : Cursor) : Bool :=
  match c.head? with
  | none => false
  | some ':' => !(isGap c.second? || (inFlow && c.second?.any isFlow))
  | some sign => !(inFlow && isFlow sign)

/-- Reads a word of a plain text. -/
def plainWord (inFlow : Bool) : Nat → Cursor → List Char × Cursor
  | 0, c => ([], c)
  | fuel + 1, c =>
      match c.head? with
      | none => ([], c)
      | some sign =>
          if isGap (some sign) || !goesOn inFlow c then ([], c)
          else
            let (word, c) := plainWord inFlow fuel c.pass
            (sign :: word, c)

/-- Passes what stands between two words of a plain text that began at `start`. -/
def plainBetween (indent : Int) (start : Mark) :
    Nat → Between → Cursor → Except Fault (Between × Cursor)
  | 0, between, c => .ok (between, c)
  | fuel + 1, between, c =>
      match c.head? with
      | none => .ok (between, c)
      | some sign =>
          if isBreak sign then
            plainBetween indent start fuel ⟨[], between.breaks + 1⟩ c.passBreak
          else if !isBlank sign then .ok (between, c)
          else if !c.isFresh then
            plainBetween indent start fuel { between with blanks := between.blanks ++ [sign] }
              c.passBlank
          else if sign = '\t' && c.column < indent then do
            let c ← c.passGap
            if isLineEnd c.head? then plainBetween indent start fuel between c
            else .error ⟨.tabInPlain, start⟩
          else plainBetween indent start fuel between c.passBlank

/-- Reads the words of a plain text behind what stands between them. -/
def plainFrom (inFlow : Bool) (indent : Int) (start : Mark) :
    Nat → Between → Cursor → Scanned
  | 0, _, c => .ok ([], c)
  | fuel + 1, between, c =>
      if c.isAtDocument || c.startsWith '#' then .ok ([], c)
      else if inFlow && c.startsWith '-' && c.second?.any isFlow then c.fault .dashBeforeFlow
      else
        let (word, after) := plainWord inFlow (c.rest.length + 1) c
        let text := if word.isEmpty then [] else between.text ++ word
        if isGap after.head? && after.head?.isSome then do
          let (between, next) ← plainBetween indent start (after.rest.length + 1)
            (if word.isEmpty then between else {}) after
          if !inFlow && next.column < indent then return (text, next)
          else
            let (more, next) ← plainFrom inFlow indent start fuel between next
            return (text ++ more, next)
        else .ok (text, after)

/-- Reads a plain text that has to be indented. -/
def plain (inFlow : Bool) (indent : Int) (c : Cursor) : Scanned :=
  if inFlow && c.column < indent then c.fault .flowIndentation
  else
    match plainFrom inFlow indent c.mark (c.rest.length + 1) {} c with
    | .error f => .error f
    | .ok ([], _) => c.fault .emptyPlain
    | .ok read => .ok read

/-! ## Quoted texts -/

/-- The character that a letter behind a backslash stands for. -/
def shortEscape? : Char → Option Char
  | '0' => some '\x00'
  | 'a' => some '\x07'
  | 'b' => some '\x08'
  | 't' | '\t' => some '\t'
  | 'n' => some '\n'
  | 'v' => some '\x0b'
  | 'f' => some '\x0c'
  | 'r' => some '\r'
  | 'e' => some '\x1b'
  | ' ' => some ' '
  | '"' => some '"'
  | '/' => some '/'
  | '\\' => some '\\'
  | 'N' => some '\u0085'
  | '_' => some '\u00a0'
  | 'L' => some '\u2028'
  | 'P' => some '\u2029'
  | _ => none

/-- The number of digits of a code behind a letter. -/
def codeLength? : Char → Option Nat
  | 'x' => some 2
  | 'u' => some 4
  | 'U' => some 8
  | _ => none

/-- Reads an escape of a text that began at `start`. -/
def escape (start : Mark) (c : Cursor) : Except Fault (Char × Cursor) :=
  match c.second? with
  | none => .error ⟨.unknownEscape, start⟩
  | some letter =>
      match shortEscape? letter, codeLength? letter with
      | some char, _ => .ok (char, c.passMany 2)
      | none, none => .error ⟨.unknownEscape, start⟩
      | none, some count =>
          let c := c.passMany 2
          let digits := c.rest.take count
          if digits.length < count || !digits.all fun c => (Text.hexValue? c).isSome then
            .error ⟨.badCode, start⟩
          else
            let n := Text.digitsValue 16 digits
            if n.isValidChar then .ok (Char.ofNat n, c.passMany count)
            else .error ⟨.badCodePoint, start⟩

/-- Reads a word of a quoted text, to a blank, a line end or the closing mark; tells
whether a backslash joined the next line. -/
def quotedWord (quote : Char) (start : Mark) :
    Nat → Cursor → Except Fault (List Char × Bool × Cursor)
  | 0, c => .ok ([], false, c)
  | fuel + 1, c =>
      match c.head? with
      | none => .ok ([], false, c)
      | some sign =>
          if isGap (some sign) then .ok ([], false, c)
          else if sign = '\'' && quote = '\'' && c.second? = some '\'' then do
            let (word, isJoined, c) ← quotedWord quote start fuel (c.passMany 2)
            return ('\'' :: word, isJoined, c)
          else if sign = quote then .ok ([], false, c)
          else if sign = '\\' && quote = '"' then
            if c.second?.any isBreak then .ok ([], true, c.pass.passBreak)
            else do
              let (char, c) ← escape start c
              let (word, isJoined, c) ← quotedWord quote start fuel c
              return (char :: word, isJoined, c)
          else do
            let (word, isJoined, c) ← quotedWord quote start fuel c.pass
            return (sign :: word, isJoined, c)

/-- Passes what stands between two words of a quoted text; `isNew` tells whether a line
began before it. -/
def quotedBetween (indent : Int) (isNew : Bool) :
    Nat → Between → Cursor → Except Fault (Between × Cursor)
  | 0, between, c => .ok (between, c)
  | fuel + 1, between, c =>
      match c.head? with
      | none => .ok (between, c)
      | some sign =>
          if isBreak sign then
            quotedBetween indent isNew fuel ⟨[], between.breaks + 1⟩ c.passBreak
          else if !isBlank sign then .ok (between, c)
          else if isNew || 0 < between.breaks then
            if sign = '\t' && c.column < indent then c.fault .tabInQuoted
            else quotedBetween indent isNew fuel between c.passBlank
          else
            quotedBetween indent isNew fuel { between with blanks := between.blanks ++ [sign] }
              c.passBlank

/-- Reads a quoted text that began at `start`, behind its opening mark. -/
def quotedFrom (quote : Char) (indent : Int) (start : Mark) : Nat → Cursor → Scanned
  | 0, _ => .error ⟨.endInQuoted, start⟩
  | fuel + 1, c =>
      if c.isAtDocument then .error ⟨.documentInQuoted, start⟩
      else if c.rest.isEmpty then .error ⟨.endInQuoted, start⟩
      else if c.column < indent then .error ⟨.quotedIndentation, start⟩
      else do
        let (word, isJoined, c) ← quotedWord quote start (c.rest.length + 1) c
        if c.head? = some quote then return (word, c.pass)
        else
          let (between, c) ← quotedBetween indent isJoined (c.rest.length + 1) {} c
          let glue := if isJoined then List.replicate between.breaks '\n' else between.text
          let (more, c) ← quotedFrom quote indent start fuel c
          return (word ++ glue ++ more, c)

/-- Reads a quoted text.  Behind it only the end of the line may stand, a colon, or what
has a meaning between brackets. -/
def quoted (inFlow : Bool) (indent : Int) (c : Cursor) : Scanned := do
  let start := c.mark
  let (text, c) ← quotedFrom (c.head?.getD '"') indent start (c.rest.length + 1) c.pass
  let c ← c.passGap
  let isFine := match c.head? with
    | none => true
    | some ':' => inFlow || start.line = c.mark.line
    | some sign => isBreak sign || (inFlow && (sign = ',' || sign = ']' || sign = '\x7d'))
  if isFine then return (text, c) else c.fault .behindQuoted

/-! ## Blocks -/

/-- What becomes of the line ends at the end of a block. -/
inductive Chomping where
  | strip
  | clip
  | keep
  deriving DecidableEq, Repr

/-- What the first line of a block says: what becomes of its last line ends, and how far
it is indented, if it says so. -/
structure Header where
  chomping : Chomping := .clip
  indent : Option Nat := none

/-- Reads the sign for the line ends. -/
def chomping? : Option Char → Option Chomping
  | some '+' => some .keep
  | some '-' => some .strip
  | _ => none

/-- Reads the digit for the indentation. -/
def indentDigit? (c : Cursor) : Option Nat :=
  (c.head?.filter Char.isDigit).map fun d => Text.digitsValue 10 [d]

/-- Reads the first line of a block that began at `start`, behind its sign. -/
def header (start : Mark) (c : Cursor) : Except Fault (Header × Cursor) := do
  let (first, c) := match chomping? c.head? with
    | some chomping => (some chomping, c.pass)
    | none => (none, c)
  let digit := indentDigit? c
  if digit = some 0 then .error ⟨.zeroIndentation, start⟩
  else
    let c := if digit.isSome then c.pass else c
    let (chomping, c) := match first, chomping? c.head? with
      | none, some second => if digit.isSome then (second, c.pass) else (.clip, c)
      | first, _ => (first.getD .clip, c)
    let c ← c.passGap
    if isLineEnd c.head? then return (⟨chomping, digit⟩, c)
    else .error ⟨.blockHeader, start⟩

/-- Passes empty lines and the indentation of the next one, up to `indent` if it is known;
gives the number of lines and the deepest indentation. -/
def blockGap (indent : Option Nat) : Nat → Nat → Nat → Cursor → Nat × Nat × Cursor
  | 0, lines, deepest, c => (lines, deepest, c)
  | fuel + 1, lines, deepest, c =>
      let spaces := (c.rest.takeWhile (· = ' ')).length
      let count := match indent with
        | some indent => min spaces (indent - c.mark.column)
        | none => spaces
      let c := (List.range count).foldl (fun c _ => c.passBlank) c
      let deepest := max deepest c.mark.column
      if c.head?.any isBreak then blockGap indent fuel (lines + 1) deepest c.passBreak
      else (lines, deepest, c)

/-- What was read of a block. -/
structure Lines where
  text : List Char := []
  /-- Whether a line end follows it. -/
  hasBreak : Bool := false
  /-- The empty lines behind it. -/
  empty : Nat := 0
  /-- Whether its last line began with a blank. -/
  isIndented : Bool := false

/-- The line ends before another line. -/
def Lines.between (lines : Lines) (isLiteral isIndented : Bool) : List Char :=
  let empty := List.replicate lines.empty '\n'
  if !isLiteral && lines.hasBreak && !lines.isIndented && !isIndented then
    if lines.empty = 0 then [' '] else empty
  else (if lines.hasBreak then ['\n'] else []) ++ empty

/-- Reads the lines of a block. -/
def blockLines (isLiteral : Bool) (indent : Nat) : Nat → Lines → Cursor → Lines × Cursor
  | 0, lines, c => (lines, c)
  | fuel + 1, lines, c =>
      if c.mark.column ≠ indent || c.rest.isEmpty || (indent = 0 && c.isAtDocumentEnd) then
        (lines, c)
      else
        let isIndented := c.head?.any isBlank
        let line := c.rest.takeWhile fun c => !isBreak c
        let text := lines.text ++ lines.between isLiteral isIndented ++ line
        let c := c.passLine
        if c.rest.isEmpty then ({ text, isIndented }, c)
        else
          let (empty, _, c) := blockGap (some indent) (c.rest.length + 1) 0 0 c.passBreak
          blockLines isLiteral indent fuel { text, hasBreak := true, empty, isIndented } c

/-- The text of a block that has no lines. -/
def emptyBlock (chomping : Chomping) (hasBreak : Bool) (empty : Nat) : List Char :=
  match chomping with
  | .strip => []
  | .clip => if hasBreak then ['\n'] else []
  | .keep => if hasBreak then List.replicate (max 1 empty) '\n' else []

/-- Reads a block below something that is indented; `outer` is its indentation. -/
def block (outer : Int) (c : Cursor) : Scanned := do
  let start := c.mark
  let (header, c) ← header start c.pass
  let hasBreak := c.rest ≠ []
  let c := if hasBreak then c.passBreak else c
  if c.startsWith '\t' then .error ⟨.tabInBlockScalar, start⟩
  else
    let given := header.indent.map fun digit => (max outer 0).toNat + digit
    let (empty, deepest, c) := blockGap given (c.rest.length + 1) 0 0 c
    let least := max (outer + 1).toNat (if 0 < outer then 1 else 0)
    let indent := given.getD (max deepest least)
    if c.rest.isEmpty then
      let hasBreak := c.mark.line ≠ start.line
      return (emptyBlock header.chomping hasBreak empty, c)
    else if c.mark.column < indent && outer < c.column then c.fault .blockIndentation
    else
      let (lines, c) := blockLines isLiteral indent (c.rest.length + 1) { empty } c
      let isUnended := c.rest.isEmpty && max indent 1 ≤ c.mark.column
      let last := (if lines.hasBreak then ['\n'] else []) ++ (if isUnended then ['\n'] else [])
      let ends := match header.chomping with
        | .strip => []
        | .clip => last
        | .keep => last ++ List.replicate lines.empty '\n'
      return (lines.text ++ ends, c)
where
  isLiteral : Bool := c.startsWith '|'

end ThemeEditor.Yaml
