/-
# ThemeEditor.Yaml.Token -- the tokens of a YAML text

Collections are told by brackets or by indentation.  What indentation says is made
explicit by tokens: a collection starts where something stands further to the
right than what it belongs to, and ends where something stands further to the
left.  Whether something is a key shows only at the colon behind it, so what may
turn out to be one is remembered, and the tokens before it are put in afterwards.
-/
import ThemeEditor.Yaml.Scalar

namespace ThemeEditor.Yaml

set_option autoImplicit false

/-- The tokens. -/
inductive Sign where
  | textEnd
  | version
  /-- A handle that stands for the beginning of tags. -/
  | tagHandle (handle start : String)
  | documentStart
  | documentEnd
  | blockList
  | blockMapping
  | blockEnd
  | flowList
  | flowListEnd
  | flowMapping
  | flowMappingEnd
  | blockEntry
  | flowEntry
  | key
  | value
  | alias (name : String)
  | anchor (name : String)
  | tag (handle suffix : String)
  | scalar (isPlain : Bool) (text : String)
  deriving DecidableEq, Repr

/-- A token with its place. -/
structure Token where
  sign : Sign
  mark : Mark
  deriving DecidableEq, Repr

/-- Something that may turn out to be a key. -/
structure Candidate where
  isPossible : Bool := false
  /-- Whether nothing else can stand there. -/
  isRequired : Bool := false
  /-- The number of tokens before it. -/
  place : Nat := 0
  mark : Mark := ⟨0, 0, 0⟩

/-- An indentation that was left, and whether the one after it began a collection. -/
structure Indent where
  outer : Int
  isBlock : Bool

/-- What is known of a text that is partly read. -/
structure Scanner where
  cursor : Cursor
  /-- The tokens so far, the last one first. -/
  tokens : List Token := []
  keyAllowed : Bool := true
  /-- What may be a key outside of brackets and in each pair of them, the innermost
  first. -/
  candidates : List Candidate := [{}]
  indent : Int := -1
  /-- The indentations that were left, the last one first. -/
  indents : List Indent := []
  /-- The number of open brackets. -/
  depth : Nat := 0
  /-- The place at which a colon needs no blank behind it. -/
  adjacent : Nat := 0
  /-- Whether a pair in a list has its own braces. -/
  inMapping : Bool := false
  /-- For each open list, whether a pair without braces is open in it. -/
  pairs : List Bool := []
  isDone : Bool := false

/-- A step of reading. -/
abbrev Scan (α : Type) := StateT Scanner (Except Fault) α

namespace Scanner

/-- Gives up at a place. -/
def failAt {α : Type} (mark : Mark) (problem : Problem) : Scan α :=
  throw ⟨problem, mark⟩

/-- Gives up where the text stands. -/
def fail {α : Type} (problem : Problem) : Scan α := do
  failAt (← get).cursor.mark problem

/-- Moves the cursor. -/
def move (f : Cursor → Cursor) : Scan Unit :=
  modify fun s => { s with cursor := f s.cursor }

/-- Passes blanks and a comment. -/
def moveGap : Scan Unit := do
  let cursor ← (← get).cursor.passGap
  modify fun s => { s with cursor }

/-- Adds a token. -/
def push (sign : Sign) (mark : Mark) : Scan Unit :=
  modify fun s => { s with tokens := ⟨sign, mark⟩ :: s.tokens }

/-- Adds a token in front of which `place` tokens stand. -/
def insertAt (place : Nat) (sign : Sign) (mark : Mark) : Scan Unit :=
  modify fun s =>
    { s with tokens := s.tokens.insertIdx (s.tokens.length - place) ⟨sign, mark⟩ }

def allowKey (isAllowed : Bool) : Scan Unit :=
  modify fun s => { s with keyAllowed := isAllowed }

/-! ## Indentation -/

/-- Ends the collections that stand further to the right. -/
def unrollFrom (column : Int) : Nat → Scan Unit
  | 0 => pure ()
  | fuel + 1 => do
      let s ← get
      match s.indents with
      | last :: rest =>
          if column < s.indent then
            set { s with indent := last.outer, indents := rest }
            if last.isBlock then push .blockEnd s.cursor.mark
            unrollFrom column fuel
      | [] => pure ()

def unroll (column : Int) : Scan Unit := do
  let s ← get
  if s.depth = 0 then unrollFrom column (s.indents.length + 1)

/-- Begins a collection where something stands further to the right; `place` is the
number of tokens before it, if it has begun already. -/
def roll (column : Int) (place : Option Nat) (sign : Sign) (mark : Mark) : Scan Unit := do
  if (← get).depth = 0 then
    modify fun s =>
      match s.indents with
      | last :: rest =>
          if s.indent ≤ column && !last.isBlock then
            { s with indent := last.outer, indents := rest }
          else s
      | [] => s
    let s ← get
    if s.indent < column then
      set { s with indent := column, indents := ⟨s.indent, true⟩ :: s.indents }
      match place with
      | some place => insertAt place sign mark
      | none => push sign mark

/-- Asks for one more column of indentation. -/
def rollOne : Scan Unit :=
  modify fun s =>
    if s.depth = 0 && s.indents.head?.any Indent.isBlock then
      { s with indent := s.indent + 1, indents := ⟨s.indent, false⟩ :: s.indents }
    else s

/-- Takes back what only asked for more columns. -/
def unrollOnes : Scan Unit :=
  modify fun s =>
    let asked := s.indents.takeWhile fun i => !i.isBlock
    { s with
      indent := (asked.getLast?.map Indent.outer).getD s.indent
      indents := s.indents.drop asked.length }

/-! ## Keys -/

/-- Gives up candidates that can be no keys any more: outside of brackets a key stands on
one line and is short. -/
def stale : Scan Unit := do
  let s ← get
  if s.depth = 0 then
    let mark := s.cursor.mark
    let isStale := fun (k : Candidate) =>
      k.isPossible && (k.mark.line < mark.line || k.mark.index + 1024 < mark.index)
    if s.candidates.any fun k => isStale k && k.isRequired then fail .keyWithoutColon
    else
      set { s with
        candidates := s.candidates.map fun k =>
          if isStale k then { k with isPossible := false } else k }

/-- Remembers that a key may begin here. -/
def saveKey : Scan Unit :=
  modify fun s =>
    if s.keyAllowed then
      let mark := s.cursor.mark
      let isRequired := s.depth = 0 && s.indent = s.cursor.column &&
        s.indents.head?.any Indent.isBlock
      { s with
        candidates := ⟨true, isRequired, s.tokens.length, mark⟩ :: s.candidates.drop 1 }
    else s

/-- Forgets the innermost candidate. -/
def removeKey : Scan Unit := do
  let s ← get
  match s.candidates with
  | k :: rest =>
      if k.isPossible && k.isRequired then fail .keyExpected
      else set { s with candidates := { k with isPossible := false } :: rest }
  | [] => pure ()

/-- Ends a pair without braces. -/
def endPair (mark : Mark) : Scan Unit := do
  let s ← get
  match s.pairs with
  | true :: rest =>
      set { s with inMapping := false, pairs := false :: rest }
      push .flowMappingEnd mark
  | _ => pure ()

/-! ## Space -/

/-- Passes over what stands between tokens. -/
def skipFrom : Nat → Scan Unit
  | 0 => pure ()
  | fuel + 1 => do
      let s ← get
      match s.cursor.head? with
      | some '\t' =>
          if !s.indents.isEmpty && s.cursor.isFresh && s.cursor.column < s.indent then
            moveGap
            if isLineEnd (← get).cursor.head? then skipFrom fuel else fail .tabInBlock
          else
            move Cursor.passBlank
            skipFrom fuel
      | some ' ' =>
          move Cursor.passBlank
          skipFrom fuel
      | some '#' =>
          move Cursor.passLine
          skipFrom fuel
      | some c =>
          if isBreak c then
            move Cursor.passBreak
            if s.depth = 0 then allowKey true
            skipFrom fuel
      | none => pure ()

def skip : Scan Unit := do
  skipFrom ((← get).cursor.rest.length + 1)

/-! ## Documents -/

/-- Reads the mark of a document. -/
def documentMark (sign : Sign) : Scan Unit := do
  unroll (-1)
  removeKey
  allowKey false
  let mark := (← get).cursor.mark
  move fun c => c.passMany 3
  push sign mark

/-- Whether a character belongs to the name of a handle. -/
def isWordChar (c : Char) : Bool :=
  c.isAlphanum || c = '-'

/-- Whether a character belongs to an address. -/
def isAddressChar (c : Char) : Bool :=
  isWordChar c || "#;/?:@&=+$,_.!~*'()[]%".toList.contains c

def isTagChar (c : Char) : Bool :=
  isAddressChar c && !isFlow c && c ≠ '!'

/-- Takes the characters of a kind. -/
def takeWhile (isKind : Char → Bool) : Scan String := do
  let word := (← get).cursor.rest.takeWhile isKind
  move fun c => c.passMany word.length
  return String.ofList word

/-- Reads a handle: two exclamation marks, maybe with a name between them, or only the
first of them. -/
def handle : Scan String := do
  if (← get).cursor.startsWith '!' then
    move Cursor.pass
    let name ← takeWhile isWordChar
    if (← get).cursor.startsWith '!' then
      move Cursor.pass
      return "!" ++ name ++ "!"
    else return "!" ++ name
  else fail .tagMark

/-- Reads the value of a directive. -/
def directiveValue (name : String) : Scan Sign := do
  if name = "YAML" then
    let _ ← takeWhile isBlank
    let major ← takeWhile Char.isDigit
    let hasPoint := (← get).cursor.startsWith '.'
    if hasPoint then move Cursor.pass
    let minor ← takeWhile Char.isDigit
    if major = "" || minor = "" || !hasPoint then fail .version else return .version
  else if name = "TAG" then
    let _ ← takeWhile isBlank
    let handle ← handle
    let _ ← takeWhile isBlank
    let start ← takeWhile isAddressChar
    if isGap (← get).cursor.head? then return .tagHandle handle start else fail .tagEnd
  else
    move Cursor.passLine
    return .tagHandle "" ""

/-- Reads a directive. -/
def directive : Scan Unit := do
  unroll (-1)
  removeKey
  allowKey false
  let start := (← get).cursor.mark
  move Cursor.pass
  let name ← takeWhile fun c => isWordChar c || c = '_'
  let sign ← directiveValue name
  moveGap
  let c := (← get).cursor
  if isLineEnd c.head? then
    if c.head?.isSome then move Cursor.passBreak
    push sign start
  else failAt start .directive

/-! ## Brackets -/

/-- The largest number of open brackets. -/
def maxDepth : Nat := 255

/-- Opens brackets. -/
def openFlow (sign : Sign) : Scan Unit := do
  saveKey
  rollOne
  let mark := (← get).cursor.mark
  if (← get).depth = maxDepth then fail .tooDeep
  modify fun s =>
    { s with
      candidates := {} :: s.candidates
      depth := s.depth + 1
      keyAllowed := true
      inMapping := sign = .flowMapping || s.inMapping
      pairs := if sign = .flowMapping then s.pairs else false :: s.pairs }
  move Cursor.pass
  moveGap
  push sign mark

/-- Closes brackets. -/
def closeFlow (sign : Sign) : Scan Unit := do
  removeKey
  let mark := (← get).cursor.mark
  modify fun s =>
    if 0 < s.depth then { s with depth := s.depth - 1, candidates := s.candidates.drop 1 } else s
  allowKey false
  if sign = .flowListEnd then
    endPair mark
    modify fun s => { s with pairs := s.pairs.drop 1 }
  move Cursor.pass
  moveGap
  modify fun s => if 0 < s.depth then { s with adjacent := s.cursor.mark.index } else s
  push sign mark

/-- Reads a comma. -/
def flowEntry : Scan Unit := do
  removeKey
  allowKey true
  let mark := (← get).cursor.mark
  endPair mark
  move Cursor.pass
  moveGap
  push .flowEntry mark

/-! ## Entries, keys and values -/

/-- Whether the last token belongs to something at the beginning of a line. -/
def isProperty (t : Token) : Bool :=
  match t.sign with
  | .anchor _ | .tag _ _ => t.mark.column = 0
  | _ => false

/-- Reads the dash of an entry. -/
def blockEntry : Scan Unit := do
  let s ← get
  let mark := s.cursor.mark
  if 0 < s.depth then fail .entryInFlow
  if !s.keyAllowed then fail .entryNotAllowed
  match s.tokens.head?.filter isProperty with
  | some t => if mark.column = 0 && -1 < s.indent then failAt t.mark .anchorIndentation
  | none => pure ()
  move Cursor.pass
  roll mark.column none .blockList mark
  let (blanks, cursor) ← (← get).cursor.passBlanks true
  modify fun s => { s with cursor }
  if blanks.hasTab && cursor.startsWith '-' && isGap cursor.second? then fail .tabBehindEntry
  let (_, cursor) ← cursor.passBlanks false
  modify fun s => { s with cursor }
  if cursor.head?.any fun c => isBreak c || isFlow c then rollOne
  removeKey
  allowKey true
  push .blockEntry cursor.mark

/-- Reads the question mark of a key. -/
def explicitKey : Scan Unit := do
  let s ← get
  let mark := s.cursor.mark
  if s.depth = 0 then
    if !s.keyAllowed then fail .keyNotAllowed
    roll mark.column none .blockMapping mark
  else modify fun s => { s with inMapping := true }
  removeKey
  allowKey (s.depth = 0)
  move Cursor.pass
  let (_, cursor) ← (← get).cursor.passBlanks false
  modify fun s => { s with cursor }
  if cursor.startsWith '\t' then fail .tabBehindKey
  push .key mark

/-- Reads the colon of a value. -/
def value : Scan Unit := do
  let s ← get
  let mark := s.cursor.mark
  let candidate := s.candidates.headD {}
  let isPair := !s.pairs.isEmpty && !s.inMapping
  if isPair then modify fun s => { s with pairs := true :: s.pairs.drop 1 }
  move Cursor.pass
  if (← get).cursor.startsWith '\t' then
    let (blanks, cursor) ← (← get).cursor.passBlanks true
    modify fun s => { s with cursor }
    if !blanks.hasSpace && cursor.head?.any (fun c => c = '-' || c = '_' || c.isAlphanum) then
      fail .tabBehindValue
  if candidate.isPossible then
    insertAt candidate.place .key candidate.mark
    if isPair then
      if candidate.mark.line < mark.line then failAt mark .colonNotAllowed
      insertAt candidate.place .flowMapping candidate.mark
    roll candidate.mark.column (some candidate.place) .blockMapping mark
    rollOne
    modify fun s =>
      { s with candidates := { candidate with isPossible := false } :: s.candidates.drop 1 }
    allowKey false
  else
    if isPair then push .flowMapping mark
    if s.depth = 0 then
      if !s.keyAllowed then failAt mark .valueNotAllowed
      roll mark.column none .blockMapping mark
    rollOne
    allowKey (s.depth = 0)
  push .value mark

/-! ## Anchors, tags and texts -/

/-- Whether a character belongs to the name of an anchor. -/
def isAnchorChar (c : Char) : Bool :=
  !isBreak c && !isBlank c && !isFlow c && c ≠ '\ufeff'

/-- Reads an anchor, or what repeats one. -/
def anchor (isAlias : Bool) : Scan Unit := do
  saveKey
  allowKey false
  let mark := (← get).cursor.mark
  move Cursor.pass
  let name ← takeWhile isAnchorChar
  if name = "" then failAt mark .noAnchorName
  push (if isAlias then .alias name else .anchor name) mark

/-- Reads a tag. -/
def tag : Scan Unit := do
  saveKey
  allowKey false
  let s ← get
  let mark := s.cursor.mark
  let sign ←
    if s.cursor.second? = some '<' then do
      move fun c => c.passMany 2
      let address ← takeWhile isAddressChar
      if (← get).cursor.startsWith '>' then
        move Cursor.pass
        pure (Sign.tag "" address)
      else failAt mark .verbatimEnd
    else do
      let handle ← handle
      if 2 ≤ handle.length && handle.toList.getLast? = some '!' then
        let suffix ← takeWhile isTagChar
        if suffix = "" then failAt mark .tagName else pure (Sign.tag handle suffix)
      else
        let suffix := String.ofList (handle.toList.drop 1) ++ (← takeWhile isTagChar)
        pure (if suffix = "" then Sign.tag "" "!" else Sign.tag "!" suffix)
  let c := (← get).cursor
  if isGap c.head? || (0 < s.depth && c.head?.any isFlow) then push sign mark
  else failAt mark .tagEnd

/-- Reads a text. -/
def text (isPlain : Bool) (read : Scanner → Scanned) : Scan Unit := do
  let s ← get
  let (cs, cursor) ← read s
  modify fun s => { s with cursor }
  push (.scalar isPlain (String.ofList cs)) s.cursor.mark

/-- Reads a plain text. -/
def plainText : Scan Unit := do
  saveKey
  allowKey false
  unrollOnes
  text true fun s => plain (0 < s.depth) (s.indent + 1) s.cursor
  if (← get).cursor.isFresh then allowKey true

/-- Reads a quoted text. -/
def quotedText : Scan Unit := do
  saveKey
  allowKey false
  text false fun s => quoted (0 < s.depth) s.indent s.cursor
  skip
  modify fun s => { s with adjacent := s.cursor.mark.index }

/-- Reads a block. -/
def blockText : Scan Unit := do
  saveKey
  allowKey true
  unrollOnes
  text false fun s => block s.indent s.cursor

/-! ## The whole -/

/-- Ends the text. -/
def finish : Scan Unit := do
  modify fun s =>
    if s.cursor.mark.column = 0 then s
    else
      let mark := s.cursor.mark
      { s with cursor := { s.cursor with mark := ⟨mark.index, mark.line + 1, 0⟩ } }
  if (← get).candidates.any fun k => k.isPossible && k.isRequired then fail .keyExpected
  modify fun s =>
    { s with candidates := s.candidates.map fun k => { k with isPossible := false } }
  unroll (-1)
  push .textEnd (← get).cursor.mark
  modify fun s => { s with isDone := true }

/-- Reads what begins with a character. -/
def token (c : Char) : Scan Unit := do
  let s ← get
  let second := s.cursor.second?
  let inFlow := decide (0 < s.depth)
  if c = '[' then openFlow .flowList
  else if c = '\x7b' then openFlow .flowMapping
  else if c = ']' then closeFlow .flowListEnd
  else if c = '\x7d' then closeFlow .flowMappingEnd
  else if c = ',' then flowEntry
  else if c = '-' && isGap second then blockEntry
  else if c = '?' && isGap second then explicitKey
  else if c = ':' &&
      (isGap second || (inFlow && (second.any isFlow || s.cursor.mark.index = s.adjacent))) then
    value
  else if c = '*' then anchor true
  else if c = '&' then anchor false
  else if c = '!' then tag
  else if (c = '|' || c = '>') && !inFlow then blockText
  else if c = '\'' || c = '"' then quotedText
  else if c = '%' || c = '@' || c = '\x60' then fail (.badCharacter c)
  else plainText

/-- Reads the next tokens. -/
def next : Scan Unit := do
  stale
  skip
  stale
  unroll (← get).cursor.column
  let c := (← get).cursor
  match c.head? with
  | none => finish
  | some head =>
      if c.mark.column = 0 && head = '%' then directive
      else if c.isAtDocumentStart then documentMark .documentStart
      else if c.isAtDocumentEnd then
        documentMark .documentEnd
        moveGap
        if !isLineEnd (← get).cursor.head? then fail .behindDocumentEnd
      else if c.column < (← get).indent then fail .badIndentation
      else token head

/-- Reads tokens to the end of the text, or to a fault. -/
def run : Nat → Scanner → List Token × Option Fault
  | 0, s => (s.tokens.reverse, none)
  | fuel + 1, s =>
      if s.isDone then (s.tokens.reverse, none)
      else
        match next.run s with
        | .ok (_, s) => run fuel s
        | .error f => (s.tokens.reverse, some f)

/-- The tokens of a text, and the fault that ends them. -/
def read (source : String) : List Token × Option Fault :=
  let cursor := Cursor.start source
  run (2 * cursor.rest.length + 2) { cursor }

end Scanner

end ThemeEditor.Yaml
