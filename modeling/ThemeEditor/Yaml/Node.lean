/-
# ThemeEditor.Yaml.Node -- the values that tokens make up

A node is a text, a list or a mapping, with a tag and an anchor in front if it has
them.  A plain text without a tag is what it looks like: nothing, a truth value,
a number, or a text.  An alias repeats what its anchor stands for; inside of that
there is nothing to repeat yet.
-/
import ThemeEditor.Number.Nearest
import ThemeEditor.Text.Quoted
import ThemeEditor.Yaml.Token

namespace ThemeEditor.Yaml

set_option autoImplicit false

/-- A node.  A number with a point or an exponent keeps its text. -/
inductive Node where
  | null
  | boolean (value : Bool)
  | integer (value : Int)
  | real (text : String)
  | text (value : String)
  | list (items : List Node)
  | mapping (members : List (Node × Node))
  /-- What is not what its tag says, or repeats nothing. -/
  | undefined
  deriving Repr, Inhabited

namespace Node

mutual

/-- How a message shows a node. -/
def shown : Node → String
  | null => "Null"
  | boolean b => s!"Boolean({b})"
  | integer n => s!"Integer({n})"
  | real t => s!"Real({Text.quoted t})"
  | text t => s!"String({Text.quoted t})"
  | list items => "Array([" ++ ", ".intercalate (shownItems items) ++ "])"
  | mapping members => "Hash(\x7b" ++ ", ".intercalate (shownMembers members) ++ "\x7d)"
  | undefined => "BadValue"

def shownItems : List Node → List String
  | [] => []
  | x :: xs => x.shown :: shownItems xs

def shownMembers : List (Node × Node) → List String
  | [] => []
  | (k, x) :: ms => s!"{k.shown}: {x.shown}" :: shownMembers ms

end

mutual

/-- Whether two nodes are the same. -/
def isSame : Node → Node → Bool
  | null, null | undefined, undefined => true
  | boolean a, boolean b => a = b
  | integer m, integer n => m = n
  | real t, real u | text t, text u => t = u
  | list xs, list ys => areSame xs ys
  | mapping ms, mapping ns => haveSame ms ns
  | _, _ => false

def areSame : List Node → List Node → Bool
  | [], [] => true
  | x :: xs, y :: ys => x.isSame y && areSame xs ys
  | _, _ => false

def haveSame : List (Node × Node) → List (Node × Node) → Bool
  | [], [] => true
  | (k, x) :: ms, (l, y) :: ns => k.isSame l && x.isSame y && haveSame ms ns
  | _, _ => false

end

/-! ## Plain texts -/

/-- The words for numbers that are infinite or undefined. -/
def unboundWords : List String :=
  [".inf", ".Inf", ".INF", "+.inf", "+.Inf", "+.INF", "-.inf", "-.Inf", "-.INF", ".nan", ".NaN",
   ".NAN"]

/-- Whether a text is a number with a point or an exponent. -/
def isReal (t : String) : Bool :=
  unboundWords.contains t || Number.isWritten t.toList

/-- The integer of a text with a sign for its base, or with a plus sign. -/
def markedInteger? (t : String) : Option Int :=
  match t.toList with
  | '0' :: 'x' :: r => Number.integer64? 16 r
  | '0' :: 'o' :: r => Number.integer64? 8 r
  | '+' :: r => Number.integer64? 10 r
  | _ => none

/-- What a plain text is. -/
def ofPlain (t : String) : Node :=
  match markedInteger? t with
  | some n => integer n
  | none =>
      if t = "~" || t = "null" then null
      else if t = "true" then boolean true
      else if t = "false" then boolean false
      else
        match Number.integer64? 10 t.toList with
        | some n => integer n
        | none => if isReal t then real t else text t

/-- The beginning of the tags that everybody knows. -/
def commonTags : String := "tag:yaml.org,2002:"

/-- What a plain text with a tag is. -/
def ofTagged (start suffix t : String) : Node :=
  if start ≠ commonTags then text t
  else if suffix = "bool" then
    if t = "true" then boolean true else if t = "false" then boolean false else undefined
  else if suffix = "int" then ((Number.integer64? 10 t.toList).map integer).getD undefined
  else if suffix = "float" then if isReal t then real t else undefined
  else if suffix = "null" then if t = "~" || t = "null" then null else undefined
  else text t

/-- A text with its tag. -/
def ofText (isPlain : Bool) (tag : Option (String × String)) (t : String) : Node :=
  match isPlain, tag with
  | false, _ => text t
  | true, some (start, suffix) => ofTagged start suffix t
  | true, none => ofPlain t

end Node

/-! ## Reading -/

/-- What is known while tokens are put together. -/
structure Composer where
  tokens : List Token
  /-- What ends the tokens. -/
  fault : Option Fault
  /-- The anchors by name, the last one first, with their numbers. -/
  names : List (String × Nat) := []
  /-- The nodes of the anchors by number. -/
  anchored : List (Nat × Node) := []
  /-- What handles stand for. -/
  handles : List (String × String) := []
  /-- The first key that a mapping has twice. -/
  second : Option Fault := none

/-- A step of putting tokens together. -/
abbrev Compose (α : Type) := StateT Composer (Except Fault) α

namespace Composer

def failAt {α : Type} (mark : Mark) (problem : Problem) : Compose α :=
  throw ⟨problem, mark⟩

/-- The next token. -/
def peek : Compose Token := do
  let s ← get
  match s.tokens, s.fault with
  | t :: _, _ => return t
  | [], some f => throw f
  | [], none => return ⟨.textEnd, default⟩

/-- Passes a token. -/
def pass : Compose Unit :=
  modify fun s => { s with tokens := s.tokens.drop 1 }

/-- Takes the next token. -/
def take : Compose Token := do
  let t ← peek
  pass
  return t

/-- What a handle and the rest of a tag stand for. -/
def resolve (mark : Mark) (handle suffix : String) : Compose (String × String) := do
  match (← get).handles.lookup handle with
  | some start => return (start, suffix)
  | none =>
      if handle = "!!" then return (Node.commonTags, suffix)
      else if 2 ≤ handle.length then failAt mark .unknownHandle
      else return (handle, suffix)

/-- Numbers an anchor. -/
def register (name : String) : Compose Nat := do
  let s ← get
  let number := s.names.length + 1
  set { s with names := (name, number) :: s.names }
  return number

/-- What stands in front of a node: its anchor and its tag. -/
structure Properties where
  anchor : Option Nat := none
  tag : Option (String × String) := none

/-- Reads what stands in front of a node. -/
def properties : Compose Properties := do
  let first ← peek
  match first.sign with
  | .anchor name =>
      pass
      let anchor ← register name
      let next ← peek
      match next.sign with
      | .tag handle suffix =>
          pass
          return ⟨some anchor, some (← resolve next.mark handle suffix)⟩
      | _ => return ⟨some anchor, none⟩
  | .tag handle suffix =>
      pass
      let tag ← resolve first.mark handle suffix
      match (← peek).sign with
      | .anchor name =>
          pass
          return ⟨some (← register name), some tag⟩
      | _ => return ⟨none, some tag⟩
  | _ => return {}

/-- Adds a member to a mapping; `mark` is the place of the value. -/
def addMember (members : List (Node × Node)) (key value : Node) (mark : Mark) :
    Compose (List (Node × Node)) := do
  if members.any fun m => m.1.isSame key then
    modify fun s => { s with second := s.second <|> some ⟨.secondKey key.shown, mark⟩ }
  return members ++ [(key, value)]

/-- Whether a value or key of a block is left out before a token. -/
def isLeftOut : Sign → Bool
  | .key | .value | .blockEnd => true
  | _ => false

/-- Whether an entry of a block is left out before a token. -/
def isEntryLeftOut (isIndented : Bool) : Sign → Bool
  | .blockEntry | .blockEnd => true
  | .key | .value => !isIndented
  | _ => false

mutual

/-- Reads a node, and gives the place of what ends it.  In a block it may be a block
itself, and behind a key also a list that is not indented. -/
def node (inBlock mayBeLevel : Bool) : Nat → Compose (Node × Mark)
  | 0 => do failAt (← peek).mark .tooDeep
  | fuel + 1 => do
      let first ← peek
      match first.sign with
      | .alias name =>
          pass
          let s ← get
          match s.names.lookup name with
          | none => failAt first.mark .unknownAnchor
          | some number => return ((s.anchored.lookup number).getD .undefined, first.mark)
      | _ =>
          let properties ← properties
          let (n, mark) ← content inBlock mayBeLevel properties fuel
          match properties.anchor with
          | some number =>
              modify fun s => { s with anchored := (number, n) :: s.anchored }
          | none => pure ()
          return (n, mark)

/-- Reads what stands behind the anchor and the tag of a node. -/
def content (inBlock mayBeLevel : Bool) (properties : Properties) : Nat → Compose (Node × Mark)
  | 0 => do failAt (← peek).mark .tooDeep
  | fuel + 1 => do
      let t ← peek
      match t.sign, inBlock, mayBeLevel with
      | .blockEntry, _, true => entries false fuel []
      | .scalar isPlain text, _, _ =>
          pass
          return (.ofText isPlain properties.tag text, t.mark)
      | .flowList, _, _ =>
          pass
          items true fuel []
      | .flowMapping, _, _ =>
          pass
          flowMembers true fuel []
      | .blockList, true, _ =>
          pass
          entries true fuel []
      | .blockMapping, true, _ =>
          pass
          blockMembers fuel []
      | _, _, _ =>
          if properties.anchor.isSome || properties.tag.isSome then
            return (.ofText true properties.tag "", t.mark)
          else failAt t.mark .nodeExpected

/-- Reads the entries of a list; `done` holds those before, the last one first. -/
def entries (isIndented : Bool) : Nat → List Node → Compose (Node × Mark)
  | 0, _ => do failAt (← peek).mark .tooDeep
  | fuel + 1, done => do
      let t ← peek
      match t.sign, isIndented with
      | .blockEntry, _ =>
          pass
          if isEntryLeftOut isIndented (← peek).sign then
            entries isIndented fuel (.null :: done)
          else
            let (n, _) ← node true false fuel
            entries isIndented fuel (n :: done)
      | .blockEnd, true =>
          pass
          return (.list done.reverse, t.mark)
      | _, true => failAt t.mark .dashExpected
      | _, false => return (.list done.reverse, t.mark)

/-- Reads the members of a mapping in a block. -/
def blockMembers : Nat → List (Node × Node) → Compose (Node × Mark)
  | 0, _ => do failAt (← peek).mark .tooDeep
  | fuel + 1, done => do
      let t ← peek
      match t.sign with
      | .key =>
          pass
          let (key, _) ← blockNode fuel
          let (value, mark) ← blockValue fuel
          blockMembers fuel (← addMember done key value mark)
      | .value =>
          let (value, mark) ← blockValue fuel
          blockMembers fuel (← addMember done .null value mark)
      | .blockEnd =>
          pass
          return (.mapping done, t.mark)
      | _ => failAt t.mark .blockKeyExpected

/-- Reads a key or a value of a block that may be left out. -/
def blockNode : Nat → Compose (Node × Mark)
  | 0 => do failAt (← peek).mark .tooDeep
  | fuel + 1 => do
      let t ← peek
      if isLeftOut t.sign then return (.null, t.mark) else node true true fuel

/-- Reads the value of a member in a block. -/
def blockValue : Nat → Compose (Node × Mark)
  | 0 => do failAt (← peek).mark .tooDeep
  | fuel + 1 => do
      let t ← peek
      if t.sign = .value then
        pass
        blockNode fuel
      else return (.null, t.mark)

/-- Reads the items of a list in brackets. -/
def items (isFirst : Bool) : Nat → List Node → Compose (Node × Mark)
  | 0, _ => do failAt (← peek).mark .tooDeep
  | fuel + 1, done => do
      let t ← peek
      if t.sign = .flowListEnd then
        pass
        return (.list done.reverse, t.mark)
      else
        if !isFirst then
          if t.sign = .flowEntry then pass else failAt t.mark .flowItemEnd
        let t ← peek
        if t.sign = .flowListEnd then
          pass
          return (.list done.reverse, t.mark)
        else
          let (n, _) ← node false false fuel
          items false fuel (n :: done)

/-- Reads the members of a mapping in braces. -/
def flowMembers (isFirst : Bool) : Nat → List (Node × Node) → Compose (Node × Mark)
  | 0, _ => do failAt (← peek).mark .tooDeep
  | fuel + 1, done => do
      let t ← peek
      if t.sign = .flowMappingEnd then
        pass
        return (.mapping done, t.mark)
      else
        if !isFirst then
          if t.sign = .flowEntry then pass else failAt t.mark .flowPairEnd
        let t ← peek
        if t.sign = .flowMappingEnd then
          pass
          return (.mapping done, t.mark)
        else if t.sign = .key then
          pass
          let next ← peek
          let (key, _) ←
            if next.sign = .value || next.sign = .flowEntry || next.sign = .flowMappingEnd then
              pure (.null, next.mark)
            else node false false fuel
          let (value, mark) ← flowValue fuel
          flowMembers false fuel (← addMember done key value mark)
        else if t.sign = .value then
          let (value, mark) ← flowValue fuel
          flowMembers false fuel (← addMember done .null value mark)
        else
          let (key, _) ← node false false fuel
          let next ← peek
          flowMembers false fuel (← addMember done key .null next.mark)

/-- Reads the value of a member in braces. -/
def flowValue : Nat → Compose (Node × Mark)
  | 0 => do failAt (← peek).mark .tooDeep
  | fuel + 1 => do
      let t ← peek
      if t.sign = .value then
        pass
        let next ← peek
        if next.sign = .flowEntry || next.sign = .flowMappingEnd then return (.null, t.mark)
        else node false false fuel
      else return (.null, t.mark)

end

/-! ## Documents -/

/-- Reads directives; `hasVersion` tells whether there was one of the version. -/
def directives (hasVersion : Bool) : Nat → Compose Unit
  | 0 => pure ()
  | fuel + 1 => do
      let t ← peek
      match t.sign with
      | .version =>
          if hasVersion then failAt t.mark .secondVersion
          pass
          directives true fuel
      | .tagHandle handle start =>
          if ((← get).handles.lookup handle).isSome then failAt t.mark .secondHandle
          modify fun s => { s with handles := (handle, start) :: s.handles }
          pass
          directives hasVersion fuel
      | _ => pure ()

/-- Whether a document without a node ends before a token. -/
def endsDocument : Sign → Bool
  | .version | .tagHandle _ _ | .documentStart | .documentEnd | .textEnd => true
  | _ => false

/-- Reads the node of a document whose start is marked. -/
def marked (fuel : Nat) : Compose Node := do
  directives false fuel
  let t ← peek
  if t.sign = .documentStart then
    pass
    if endsDocument (← peek).sign then return .null else return (← node true false fuel).1
  else failAt t.mark .documentExpected

/-- Ends a document; tells whether its end is marked. -/
def endDocument : Compose Bool := do
  modify fun s => { s with handles := [] }
  let t ← peek
  match t.sign with
  | .documentEnd =>
      pass
      return true
  | .version | .tagHandle _ _ => failAt t.mark .directiveBeforeEnd
  | _ => return false

/-- Passes the marked ends of documents. -/
def passEnds : Nat → Compose Unit
  | 0 => pure ()
  | fuel + 1 => do
      if (← peek).sign = .documentEnd then
        pass
        passEnds fuel

/-- Reads documents to the end; the start of the first one need not be marked. -/
def documents : Nat → Bool → List Node → Compose (List Node)
  | 0, _, done => pure done.reverse
  | fuel + 1, mayBeBare, done => do
      passEnds (fuel + 1)
      let t ← peek
      if t.sign = .textEnd then return done.reverse
      else
        let isBare := mayBeBare && !endsDocument t.sign
        let n ← if isBare then (·.1) <$> node true false (8 * fuel + 8) else marked (8 * fuel + 8)
        documents fuel (← endDocument) (n :: done)

end Composer

/-- The nodes of the documents of a text. -/
def nodes (source : String) : Except Fault (List Node) :=
  let (tokens, fault) := Scanner.read source
  match (Composer.documents (tokens.length + 1) true []).run { tokens, fault } with
  | .error f => .error f
  | .ok (ns, s) =>
      match s.second with
      | some f => .error f
      | none => .ok ns

end ThemeEditor.Yaml
