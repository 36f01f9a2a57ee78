/-
# ThemeEditor.Web.Address -- web addresses as people write them

An address is read leniently: white space around it is dropped, schemes and hosts
are put into lower case, backslashes count as slashes, and steps like `..` are
taken at once.  What names no scheme can still be read as seen from another
address.  Written again, an address is in its one standard form.

In the addresses of files a segment may name a drive, by a letter and a colon.
No step leads out of what looks like a drive, in whatever address it stands.
-/
import ThemeEditor.Text.Lower
import ThemeEditor.Web.Host

namespace ThemeEditor.Web

set_option autoImplicit false

/-- An address in its standard form. -/
structure Address where
  scheme : String
  /-- A name, and behind a colon a password. -/
  user : String := ""
  host : Option Host
  /-- The number of the socket, if it is not the usual one of the scheme. -/
  portNumber : Option UInt16 := none
  path : String
  query : Option String := none
  fragment : Option String := none
  deriving DecidableEq, Repr

namespace Address

/-! ## Schemes -/

/-- The schemes whose addresses have hosts and paths, with their usual numbers. -/
def webSchemes : List (String × Option UInt16) :=
  [("http", some 80), ("https", some 443), ("ws", some 80), ("wss", some 443), ("ftp", some 21),
   ("file", none)]

def isWebScheme (scheme : String) : Bool :=
  webSchemes.any fun s => s.1 = scheme

def usualNumber? (scheme : String) : Option UInt16 :=
  (webSchemes.lookup scheme).join

/-- Whether requests can be sent to the address. -/
def isHttp (a : Address) : Bool :=
  a.scheme = "http" || a.scheme = "https"

def isSchemeChar (c : Char) : Bool :=
  c.isAlphanum || c = '+' || c = '-' || c = '.'

/-- Reads the scheme and its colon. -/
def scheme? (cs : List Char) : Option (String × List Char) :=
  match cs, cs.dropWhile isSchemeChar with
  | c :: _, ':' :: r =>
      if c.isAlpha then some (Text.lower (String.ofList (cs.takeWhile isSchemeChar)), r) else none
  | _, _ => none

/-! ## Paths -/

/-- Whether a character parts the segments of a path. -/
def isSlash (isWeb : Bool) (c : Char) : Bool :=
  c = '/' || (isWeb && c = '\\')

/-- Whether a segment begins like a drive. -/
def looksLikeDrive : List Char → Bool
  | letter :: mark :: rest =>
      letter.isAlpha && (mark = ':' || mark = '|') && (rest.isEmpty || rest.head? = some '\\')
  | _ => false

/-- Whether a segment is a drive. -/
def isDrive (segment : List Char) : Bool :=
  segment.length = 2 && looksLikeDrive segment

/-- A segment with its escaped points undone. -/
def plainDots (segment : List Char) : List Char :=
  match segment with
  | '%' :: '2' :: c :: r => if c = 'e' || c = 'E' then '.' :: plainDots r else segment
  | c :: r => c :: plainDots r
  | [] => []

/-- Leaves a segment, the last of those so far; they stand with the last one first. -/
def leave : List (List Char) → List (List Char)
  | segment :: before => if looksLikeDrive segment then segment :: before else before
  | [] => []

/-- Takes the steps of a path; `done` holds the segments so far, the last one first. -/
def steps (isFile : Bool) (done : List (List Char)) : List (List Char) → List (List Char)
  | [] => done.reverse
  | s :: rest =>
      let isStep := plainDots s = ['.'] || plainDots s = ['.', '.']
      let done :=
        if plainDots s = ['.'] then done
        else if plainDots s = ['.', '.'] then leave done
        else if isFile && done.isEmpty && isDrive s then (s.take 1 ++ [':']) :: done
        else Percent.encode Percent.inPath s :: done
      steps isFile (if isStep && rest.isEmpty then [] :: done else done) rest

/-- A path of its segments. -/
def joined (segments : List (List Char)) : String :=
  String.ofList ('/' :: ['/'].intercalate segments)

/-- The path of some text behind the segments `before`, the last of them first. -/
def pathBehind (isWeb : Bool) (before : List (List Char)) (cs : List Char) : String :=
  joined (steps false before (cs.splitOnP (isSlash isWeb)))

/-- Text without the slash at its front. -/
def withoutSlash (isWeb : Bool) (cs : List Char) : List Char :=
  match cs with
  | c :: r => if isSlash isWeb c then r else cs
  | [] => []

/-- The path of the text behind a host. -/
def pathOf (isWeb : Bool) (cs : List Char) : String :=
  if cs.isEmpty && !isWeb then "" else pathBehind isWeb [] (withoutSlash isWeb cs)

/-- The path of a file, without empty segments at its front. -/
def filePath (segments : List (List Char)) : String :=
  String.ofList ('/' :: (['/'].intercalate segments).dropWhile (· = '/'))

/-! ## Hosts -/

/-- Reads a colon and the number of a socket, and returns what follows. -/
def portNumber? (scheme : String) (cs : List Char) : Option (Option UInt16 × List Char) :=
  match cs with
  | ':' :: r =>
      let digits := r.takeWhile Char.isDigit
      let rest := r.dropWhile Char.isDigit
      let n := Text.digitsValue 10 digits
      if 65535 < n || !(rest.isEmpty || rest.head? = some '\\') then none
      else if digits.isEmpty then some (none, rest)
      else some ((some n.toUInt16).filter (some · ≠ usualNumber? scheme), rest)
  | cs => some (none, cs)

/-- Splits a text where its host ends; colons within brackets belong to the host. -/
def splitHost (isBracketed : Bool) : List Char → List Char × List Char
  | [] => ([], [])
  | c :: r =>
      if c = ':' && !isBracketed then ([], c :: r)
      else
        let staysBracketed := c = '[' || (c ≠ ']' && isBracketed)
        let (host, rest) := splitHost staysBracketed r
        (c :: host, rest)

/-- Splits a text at the last sign that ends a name and password, if there is one. -/
def splitUser (cs : List Char) : Option (List Char) × List Char :=
  if cs.contains '@' then
    let back := cs.reverse
    (some ((back.dropWhile (· ≠ '@')).drop 1).reverse, (back.takeWhile (· ≠ '@')).reverse)
  else (none, cs)

/-- A name and password in standard form.  An empty password has no colon. -/
def userText (cs : List Char) : String :=
  let name := Percent.encode Percent.inUser (cs.takeWhile (· ≠ ':'))
  let password := Percent.encode Percent.inUser ((cs.dropWhile (· ≠ ':')).drop 1)
  String.ofList (if password.isEmpty then name else name ++ ':' :: password)

/-- Where a request may be sent: a name and password, a host and a number. -/
structure Authority where
  user : String
  host : Host
  portNumber : Option UInt16

/-- Reads what stands between the two slashes and the path, and returns what of it already
belongs to the path. -/
def authority? (scheme : String) (cs : List Char) (isLast : Bool) :
    Option (Authority × List Char) := do
  let (user, place) := splitUser cs
  let (name, number) := splitHost false place
  if user = some [] && place.isEmpty && !isLast then none
  else if name.isEmpty && (isWebScheme scheme || !number.isEmpty) then none
  else
    let user := userText (user.getD [])
    let host ← if isWebScheme scheme then Host.read name else Host.readOther name
    let (number, rest) ← portNumber? scheme number
    if name.isEmpty && user ≠ "" then none else return (⟨user, host, number⟩, rest)

/-! ## Queries and fragments -/

/-- The parts of a text at its first hash sign. -/
def splitFragment (cs : List Char) : List Char × Option (List Char) :=
  match cs.dropWhile (· ≠ '#') with
  | [] => (cs, none)
  | _ :: r => (cs.takeWhile (· ≠ '#'), some r)

/-- The parts of a text at its first question mark. -/
def splitQuery (cs : List Char) : List Char × Option (List Char) :=
  match cs.dropWhile (· ≠ '?') with
  | [] => (cs, none)
  | _ :: r => (cs.takeWhile (· ≠ '?'), some r)

/-- A query in standard form. -/
def queryText (scheme : String) (query : List Char) : String :=
  String.ofList
    (Percent.encode (if isWebScheme scheme then Percent.inWebQuery else Percent.inQuery) query)

/-- A fragment in standard form. -/
def fragmentText (fragment : List Char) : String :=
  String.ofList (Percent.encode Percent.inFragment fragment)

/-- An address without what follows its path, completed by a text that has it all. -/
def complete (a : Address) (path : List Char → String) (cs : List Char) : Address :=
  let (rest, fragment) := splitFragment cs
  let (place, query) := splitQuery rest
  { a with
    path := path place
    query := query.map (queryText a.scheme)
    fragment := fragment.map fragmentText }

/-! ## Reading -/

/-- Reads an address behind its scheme and the slashes before the host. -/
def readHost (scheme : String) (cs : List Char) : Option Address :=
  let isWeb := isWebScheme scheme
  let isEnd := fun (c : Char) => isSlash isWeb c || c = '?' || c = '#'
  let rest := cs.dropWhile fun c => !isEnd c
  (authority? scheme (cs.takeWhile fun c => !isEnd c) rest.isEmpty).map fun (authority, more) =>
    complete
      { scheme, user := authority.user, host := some authority.host
        portNumber := authority.portNumber, path := "" }
      (pathOf isWeb) (more ++ rest)

/-- Reads the address of a file behind its scheme.  A drive is on this machine, whatever
host is named. -/
def readFile (cs : List Char) : Option Address :=
  let slashes := cs.takeWhile (isSlash true)
  let segments := fun (place : List Char) => place.splitOnP (isSlash true)
  let here := fun (cs : List Char) =>
    complete { scheme := "file", host := some (.named ""), path := "" }
      (fun place => filePath (steps true [] (segments place))) cs
  if slashes.length < 2 then some (here (withoutSlash true cs))
  else
    let cs := cs.drop 2
    let isEnd := fun (c : Char) => isSlash true c || c = '?' || c = '#'
    let name := cs.takeWhile fun c => !isEnd c
    let rest := cs.dropWhile fun c => !isEnd c
    if isDrive name then some (here cs)
    else if name.isEmpty then some (here rest)
    else
      match Host.read name with
      | none => none
      | some host =>
          if host = .named "localhost" then some (here rest)
          else
            let place := (splitQuery (splitFragment rest).1).1
            let taken := steps true [] (segments (withoutSlash true place))
            let host := if taken.head?.any isDrive then .named "" else host
            some (complete { scheme := "file", host := some host, path := "" }
              (fun _ => filePath taken) rest)

/-- Whether a character is dropped at the ends of a text. -/
def isMargin (c : Char) : Bool :=
  c.toNat ≤ 0x20

/-- The characters of a text that count. -/
def relevant (t : String) : List Char :=
  let cs := ((t.toList.dropWhile isMargin).reverse.dropWhile isMargin).reverse
  cs.filter fun c => c ≠ '\t' && c ≠ '\n' && c ≠ '\r'

/-- Reads an address behind its scheme. -/
def readScheme (scheme : String) (rest : List Char) : Option Address :=
  if scheme = "file" then readFile rest
  else if isWebScheme scheme then readHost scheme (rest.dropWhile (isSlash true))
  else
    let a : Address := { scheme, host := none, path := "" }
    match rest with
    | '/' :: '/' :: r => readHost scheme r
    | '/' :: _ => some (a.complete (pathOf false) rest)
    | _ => some (a.complete (fun cs => String.ofList (Percent.encode [] cs)) rest)

/-- Reads an address; `none` if the text is none, or names no scheme. -/
def read (t : String) : Option Address :=
  match scheme? (relevant t) with
  | none => none
  | some (scheme, rest) => readScheme scheme rest

/-- The segments of the path, the last one first. -/
def segments (a : Address) : List (List Char) :=
  ((a.path.toList.drop 1).splitOn '/').reverse

/-- Reads what is seen from an address of the web.  Of more than two slashes that are no
backslashes the host stands behind the second. -/
def readFrom (a : Address) (cs : List Char) : Option Address :=
  let place := { a with query := none, fragment := none }
  match cs with
  | [] => some { a with fragment := none }
  | '?' :: _ => some (place.complete (fun _ => a.path) cs)
  | '#' :: r => some { a with fragment := some (fragmentText r) }
  | '/' :: '/' :: r => readHost a.scheme r
  | c :: r =>
      if isSlash true c then
        if r.head?.any (isSlash true) then readHost a.scheme (cs.dropWhile (isSlash true))
        else some (place.complete (pathBehind true []) r)
      else some (place.complete (pathBehind true (a.segments.drop 1)) cs)

/-- Reads an address as it is meant where another one of the web was asked. -/
def join (a : Address) (t : String) : Option Address :=
  let cs := relevant t
  match scheme? cs with
  | none => readFrom a cs
  | some (scheme, rest) =>
      if scheme = a.scheme && (rest.takeWhile (isSlash true)).length < 2 then readFrom a rest
      else readScheme scheme rest

/-! ## Writing -/

/-- The host and the number. -/
def server (a : Address) : String :=
  match a.host with
  | some host => host.text ++ (match a.portNumber with | some n => s!":{n.toNat}" | none => "")
  | none => ""

/-- The server with the name and password in front. -/
def authority (a : Address) : String :=
  if a.user = "" then a.server else a.user ++ "@" ++ a.server

/-- The scheme and what stands before the path. -/
def origin (a : Address) : String :=
  match a.host with
  | some _ => s!"{a.scheme}://{a.authority}"
  | none => if "//".toList.isPrefixOf a.path.toList then s!"{a.scheme}:/." else s!"{a.scheme}:"

/-- The path and the query. -/
def target (a : Address) : String :=
  a.path ++ (match a.query with | some q => "?" ++ q | none => "")

/-- The address as text. -/
def text (a : Address) : String :=
  a.origin ++ a.target ++ (match a.fragment with | some f => "#" ++ f | none => "")

/-! ## Requests -/

/-- The address without a name and password that can be told to the server: their
escaped bytes have to be text. -/
def withoutUser (a : Address) : Address :=
  let user := a.user.toList
  let isText := fun (part : List Char) =>
    (String.fromUTF8? ⟨(Percent.decodeBytes part).toArray⟩).isSome
  let name := user.takeWhile (· ≠ ':')
  let password := (user.dropWhile (· ≠ ':')).drop 1
  if isText name && (!name.isEmpty || isText password) then { a with user := "" } else a

def isPlain (c : Char) : Bool :=
  c.isAlphanum || "-._~!$&'()*+,;=".toList.contains c

/-- What was seen of an authority. -/
structure Scan where
  /-- The colons outside of brackets, since the last name or bracket. -/
  colons : Nat := 0
  isOpened : Bool := false
  isClosed : Bool := false
  hasEscape : Bool := false
  last : Option Char := none

/-- Sees one more character; `none` if it cannot stand there. -/
def Scan.add (s : Scan) (c : Char) : Option Scan :=
  let s := { s with last := some c }
  if c = ':' then if s.colons < 8 then some { s with colons := s.colons + 1 } else none
  else if c = '[' then
    if s.hasEscape || s.isOpened then none else some { s with isOpened := true }
  else if c = ']' then
    if s.isOpened && !s.isClosed then
      some { s with isClosed := true, colons := 0, hasEscape := false }
    else none
  else if c = '@' then some { s with colons := 0, hasEscape := false }
  else if c = '%' then some { s with hasEscape := true }
  else if isPlain c then some s
  else none

/-- Whether a text can be the authority of a request. -/
def isAuthority (t : String) : Bool :=
  match t.toList.foldlM Scan.add {} with
  | none => false
  | some s =>
      s.isOpened = s.isClosed && s.colons ≤ 1 && s.last ≠ some '@' && !s.hasEscape

/-- The length of the longest address, in bytes, and of the longest scheme. -/
def maxLength : Nat := 65534

def maxSchemeLength : Nat := 64

/-- Whether a request can be made of the address, as far as its form goes.  One without a
host has to look like a host itself. -/
def isSendable (a : Address) : Bool :=
  a.text.utf8ByteSize ≤ maxLength &&
    (match a.host with
    | some _ =>
        a.scheme.length ≤ maxSchemeLength && a.authority ≠ "" && isAuthority a.authority
    | none => isAuthority a.text)

/-- The line that asks for the address. -/
def requestLine (a : Address) : String :=
  s!"GET {a.target} HTTP/1.1"

end Address

end ThemeEditor.Web
