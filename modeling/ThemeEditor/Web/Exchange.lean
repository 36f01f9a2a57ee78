/-
# ThemeEditor.Web.Exchange -- asking for a page, from place to place

An address is asked; the response may send the request on, a limited number of
times.  What the network does is given as a function, so an exchange is a value:
its result and the places it went through.
-/
import ThemeEditor.Web.Address
import ThemeEditor.Web.Status

namespace ThemeEditor.Web

set_option autoImplicit false

/-- A response. -/
structure Response where
  status : Nat
  location : Option String
  body : ByteArray
  /-- Whether the body breaks off before its announced end. -/
  isCut : Bool

/-- What comes of a connection. -/
inductive Reaction where
  /-- There is none. -/
  | refused
  /-- The request is taken and no response comes before the time is up. -/
  | silent
  | response (r : Response)
  deriving Inhabited

/-- What the n-th connection of an exchange, to a place, comes to. -/
abbrev Network := Nat → Address → Reaction

/-- Why an exchange failed. -/
inductive Failure where
  /-- The text that was to be asked is no address. -/
  | unreadable
  /-- The address is not one of the web. -/
  | unusable (address : String)
  | unanswered (address : String)
  | tooManyRedirects (address : String)
  | cutBody
  deriving DecidableEq, Repr

def Failure.message : Failure → String
  | unreadable => "builder error"
  | unusable address => s!"builder error for url ({address})"
  | unanswered address => s!"error sending request for url ({address})"
  | tooManyRedirects address => s!"error following redirect for url ({address})"
  | cutBody => "error decoding response body"

/-- A place that an exchange went through. -/
structure Hop where
  place : Address
  /-- Whether the request arrived there. -/
  isTaken : Bool
  deriving DecidableEq, Repr

/-- What came of an exchange, and its way. -/
structure Exchange where
  result : Except Failure Response
  hops : List Hop

namespace Exchange

/-- How often a request is sent on. -/
def maxRedirects : Nat := 10

/-- What is asked for of an address. -/
def placeOf (a : Address) : Address :=
  { a with fragment := none }

/-- The place to which a response sends a request, if it does. -/
def next? (place : Address) (r : Response) : Option Address :=
  if Status.isRedirect r.status then
    ((r.location.bind place.join).filter Address.isSendable).map placeOf
  else none

/-- An exchange with one more place at its front. -/
def via (hop : Hop) (e : Exchange) : Exchange :=
  { e with hops := hop :: e.hops }

/-- Asks a place, the n-th of an exchange that began at `start` and may be sent on
`left` times. -/
def visit (net : Network) (start : String) : Nat → Nat → Address → Exchange
  | left, n, place =>
      match net n place with
      | .refused => ⟨.error (.unanswered start), [⟨place, false⟩]⟩
      | .silent => ⟨.error (.unanswered start), [⟨place, true⟩]⟩
      | .response r =>
          match next? place r, left with
          | none, _ => ⟨.ok r, [⟨place, true⟩]⟩
          | some _, 0 => ⟨.error (.tooManyRedirects place.text), [⟨place, true⟩]⟩
          | some there, left + 1 =>
              if there.isHttp then via ⟨place, true⟩ (visit net start left (n + 1) there)
              else ⟨.error (.unusable there.text), [⟨place, true⟩]⟩

/-- Asks an address. -/
def get (net : Network) (address : String) : Exchange :=
  match Address.read address with
  | none => ⟨.error .unreadable, []⟩
  | some a =>
      let a := a.withoutUser
      if a.isHttp && a.isSendable then visit net a.text maxRedirects 0 (placeOf a)
      else ⟨.error (.unusable a.text), []⟩

end Exchange

/-- The body of a response as text. -/
def Response.text (r : Response) : Except Failure String :=
  if Status.isBodiless r.status then .ok ""
  else if r.isCut then .error .cutBody
  else .ok (Text.lossy r.body)

end ThemeEditor.Web
