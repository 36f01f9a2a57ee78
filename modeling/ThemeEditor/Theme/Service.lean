/-
# ThemeEditor.Theme.Service -- asking the theme service for a file

The service is asked under its address with the path of the file.  Only a
successful response counts as an answer, and its body has to be a batch.
-/
import ThemeEditor.Theme.Fetch
import ThemeEditor.Web.Exchange

namespace ThemeEditor.Service

set_option autoImplicit false

/-- An answer of the service with the places that were asked. -/
structure Asked extends Answer where
  hops : List Web.Hop

/-- The reply that a response is. -/
def replyOf (url : String) (r : Web.Response) : Reply :=
  if Web.Status.isSuccess r.status then
    match r.text with
    | .ok body => Reply.ofBody url body
    | .error f => .error (.transport url f.message)
  else .error (.status url r.status.toUInt16)

/-- The reply that the result of an exchange is. -/
def reply (url : String) : Except Web.Failure Web.Response → Reply
  | .ok r => replyOf url r
  | .error f => .error (.transport url f.message)

/-- What a connection logs. -/
def hopLine (hop : Web.Hop) : Log.Line :=
  ⟨.debug, .connection, s!"starting new connection: {hop.place.origin}/"⟩

/-- What a response that is no success logs. -/
def resultLog (url : String) : Except Web.Failure Web.Response → List Log.Line
  | .ok r =>
      if Web.Status.isSuccess r.status then []
      else [⟨.warn, .service, s!"Theme request to {url} returned {Web.Status.text r.status}"⟩]
  | .error _ => []

/-- Asks the service at `base` for a theme file. -/
def ask (net : Web.Network) (base : String) (mode : Mode) (index : UInt8) : Asked :=
  let url := ThemeFile.url base mode index
  let exchange := Web.Exchange.get net url
  { reply := reply url exchange.result
    log := [⟨.debug, .service, s!"Requesting theme batch from {url}"⟩] ++
      exchange.hops.map hopLine ++ resultLog url exchange.result
    hops := exchange.hops }

/-- The lines of the requests that arrived. -/
def Asked.requestLines (asked : Asked) : List String :=
  (asked.hops.filter Web.Hop.isTaken).map fun hop => hop.place.requestLine

end ThemeEditor.Service
