/-
# ThemeEditor.Theme.Error -- why no batch of palettes arrived
-/
namespace ThemeEditor

set_option autoImplicit false

/-- The failures of a request for a theme file. -/
inductive FetchError where
  /-- The service answered with a status other than success. -/
  | status (url : String) (code : UInt16)
  /-- No answer arrived. -/
  | transport (url : String) (reason : String)
  /-- The answer is not a batch. -/
  | decode (url : String) (reason : String)
  deriving DecidableEq, Repr

namespace FetchError

def message : FetchError → String
  | status url code => s!"Theme request to {url} failed with status {code.toNat}"
  | transport url reason => s!"Theme request to {url} failed: {reason}"
  | decode url reason => s!"Invalid theme response from {url}: {reason}"

/-- The status, if the service answered with one. -/
def status? : FetchError → Option UInt16
  | status _ code => some code
  | _ => none

end FetchError

end ThemeEditor
