/-
# ThemeEditor.ActionError -- the failure of one action, as a user sees it

Every failure belongs to one action and ends nothing but that action.  Its
detail is worded where it arises; its area decides how it is presented.
-/
import ThemeEditor.Theme.Error

namespace ThemeEditor

set_option autoImplicit false

/-- The part of the program in which an action failed. -/
inductive Area where
  | theme
  | importing
  | storage
  | validation
  | config
  | state
  deriving DecidableEq, Repr

/-- A failed action. -/
structure ActionError where
  area : Area
  detail : String
  deriving DecidableEq, Repr

namespace Area

/-- The word for an area in a log. -/
def title : Area → String
  | theme => "Theme"
  | importing => "Import"
  | storage => "Storage"
  | validation => "Validation"
  | config => "Configuration"
  | state => "State"

end Area

namespace ActionError

/-- The failure as a log has it. -/
def message (e : ActionError) : String :=
  s!"{e.area.title} Error: {e.detail}"

/-- The failure as it is shown in place of the result of the action. -/
def userMessage (e : ActionError) : String :=
  match e.area with
  | .theme => s!"Could not generate a theme: {e.detail}"
  | .importing => s!"Could not import settings: {e.detail}"
  | .storage => s!"Could not access saved settings: {e.detail}"
  | .validation | .config | .state => e.detail

/-- A failed request for palettes. -/
def ofFetch (e : FetchError) : ActionError :=
  ⟨.theme, e.message⟩

end ActionError

end ThemeEditor
