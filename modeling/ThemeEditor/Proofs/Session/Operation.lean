/-
# ThemeEditor.Proofs.Session.Operation -- whatever can happen to an open session

`Operation` is everything that can be asked of a session short of closing it, and
`perform` is the step it takes.  The other users of the palettes are one more
operation: between two steps they may leave any supply behind.

A form binding either is refused or changes the settings (`Bound`).  Only an
export and a save write to the disk; every other operation leaves the disk and
the pristine settings alone (`sameBase_perform`).
-/
import ThemeEditor.Session.Basic

namespace ThemeEditor

set_option autoImplicit false

open Session (Edited)

/-- What can happen to a session before it is closed. -/
inductive Operation where
  | setColor (role : ColorRole) (value : String)
  | setAccent (index : Nat) (value : String)
  | pushAccent (value : String)
  | removeAccent (index : Nat)
  | setFlag (name : String) (on : Bool)
  | setBackendUrl (url : String)
  | generate (ask : Mode → UInt8 → Answer) (mode : Mode)
  | importFrom (path : String)
  | exportTo (directory : String)
  | reset
  | save
  | subscribe
  | unsubscribe (id : SubscriptionId)
  | clearError
  /-- Others have used the supply. -/
  | share (supply : Supply)

/-- The step with success or failure for its result. -/
def Step.outcome {α : Type} (step : Edited α) : Edited Unit :=
  { step with result := step.result.map fun _ => () }

namespace Operation

/-- A step that cannot fail. -/
def quiet (s : Session) : Edited Unit :=
  { result := .ok (), session := s }

/-- Whether generating from a supply fails. -/
def generated (ask : Mode → UInt8 → Answer) (mode : Mode) (s : Session) : Except ActionError Unit :=
  match (s.world.supply.fetch ask mode).outcome with
  | .error e => .error (ActionError.ofFetch e)
  | .ok _ => .ok ()

/-- The step of an operation. -/
def perform (s : Session) : Operation → Edited Unit
  | setColor role value => s.setColor role value
  | setAccent index value => s.setAccent index value
  | pushAccent value => s.pushAccent value
  | removeAccent index => (s.removeAccent index).outcome
  | setFlag name on => s.setFlag name on
  | setBackendUrl url => s.setBackendUrl url
  | generate ask mode => { s.generate ask mode with result := generated ask mode s }
  | importFrom path => s.importFrom path
  | exportTo directory => (s.exportTo directory).outcome
  | reset => { s.reset with result := .ok () }
  | save => s.save
  | subscribe => quiet s.subscribe.2
  | unsubscribe id => quiet (s.unsubscribe id).2
  | clearError => quiet s.clearError
  | share supply => quiet { s with world := { s.world with supply } }

/-- The session after some operations. -/
def run (s : Session) (ops : List Operation) : Session :=
  ops.foldl (fun s op => (op.perform s).session) s

/-- Whether an operation writes to the disk. -/
def writes : Operation → Bool
  | exportTo _ => true
  | save => true
  | _ => false

end Operation

namespace Session

/-! ## Form bindings -/

/-- The two steps that a form binding can take. -/
inductive Bound {α : Type} (s : Session) : Edited α → Prop where
  | refused (e : ActionError) : Bound s (s.refuse e)
  | changed (f : Settings → Settings × α) : Bound s (s.change f)

variable (s : Session)

theorem bound_setColor (role : ColorRole) (value : String) : Bound s (s.setColor role value) := by
  unfold setColor
  split
  · exact .refused _
  · exact .changed _

theorem bound_setAccent (index : Nat) (value : String) : Bound s (s.setAccent index value) := by
  unfold setAccent
  split
  · exact .refused _
  · dsimp only
    split
    · exact .refused _
    · exact .changed _

theorem bound_pushAccent (value : String) : Bound s (s.pushAccent value) := by
  unfold pushAccent
  split
  · exact .refused _
  · exact .changed _

theorem bound_removeAccent (index : Nat) : Bound s (s.removeAccent index) := by
  unfold removeAccent
  split
  · exact .refused _
  · exact .changed _

theorem bound_setFlag (name : String) (on : Bool) : Bound s (s.setFlag name on) := by
  unfold setFlag
  split
  · exact .refused _
  · exact .changed _

theorem bound_setBackendUrl (url : String) : Bound s (s.setBackendUrl url) := by
  unfold setBackendUrl
  dsimp only
  split
  · exact .refused _
  · exact .changed _

/-! ## What is left alone -/

/-- Two sessions on one disk that were opened on, or last saved, the same settings. -/
structure SameBase (s s' : Session) : Prop where
  storage : s'.storage = s.storage
  disk : s'.world.disk = s.world.disk
  pristine : s'.pristine = s.pristine

theorem SameBase.refl (s : Session) : SameBase s s :=
  ⟨rfl, rfl, rfl⟩

variable {s}

theorem Bound.sameBase {α : Type} {step : Edited α} (bound : Bound s step) :
    SameBase s step.session := by
  cases bound with
  | refused e => exact ⟨rfl, rfl, rfl⟩
  | changed f => exact ⟨rfl, rfl, rfl⟩

theorem sameBase_generate (ask : Mode → UInt8 → Answer) (mode : Mode) :
    SameBase s (s.generate ask mode).session := by
  unfold generate
  dsimp only
  split
  · exact ⟨rfl, rfl, rfl⟩
  · exact ⟨rfl, rfl, rfl⟩

theorem sameBase_importFrom (path : String) : SameBase s (s.importFrom path).session := by
  unfold importFrom
  dsimp only
  split
  · exact ⟨rfl, rfl, rfl⟩
  · exact ⟨rfl, rfl, rfl⟩

/-- What can be imported is edited then. -/
theorem importFrom_of_ok {path : String} {imported : Settings}
    (found : Storage.importFrom s.world.disk path = .ok imported) :
    (s.importFrom path).result = .ok () ∧ (s.importFrom path).session.settings = imported := by
  have found' : Storage.importFrom s.clearError.world.disk path = .ok imported := found
  simp only [importFrom, found']
  exact ⟨trivial, rfl⟩

/-- An operation that does not write leaves the disk and the pristine settings alone. -/
theorem sameBase_perform {op : Operation} (quiet : op.writes = false) :
    SameBase s (op.perform s).session := by
  cases op with
  | setColor role value => exact (bound_setColor s role value).sameBase
  | setAccent index value => exact (bound_setAccent s index value).sameBase
  | pushAccent value => exact (bound_pushAccent s value).sameBase
  | removeAccent index => exact (bound_removeAccent s index).sameBase
  | setFlag name on => exact (bound_setFlag s name on).sameBase
  | setBackendUrl url => exact (bound_setBackendUrl s url).sameBase
  | generate ask mode => exact sameBase_generate ask mode
  | importFrom path => exact sameBase_importFrom path
  | exportTo directory => cases quiet
  | reset => exact ⟨rfl, rfl, rfl⟩
  | save => cases quiet
  | subscribe => exact ⟨rfl, rfl, rfl⟩
  | unsubscribe id => exact ⟨rfl, rfl, rfl⟩
  | clearError => exact ⟨rfl, rfl, rfl⟩
  | share supply => exact ⟨rfl, rfl, rfl⟩

end Session

end ThemeEditor
