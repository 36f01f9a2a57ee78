/-
# ThemeEditor.Proofs.Session.Banner -- the failure that is shown

The failure of an action is kept for display until it is out of date.  What is
shown after a run is the failure of the latest turn among those that take the old
one down when they start: generating, importing, exporting, saving, and clearing
(`Turn.lastError_run`).  Form bindings never change it (`Bound.lastError`).

Resetting is an action too, but it leaves what is shown where it is.  So what is
shown belongs to the latest action unless that is a reset which found a failure
(`Turn.shown_since_latest`); an import that failed is still shown after the
settings were reset (`Turn.shown_after_reset`).
-/
import ThemeEditor.Proofs.Session.Atomic
import ThemeEditor.Proofs.Session.Turn

namespace ThemeEditor

set_option autoImplicit false

open Session (Bound Edited blankSession openDiscarding openOn start_of_opened)

/-- The failure in which a step ended, if it did. -/
def Step.failure? (step : Edited Unit) : Option ActionError :=
  match step.result with
  | .error e => some e
  | .ok () => none

namespace Operation

/-- The actions: what is asked of a session beyond its form. -/
def isAction : Operation → Bool
  | generate _ _ | importFrom _ | exportTo _ | reset | save => true
  | _ => false

/-- The operations that take down what is shown when they start. -/
def clears : Operation → Bool
  | generate _ _ | importFrom _ | exportTo _ | save | clearError => true
  | _ => false

end Operation

namespace Session

variable {s : Session}

/-! ## One step -/

/-- A form binding does not change what is shown. -/
theorem Bound.lastError {α : Type} {step : Edited α} (bound : Bound s step) :
    step.session.lastError = s.lastError := by
  cases bound with
  | refused e => rfl
  | changed f => rfl

theorem lastError_form {op : Operation} (form : op.isForm = true) :
    (op.perform s).session.lastError = s.lastError := by
  cases op with
  | setColor role value => exact (bound_setColor s role value).lastError
  | setAccent index value => exact (bound_setAccent s index value).lastError
  | pushAccent value => exact (bound_pushAccent s value).lastError
  | removeAccent index => exact (bound_removeAccent s index).lastError
  | setFlag name on => exact (bound_setFlag s name on).lastError
  | setBackendUrl url => exact (bound_setBackendUrl s url).lastError
  | _ => cases form

theorem lastError_generate (ask : Mode → UInt8 → Answer) (mode : Mode) :
    (s.generate ask mode).session.lastError =
      ((Operation.generate ask mode).perform s).failure? := by
  simp only [Operation.perform, Operation.generated, Step.failure?, generate, clearError]
  cases (s.world.supply.fetch ask mode).outcome <;> rfl

theorem lastError_importFrom (path : String) :
    (s.importFrom path).session.lastError = (s.importFrom path).failure? := by
  unfold importFrom
  dsimp only
  split <;> rfl

theorem lastError_exportTo (directory : String) :
    (s.exportTo directory).session.lastError = (s.exportTo directory).outcome.failure? := by
  unfold exportTo
  dsimp only
  split <;> rfl

theorem lastError_save : s.save.session.lastError = s.save.failure? := by
  unfold save
  dsimp only
  split <;> rfl

/-- An operation that takes down what is shown leaves its own failure there, and any other
leaves what is there. -/
theorem lastError_perform (op : Operation) :
    (op.perform s).session.lastError =
      if op.clears then (op.perform s).failure? else s.lastError := by
  cases form : op.isForm with
  | true =>
      have quiet : op.clears = false := by cases op <;> first | rfl | cases form
      rw [quiet, lastError_form form]
      rfl
  | false =>
      cases op with
      | generate ask mode => exact lastError_generate ask mode
      | importFrom path => exact lastError_importFrom path
      | exportTo directory => exact lastError_exportTo directory
      | save => exact lastError_save
      | reset | subscribe | unsubscribe id | clearError | share supply => rfl
      | _ => cases form

end Session

namespace Turn

/-- The turns after which what was shown before is out of date: the actions, and clearing. -/
def concerns : Turn → Bool
  | operation .clearError => true
  | operation op => op.isAction
  | written _ => false

/-- The turns that take down what is shown. -/
def clears : Turn → Bool
  | operation op => op.clears
  | written _ => false

variable {s : Session}

theorem lastError_take (turn : Turn) :
    (turn.take s).session.lastError =
      if turn.clears then (turn.take s).failure? else s.lastError := by
  cases turn with
  | operation op => exact Session.lastError_perform op
  | written disk => rfl

/-- The turns that take down what is shown are those that should, but for the reset. -/
theorem concerns_cases (turn : Turn) :
    turn = operation .reset ∨ turn ≠ operation .reset ∧ turn.concerns = turn.clears := by
  cases turn with
  | operation op =>
      cases op with
      | reset => exact .inl rfl
      | _ => exact .inr ⟨nofun, rfl⟩
  | written disk => exact .inr ⟨nofun, rfl⟩

/-! ## A whole run -/

/-- The failure of the latest turn that counts. -/
def failure (s : Session) (turns : List Turn) (counts : Turn → Bool) : Option ActionError :=
  (latest s turns counts).bind fun taken => taken.2.failure?

theorem failure_snoc (turns : List Turn) (turn : Turn) (counts : Turn → Bool) :
    failure s (turns ++ [turn]) counts =
      if counts turn then (turn.take (run s turns)).failure? else failure s turns counts := by
  rw [failure, latest_snoc]
  split
  · rfl
  · rfl

/-- What is shown is the failure of the latest turn that took down what was shown. -/
theorem lastError_run (unshown : s.lastError = none) (turns : List Turn) :
    (run s turns).lastError = failure s turns clears := by
  induction turns using List.reverseRecOn with
  | nil => exact unshown
  | append_singleton turns turn ih => rw [run_snoc, lastError_take, failure_snoc, ih]

/-- The latest action was a reset, and nothing was cleared since. -/
def ResetLast (s : Session) (turns : List Turn) : Prop :=
  ∃ step, latest s turns concerns = some (operation .reset, step)

/-- What should be shown is what is shown, unless the latest action was a reset: then it is
nothing. -/
theorem failure_concerns (turns : List Turn) :
    ResetLast s turns ∧ failure s turns concerns = none ∨
      ¬ ResetLast s turns ∧ failure s turns concerns = failure s turns clears := by
  induction turns using List.reverseRecOn with
  | nil =>
      refine .inr ⟨fun ⟨_, found⟩ => ?_, rfl⟩
      cases found
  | append_singleton turns turn ih =>
      have last : ResetLast s (turns ++ [turn]) ↔
          if turn.concerns then turn = operation .reset else ResetLast s turns := by
        rw [ResetLast, latest_snoc]
        split
        · exact ⟨fun ⟨_, same⟩ => congrArg Prod.fst (Option.some.inj same), fun same =>
            ⟨_, congrArg (fun turn => some (turn, _)) same⟩⟩
        · exact Iff.rfl
      rw [failure_snoc, failure_snoc, last]
      rcases concerns_cases turn with rfl | ⟨other, same⟩
      · exact .inl ⟨rfl, rfl⟩
      · rw [same]
        cases turn.clears with
        | true => exact .inr ⟨other, rfl⟩
        | false => exact ih

/-- **What is shown is the failure of the latest turn that took down what was shown, and it
is that of the latest action unless this is a reset which found a failure.**  Form bindings do
not change it. -/
theorem shown_since_latest {storage : Storage} {world : World}
    (opened : (openOn storage world).1 = .ok s ∨ (openDiscarding storage world).1 = .ok s)
    (turns : List Turn) :
    let now := run s turns
    now.errorMessage = (failure s turns clears).map ActionError.userMessage ∧
      (now.errorMessage = (failure s turns concerns).map ActionError.userMessage ↔
        ¬ (ResetLast s turns ∧ now.errorMessage ≠ none)) ∧
      ∀ op : Operation, op.isForm = true →
        (op.perform now).session.errorMessage = now.errorMessage := by
  intro now
  have unshown : s.lastError = none := by
    obtain ⟨settings, rfl⟩ := start_of_opened opened
    rfl
  have shown : now.errorMessage = (failure s turns clears).map ActionError.userMessage :=
    congrArg (Option.map ActionError.userMessage) (lastError_run unshown turns)
  refine ⟨shown, ?_, fun op form =>
    congrArg (Option.map ActionError.userMessage) (Session.lastError_form form)⟩
  rcases failure_concerns (s := s) turns with ⟨reset, due⟩ | ⟨other, due⟩
  · rw [due, Option.map_none]
    exact ⟨fun nothing ⟨_, something⟩ => something nothing, fun kept =>
      Classical.byContradiction fun something => kept ⟨reset, something⟩⟩
  · rw [due]
    exact ⟨fun _ ⟨reset, _⟩ => other reset, fun _ => shown⟩

/-- A file that is not there is imported, an accent is added and another one is refused. -/
def failedImport : List Turn :=
  [.operation (.importFrom "none.json"), .operation (.pushAccent "#fff"),
    .operation (.pushAccent "grey-ish")]

/-- What is shown then. -/
def importMessage : String :=
  "Could not import settings: Failed to read import file none.json: " ++
    "No such file or directory (os error 2)"

theorem failure_failedImport :
    (failure blankSession failedImport clears).map ActionError.userMessage = some importMessage :=
  rfl

theorem not_resetLast_failedImport : ¬ ResetLast blankSession failedImport := by
  rintro ⟨step, found⟩
  cases found

/-- The failed import is shown, whatever the form does after it. -/
theorem shown_failedImport :
    let now := run blankSession failedImport
    (openOn ⟨"notes/theme"⟩ ⟨Disk.blank ["home"], Session.unused⟩).1 = .ok blankSession ∧
      now.errorMessage = some importMessage ∧
      now.errorMessage =
        (failure blankSession failedImport concerns).map ActionError.userMessage ∧
      ((Operation.pushAccent "red").perform now).session.errorMessage = some importMessage := by
  intro now
  have opened : (openOn ⟨"notes/theme"⟩ ⟨Disk.blank ["home"], Session.unused⟩).1 =
      .ok blankSession := rfl
  obtain ⟨shown, due, form⟩ := shown_since_latest (.inl opened) failedImport
  rw [failure_failedImport] at shown
  exact ⟨opened, shown, due.2 fun kept => not_resetLast_failedImport kept.1,
    (form (.pushAccent "red") rfl).trans shown⟩

/-- **A failure is still shown after the settings were reset.** -/
theorem shown_after_reset :
    let turns := failedImport ++ [.operation .reset]
    (run blankSession turns).errorMessage = some importMessage ∧
      failure blankSession turns concerns = none ∧
      (run blankSession turns).errorMessage ≠
        (failure blankSession turns concerns).map ActionError.userMessage := by
  intro turns
  have shown : (run blankSession turns).errorMessage = some importMessage := rfl
  have due : failure blankSession turns concerns = none := rfl
  refine ⟨shown, due, ?_⟩
  rw [shown, due]
  exact nofun

end Turn

end ThemeEditor
