/-
# ThemeEditor.Proofs.Command.Settling -- what a command leaves on the disk

A command runs in a session of its own and ends with it in one of three ways: it
fails before it writes anything, it closes the session with the settings that it
edited, or it exports what is stored (`Ends`, `ends_runIn`).

So what it leaves on the disk is the document that was there, or the settings that it
returned if it succeeded and was asked to save, or a beginning of a document if its
write was cut off.  A command that succeeds without saving returns what can be loaded
(`Settles`, `settles_run`).
-/
import ThemeEditor.Command.Run
import ThemeEditor.Proofs.Session.Baseline

namespace ThemeEditor

set_option autoImplicit false

open Disk (CutOff)
open Session (Edited SameBase)
open Storage (Placed Stores)

namespace Command

variable {storage : Storage} {s : Session} {d : Disk}

/-! ## How a command ends -/

/-- How a command ends that runs in a session: what it returns, and the disk that it leaves. -/
inductive Ends (s : Session) (command : Command) : Except ActionError Settings → Disk → Prop where
  | failed (e : ActionError) : Ends s command (.error e) s.world.disk
  | closed {s' : Session} (same : SameBase s s') :
      Ends s command (s'.close command.saves).result (s'.close command.saves).session.world.disk
  /-- An export returns the pristine settings, if it succeeds. -/
  | exported {directory : String} {result : Except ActionError Settings}
      (edits : command.replacesSettings = false) (quiet : command.saves = false)
      (returns : ∀ t, result = .ok t → t = s.pristine ∧
        ∃ path, (s.storage.exportTo s.world.disk directory).1 = .ok path) :
      Ends s command result (s.storage.exportTo s.world.disk directory).2

/-- After a step that failed a command ends with its error. -/
theorem after_of_error {α : Type} {step : Edited α} {e : ActionError}
    (failed : step.result = .error e) (save : Bool) (output : α → Session → String) :
    (after .elsewhere save step output).result = .error e ∧
      (after .elsewhere save step output).world = step.session.world := by
  have same : step.recorded .elsewhere = step := rfl
  simp only [after, same, failed]
  exact ⟨trivial, trivial⟩

/-- After a step that succeeded a command ends with the closing of its session. -/
theorem after_of_ok {α : Type} {step : Edited α} {a : α} (succeeded : step.result = .ok a)
    (save : Bool) (output : α → Session → String) :
    (after .elsewhere save step output).result = (step.session.close save).result ∧
      (after .elsewhere save step output).world = (step.session.close save).session.world := by
  have same : step.recorded .elsewhere = step := rfl
  simp only [after, same, succeeded]
  exact ⟨rfl, rfl⟩

/-- So it ends if the step has left the disk alone. -/
theorem ends_after {α : Type} {command : Command} {step : Edited α} (same : SameBase s step.session)
    (output : α → Session → String) :
    let ran := after .elsewhere command.saves step output
    Ends s command ran.result ran.world.disk := by
  intro ran
  cases ended : step.result with
  | error e =>
      obtain ⟨result, left⟩ := after_of_error ended command.saves output
      have disk : ran.world.disk = s.world.disk := (congrArg World.disk left).trans same.disk
      rw [result, disk]
      exact .failed e
  | ok a =>
      obtain ⟨result, left⟩ := after_of_ok ended command.saves output
      rw [result, left]
      exact .closed same

theorem ends_generate {command : Command} (s : Session) (ask : Mode → UInt8 → Answer)
    (mode : Mode) :
    let ran := runGenerate .elsewhere ask mode command.saves s
    Ends s command ran.result ran.world.disk := by
  intro ran
  have same := Session.sameBase_generate (s := s) ask mode
  have recorded : (s.generate ask mode).recorded .elsewhere = s.generate ask mode := rfl
  simp only [ran, runGenerate, recorded]
  split
  · next e _ _ =>
    rw [same.disk]
    exact .failed e
  · exact .closed same

theorem ends_exportTo {command : Command} (edits : command.replacesSettings = false)
    (quiet : command.saves = false) (s : Session) (directory : String)
    (output : String → Session → String) :
    let ran := after .elsewhere false (s.exportTo directory) output
    Ends s command ran.result ran.world.disk := by
  intro ran
  obtain ⟨-, disk, pristine⟩ := Session.exportTo_base s directory
  cases ended : (s.exportTo directory).result with
  | error e =>
      obtain ⟨result, left⟩ := after_of_error ended false output
      rw [result, congrArg World.disk left, disk]
      exact .exported edits quiet nofun
  | ok path =>
      obtain ⟨result, left⟩ := after_of_ok ended false output
      obtain ⟨closed, kept⟩ := Session.close_discarding (s.exportTo directory).session
      rw [result, congrArg World.disk left, kept, disk]
      refine .exported edits quiet fun t returned => ?_
      rw [closed] at returned
      exact ⟨(Except.ok.inj returned).symm.trans pristine, path, Session.exportTo_eq_ok.1 ended⟩

theorem ends_runIn (ask : Mode → UInt8 → Answer) (s : Session) (command : Command) :
    let ran := runIn .elsewhere ask s command
    Ends s command ran.result ran.world.disk := by
  cases command with
  | «show» => exact .closed (.refl s)
  | generate mode save => exact ends_generate s ask mode
  | set role value save => exact ends_after (Session.bound_setColor s role value).sameBase _
  | addAccent value save => exact ends_after (Session.bound_pushAccent s value).sameBase _
  | removeAccent index save => exact ends_after (Session.bound_removeAccent s index).sameBase _
  | flag name on save => exact ends_after (Session.bound_setFlag s name on).sameBase _
  | backendUrl url save =>
      rw [runIn]
      exact ends_after (Session.bound_setBackendUrl s url).sameBase _
  | importFile path save => exact ends_after (Session.sameBase_importFrom path) _
  | exportTo directory => exact ends_exportTo rfl rfl s directory _
  | reset save =>
      have same : SameBase s s.reset.session := ⟨rfl, rfl, rfl⟩
      exact .closed same
  | initConfig => exact .closed (.refl s)

/-! ## The session of a command -/

/-- Where settings can be loaded, every command opens a session on them. -/
theorem openSession_of_load (command : Command) {world : World} {persisted : Settings}
    (loaded : storage.load world.disk = .ok persisted) :
    (command.openSession storage world).1 = .ok (Session.start storage world persisted) := by
  have opened := Session.openOn_of_load loaded
  unfold openSession
  split
  · unfold Session.openDiscarding
    rw [loaded]
    exact opened
  · exact opened

/-- Where a session is opened it starts with what can be loaded. -/
theorem openSession_eq_ok {command : Command} {world : World}
    (opened : (command.openSession storage world).1 = .ok s) :
    ∃ settings, s = Session.start storage world settings ∧
      ∀ persisted, storage.load world.disk = .ok persisted → persisted = settings := by
  cases loads : storage.load world.disk with
  | ok persisted =>
      rw [openSession_of_load command loads] at opened
      exact ⟨persisted, (Except.ok.inj opened).symm, fun _ same => (Except.ok.inj same).symm⟩
  | error e =>
      unfold openSession Session.openDiscarding at opened
      rw [loads] at opened
      have unopened : (Session.openOn storage world).1 ≠ .ok s := by
        intro isOpen
        exact nomatch loads.symm.trans (Session.openOn_eq_ok isOpen).1
      split at opened
      · split at opened
        · cases opened
          exact ⟨.default, rfl, nofun⟩
        · exact absurd opened unopened
      · exact absurd opened unopened

/-- A command does what it does in the session that it opens. -/
theorem run_of_opened (ask : Mode → UInt8 → Answer) {command : Command} {world : World}
    (opened : (command.openSession storage world).1 = .ok s) :
    (command.run ask storage world).result = (runIn .elsewhere ask s command).result ∧
      (command.run ask storage world).world = (runIn .elsewhere ask s command).world := by
  unfold run
  split
  · next failed =>
    rw [failed] at opened
    cases opened
  · next isOpen =>
    rw [isOpen] at opened
    cases opened
    exact ⟨rfl, rfl⟩

/-- A command that opens no session does nothing. -/
theorem run_of_refused (ask : Mode → UInt8 → Answer) {command : Command} {world : World}
    {e : ActionError} (refused : (command.openSession storage world).1 = .error e) :
    (command.run ask storage world).result = .error e ∧
      (command.run ask storage world).world = world := by
  unfold run
  split
  · next failed =>
    rw [failed] at refused
    cases refused
    exact ⟨rfl, rfl⟩
  · next isOpen =>
    rw [isOpen] at refused
    cases refused

/-! ## What is left -/

/-- What a command comes to on a disk, of which it is known whether it was asked to save. -/
structure Settles (storage : Storage) (d : Disk) (save : Bool)
    (result : Except ActionError Settings) (d' : Disk) : Prop where
  stores : Stores storage d (if save then result.toOption else none) d'
  /-- Nothing was cut off if it succeeds. -/
  uncut : ∀ s, result = .ok s → ¬ CutOff d d'
  /-- Without a save it returns what can be loaded. -/
  effective : save = false → ∀ s, result = .ok s → ∀ t, storage.load d = .ok t → t = s

/-- A failure leaves what was there. -/
theorem settles_error (placed : Placed storage d) (save : Bool) (e : ActionError) :
    Settles storage d save (.error e) d where
  stores := by
    have none_saved : (if save then (Except.error e : Except ActionError Settings).toOption
        else none) = none := by cases save <;> rfl
    rw [none_saved]
    exact .kept placed rfl
  uncut := nofun
  effective := nofun

/-- Closing a session settles it, whether it is saved or not. -/
theorem settles_close (on : s.storage = storage) (placed : Placed storage s.world.disk)
    (pristine : ∀ t, storage.load s.world.disk = .ok t → t = s.pristine) (save : Bool) :
    Settles storage s.world.disk save (s.close save).result (s.close save).session.world.disk := by
  cases save with
  | false =>
      obtain ⟨result, disk⟩ := Session.close_discarding s
      rw [result, disk]
      refine ⟨.kept placed rfl, fun _ _ => Disk.not_cutOff_self _, fun _ t same u loaded => ?_⟩
      exact (pristine u loaded).trans (Except.ok.inj same)
  | true =>
      obtain ⟨-, disk, saved, succeeds⟩ := Session.save_base s
      obtain ⟨closed, left⟩ := Session.close_saving s
      have stores := placed.save s.settings
      rw [on] at disk saved succeeds
      rw [closed, left, disk]
      cases ended : (storage.save s.world.disk s.settings).1 with
      | ok done =>
          have uncut := Storage.uncut_of_save placed.sound placed.plain.down ended
          rw [ended] at saved stores
          rw [succeeds.2 ended, saved]
          exact ⟨stores, fun _ _ => uncut, nofun⟩
      | error e =>
          have failed := Session.save_of_error (on ▸ ended)
          rw [ended] at stores
          rw [failed]
          exact ⟨stores, nofun, nofun⟩

/-- Whatever a command does in a session, in the end it is settled. -/
theorem settles_of_ends (on : s.storage = storage) (placed : Placed storage s.world.disk)
    (pristine : ∀ t, storage.load s.world.disk = .ok t → t = s.pristine) {command : Command}
    {result : Except ActionError Settings} {d' : Disk} (ends : Ends s command result d') :
    Settles storage s.world.disk command.saves result d' := by
  cases ends with
  | failed e => exact settles_error placed _ e
  | @closed s' same =>
      rw [← same.disk] at placed pristine ⊢
      exact settles_close (same.storage.trans on) placed (same.pristine ▸ pristine) _
  | exported edits quiet returns =>
      rw [quiet, on] at *
      refine ⟨placed.exportTo _, fun t returned => ?_, fun _ t returned u loaded => ?_⟩
      · obtain ⟨-, path, succeeded⟩ := returns t returned
        exact Storage.uncut_of_exportTo succeeded
      · exact (pristine u loaded).trans (returns t returned).1.symm

/-- A command settles what it finds on the disk. -/
theorem settles_run {world : World} (placed : Placed storage world.disk)
    (ask : Mode → UInt8 → Answer) (command : Command) :
    let ran := command.run ask storage world
    Settles storage world.disk command.saves ran.result ran.world.disk := by
  intro ran
  cases opening : (command.openSession storage world).1 with
  | error e =>
      obtain ⟨result, left⟩ := run_of_refused ask opening
      rw [result, left]
      exact settles_error placed _ e
  | ok s =>
      obtain ⟨settings, rfl, pristine⟩ := openSession_eq_ok opening
      obtain ⟨result, left⟩ := run_of_opened ask opening
      rw [result, left]
      exact settles_of_ends (s := Session.start storage world settings) rfl placed pristine
        (ends_runIn ask _ command)

end Command

end ThemeEditor
