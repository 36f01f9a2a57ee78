/-
# ThemeEditor.Proofs.Command.Recovery -- stored documents that are no settings

`reset` and `import` replace the settings as a whole and can do without the stored
ones.  Whatever text is stored, saving them puts the settings in order again
(`recovers_reset`, `recovers_import`).  Bytes that are no text at all are another
matter: they cannot be read, which does not count as corruption when a session is
opened, and every command fails and leaves them as they are (`run_of_notText`).

So where they can write the two commands recover exactly from texts (`recovers_iff`).
-/
import ThemeEditor.Proofs.Command.Settling
import ThemeEditor.Proofs.Storage.Content

namespace ThemeEditor

set_option autoImplicit false

open Disk (join)

namespace Session

/-- A session that can be saved is closed with the settings that it edited. -/
theorem close_of_saved {s : Session} {d : Disk}
    (saved : s.storage.save s.world.disk s.settings = (.ok (), d)) :
    (s.close true).result = .ok s.settings ∧ (s.close true).session.world.disk = d := by
  have ends : s.save.result = .ok () ∧ s.save.session.pristine = s.settings ∧
      s.save.session.world.disk = d := by
    unfold save clearError
    dsimp only [settings] at saved ⊢
    rw [saved]
    exact ⟨rfl, rfl, rfl⟩
  obtain ⟨result, pristine, disk⟩ := ends
  refine ⟨?_, disk⟩
  rw [(close_saving s).1, result, pristine]
  rfl

end Session

namespace Command

variable {storage : Storage} {world : World} {bytes : ByteArray} {ask : Mode → UInt8 → Answer}

/-- A command returns settings, and they are loaded after it. -/
structure Recovers (ask : Mode → UInt8 → Answer) (storage : Storage) (world : World)
    (command : Command) (s : Settings) : Prop where
  returns : (command.run ask storage world).result = .ok s
  loaded : storage.load (command.run ask storage world).world.disk = .ok s

/-- On a text, commands that replace the settings open a session. -/
theorem openSession_of_text (held : storage.content world.disk = some bytes)
    (text : bytes.IsValidUTF8) (command : Command) (replaces : command.replacesSettings = true) :
    ∃ s, (command.openSession storage world).1 = .ok (Session.start storage world s) := by
  rcases Storage.load_of_text held text with ⟨s, loaded⟩ | ⟨r, corrupt⟩
  · exact ⟨s, openSession_of_load command loaded⟩
  · refine ⟨.default, ?_⟩
    unfold openSession Session.openDiscarding
    rw [if_pos replaces, corrupt]

/-- On anything but a text, no command opens a session. -/
theorem run_of_notText (ask : Mode → UInt8 → Answer)
    (held : storage.content world.disk = some bytes) (notText : ¬ bytes.IsValidUTF8)
    (command : Command) :
    (command.run ask storage world).result =
        .error (Storage.Error.read (join storage.root Storage.exportName) .notText).toActionError ∧
      (command.run ask storage world).world = world := by
  have unreadable := Storage.load_of_notText held notText
  refine run_of_refused ask ?_
  unfold openSession Session.openDiscarding Session.openOn
  rw [unreadable]
  split <;> rfl

theorem recovers_reset (held : storage.content world.disk = some bytes) (ready : world.disk.Ready)
    (text : bytes.IsValidUTF8) : Recovers ask storage world (.reset true) .default := by
  obtain ⟨s, opened⟩ := openSession_of_text held text (.reset true) rfl
  obtain ⟨d, saved, loaded⟩ := Storage.overwritten held ready .default
  let edited := (Session.start storage world s).reset.session
  obtain ⟨result, left⟩ := run_of_opened ask opened
  obtain ⟨closed, disk⟩ := Session.close_of_saved (s := edited) saved
  have now : ((reset true).run ask storage world).world.disk = d :=
    (congrArg World.disk left).trans disk
  exact ⟨result.trans closed, now ▸ loaded⟩

theorem recovers_import (held : storage.content world.disk = some bytes) (ready : world.disk.Ready)
    (text : bytes.IsValidUTF8) {path : String} {s : Settings}
    (imported : Storage.importFrom world.disk path = .ok s) :
    Recovers ask storage world (.importFile path true) s := by
  obtain ⟨before, opened⟩ := openSession_of_text held text (.importFile path true) rfl
  obtain ⟨d, saved, loaded⟩ := Storage.overwritten held ready s
  -- importing leaves the disk alone, so what can be saved before can be saved after it
  let opening := Session.start storage world before
  obtain ⟨accepted, settings⟩ := Session.importFrom_of_ok (s := opening) imported
  obtain ⟨sameStorage, sameDisk, -⟩ := Session.sameBase_importFrom (s := opening) path
  obtain ⟨result, left⟩ := run_of_opened ask opened
  obtain ⟨ends, ended⟩ := after_of_ok accepted true fun _ s => shown s
  let edited := (opening.importFrom path).session
  have saved' : edited.storage.save edited.world.disk edited.settings = (.ok (), d) := by
    rw [settings, sameStorage, sameDisk]
    exact saved
  obtain ⟨closed, disk⟩ := Session.close_of_saved saved'
  have now : ((importFile path true).run ask storage world).world.disk = d :=
    (congrArg World.disk (left.trans ended)).trans disk
  refine ⟨?_, now ▸ loaded⟩
  rw [← settings]
  exact result.trans (ends.trans closed)

/-- **Commands that replace the settings recover from every text, and from nothing else.**
Whatever bytes are stored, and if nothing stops what is written, `reset` and `import` with a save
return the new settings and leave them to be loaded exactly when the bytes are a text.  Otherwise
no command gets anywhere, and the bytes stay. -/
theorem recovers_iff (held : storage.content world.disk = some bytes) :
    (world.disk.Ready →
        (Recovers ask storage world (.reset true) .default ↔ bytes.IsValidUTF8)) ∧
      (∀ path s, Storage.importFrom world.disk path = .ok s → world.disk.Ready →
        (Recovers ask storage world (.importFile path true) s ↔ bytes.IsValidUTF8)) ∧
      (¬ bytes.IsValidUTF8 → ∀ command : Command,
        (∃ e, (command.run ask storage world).result = .error e) ∧
          (command.run ask storage world).world = world) := by
  have locked : ∀ {command : Command} {s : Settings},
      Recovers ask storage world command s → bytes.IsValidUTF8 := by
    intro command s recovers
    by_contra notText
    have failed := (run_of_notText ask held notText command).1
    rw [recovers.returns] at failed
    cases failed
  refine ⟨fun ready => ⟨locked, recovers_reset held ready⟩, fun path s imported ready => ?_,
    fun notText command => ?_⟩
  · exact ⟨locked, fun text => recovers_import held ready text imported⟩
  · obtain ⟨failed, same⟩ := run_of_notText ask held notText command
    exact ⟨⟨_, failed⟩, same⟩

/-- A disk with a document of any bytes in a storage, and settings beside it. -/
def damaged (bytes : ByteArray) : Disk :=
  (Session.holding bytes).put ["home", "new.json"] (.file "[]".toUTF8)

theorem content_damaged (bytes : ByteArray) :
    (Storage.mk "theme").content (damaged bytes) = some bytes := rfl

theorem importFrom_damaged (bytes : ByteArray) :
    Storage.importFrom (damaged bytes) "new.json" = .ok .default := rfl

/-- A document that is cut short is replaced. -/
theorem recovers_damaged :
    let world : World := ⟨damaged "[".toUTF8, Session.unused⟩
    (Storage.mk "theme").content world.disk = some "[".toUTF8 ∧
      Storage.importFrom world.disk "new.json" = .ok .default ∧
      Recovers Session.noPalettes ⟨"theme"⟩ world (.reset true) .default ∧
      Recovers Session.noPalettes ⟨"theme"⟩ world (.importFile "new.json" true) .default := by
  intro world
  have held : (Storage.mk "theme").content world.disk = some "[".toUTF8 := content_damaged _
  have imported := importFrom_damaged "[".toUTF8
  have text : "[".toUTF8.IsValidUTF8 := "[".isValidUTF8
  have ready : world.disk.Ready := rfl
  obtain ⟨byReset, byImport, -⟩ := recovers_iff held
  exact ⟨held, imported, (byReset ready).2 text, (byImport _ _ imported ready).2 text⟩

/-- **Bytes that are no text lock the settings up.** -/
theorem not_recovers_of_notText :
    let world : World := ⟨damaged ⟨#[0xFF]⟩, Session.unused⟩
    (Storage.mk "theme").content world.disk = some ⟨#[0xFF]⟩ ∧
      ¬ Recovers Session.noPalettes ⟨"theme"⟩ world (.reset true) .default := by
  intro world
  have held : (Storage.mk "theme").content world.disk = some ⟨#[0xFF]⟩ := content_damaged _
  have notText : ¬ (ByteArray.mk #[0xFF]).IsValidUTF8 := by
    rw [← ByteArray.validateUTF8_eq_true_iff]
    decide
  refine ⟨held, fun recovers => ?_⟩
  have failed := (run_of_notText Session.noPalettes held notText (.reset true)).1
  rw [recovers.returns] at failed
  cases failed

end Command

end ThemeEditor
