/-
# ThemeEditor.Proofs.Session.Export -- exports of a session

A session exports what is persisted, whatever it is editing.  The copy can be
imported by any session, and neither the copy nor the original says anything else
than before (`exports_what_is_persisted`).
-/
import ThemeEditor.Proofs.Session.Baseline
import ThemeEditor.Proofs.Storage.Export

namespace ThemeEditor

set_option autoImplicit false

namespace Session

variable {s : Session} {persisted : Settings} {directory path : String}

/-- **An export is imported as what is persisted.**  Whatever a session is editing, the document
that it exports holds the bytes of the stored one, or the built-in settings if none is stored;
any session that imports it edits the persisted settings then, and they are still persisted. -/
theorem exports_what_is_persisted (sound : s.world.disk.Sound)
    (down : ".." ∉ Disk.segments s.storage.root)
    (place : s.world.disk.isDirectoryAt s.storage.root = true ∨
      Storage.exportName ∉ Disk.segments s.storage.root)
    (loaded : s.storage.load s.world.disk = .ok persisted)
    (succeeded : (s.exportTo directory).result = .ok path) :
    let d := (s.exportTo directory).session.world.disk
    path = Disk.join directory Storage.exportName ∧
      d.readBytes path = .ok ((s.storage.content s.world.disk).getD
        Settings.default.encodeIndented.toUTF8) ∧
      (∀ t : Session, t.world.disk = d →
        (t.importFrom path).result = .ok () ∧
          (t.importFrom path).session.settings = persisted) ∧
      s.storage.load d = .ok persisted := by
  intro d
  have exported := exportTo_eq_ok.1 succeeded
  have disk : d = (s.storage.exportTo s.world.disk directory).2 := (exportTo_base s directory).2.1
  obtain ⟨named, -⟩ := Storage.exportTo_ok exported
  have imported := Storage.importFrom_exportTo loaded exported
  refine ⟨named, ?_, fun t same => importFrom_of_ok ?_, ?_⟩
  · rw [disk]
    exact Storage.readBytes_exportTo exported
  · rw [same, disk]
    exact imported
  · rw [disk]
    exact Storage.load_exportTo sound down place loaded exported

/-- A text that somebody wrote by hand. -/
def handWritten : String := "\x7b\"foreground\": \"#123\", \"note\": 1\x7d"

/-- It is stored in a directory. -/
def handWrittenDisk : Disk :=
  holding handWritten.toUTF8

/-- The settings that it stands for. -/
def handWrittenSettings : Settings :=
  { Settings.default with foreground := ⟨"#123"⟩ }

theorem load_handWritten :
    (Storage.mk "theme").load handWrittenDisk = .ok handWrittenSettings := by
  have decoded : Settings.decode handWritten = .ok handWrittenSettings := by decide +kernel
  exact load_holding decoded

/-- The text is exported over itself by a session that edits the built-in settings, and is imported
by that session. -/
theorem exports_handWritten :
    let s := { start ⟨"theme"⟩ ⟨handWrittenDisk, unused⟩ handWrittenSettings with
      store := .new .default }
    let exported := (s.exportTo "theme").session
    s.settings = .default ∧ handWrittenDisk.Sound ∧
      handWrittenDisk.isDirectoryAt "theme" = true ∧
      (Storage.mk "theme").load handWrittenDisk = .ok handWrittenSettings ∧
      (s.exportTo "theme").result = .ok "theme/settings.json" ∧
      exported.world.disk.readBytes "theme/settings.json" = .ok handWritten.toUTF8 ∧
      (exported.importFrom "theme/settings.json").session.settings = handWrittenSettings ∧
      (Storage.mk "theme").load exported.world.disk = .ok handWrittenSettings := by
  intro s exported
  have copied : ((Storage.mk "theme").exportTo handWrittenDisk "theme").1 =
      .ok "theme/settings.json" := rfl
  have succeeded : (s.exportTo "theme").result = .ok "theme/settings.json" :=
    exportTo_eq_ok.2 copied
  have sound : handWrittenDisk.Sound := sound_holding _
  have isDirectory : handWrittenDisk.isDirectoryAt "theme" = true := by decide
  have held : (Storage.mk "theme").content handWrittenDisk = some handWritten.toUTF8 :=
    content_holding _
  obtain ⟨-, copy, imports, kept⟩ := exports_what_is_persisted (s := s) sound
    (by decide) (.inl isDirectory) load_handWritten succeeded
  have stored : s.storage.content s.world.disk = some handWritten.toUTF8 := held
  rw [stored] at copy
  exact ⟨rfl, sound, isDirectory, load_handWritten, succeeded, copy,
    (imports exported rfl).2, kept⟩

end Session

end ThemeEditor
