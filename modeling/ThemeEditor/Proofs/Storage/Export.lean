/-
# ThemeEditor.Proofs.Storage.Export -- documents that go out and come back

An export copies the stored document byte for byte, or writes the built-in
settings where nothing is stored (`exportTo_ok`, `readBytes_exportTo`).  Loading
and importing decode the same text, so what comes back are the persisted settings
(`importFrom_exportTo`).

The storage keeps them as well, wherever the copy goes (`load_exportTo`).  If a
document is stored it is at most written over by itself.  If none is stored, the
copy may become the stored document, and then it holds what was loaded before.
-/
import ThemeEditor.Proofs.Storage.Content

namespace ThemeEditor

set_option autoImplicit false

open Disk (Route join)

namespace Storage

variable {storage : Storage} {d : Disk} {persisted : Settings} {directory path : String}

/-- What is stored are the bytes of the document. -/
theorem content_of_get {stored : Option String} (got : storage.get d settingsKey = .ok stored) :
    storage.content d = stored.map String.toUTF8 := by
  rw [get_eq_ok] at got
  cases stored with
  | none =>
      rw [content, Disk.readText_eq_missing.1 got]
      rfl
  | some text => exact content_eq_some.2 (Disk.readText_eq_ok.1 got)

/-! ## The copy -/

/-- An export that succeeds has written what is stored, or the built-in settings. -/
theorem exportTo_ok (succeeded : (storage.exportTo d directory).1 = .ok path) :
    path = join directory exportName ∧
      ∃ stored, storage.get d settingsKey = .ok stored ∧
        (storage.exportTo d directory).2.readBytes path =
          .ok (stored.getD Settings.default.encodeIndented).toUTF8 := by
  unfold exportTo at succeeded ⊢
  cases got : storage.get d settingsKey with
  | error e =>
      rw [got] at succeeded
      cases succeeded
  | ok stored =>
      rw [got] at succeeded
      dsimp only at succeeded ⊢
      split at succeeded
      · next written =>
        cases succeeded
        exact ⟨rfl, stored, rfl, Disk.readBytes_of_writeText written⟩
      · cases succeeded

/-- The copy has the bytes of the document. -/
theorem readBytes_exportTo (succeeded : (storage.exportTo d directory).1 = .ok path) :
    (storage.exportTo d directory).2.readBytes path =
      .ok ((storage.content d).getD Settings.default.encodeIndented.toUTF8) := by
  obtain ⟨-, stored, got, copied⟩ := exportTo_ok succeeded
  rw [copied, content_of_get got]
  cases stored <;> rfl

/-- What is imported from the copy are the persisted settings. -/
theorem importFrom_exportTo (loaded : storage.load d = .ok persisted)
    (succeeded : (storage.exportTo d directory).1 = .ok path) :
    importFrom (storage.exportTo d directory).2 path = .ok persisted := by
  obtain ⟨-, stored, got, copied⟩ := exportTo_ok succeeded
  obtain ⟨stored', got', decoded⟩ := load_eq_ok.1 loaded
  rw [got] at got'
  cases got'
  rw [importFrom, Disk.readText_eq_ok.2 copied]
  dsimp only
  rw [decoded]

/-! ## The original -/

/-- The persisted settings stay, wherever they are copied to. -/
theorem load_exportTo (sound : d.Sound) (down : ".." ∉ Disk.segments storage.root)
    (place : d.isDirectoryAt storage.root = true ∨ exportName ∉ Disk.segments storage.root)
    (loaded : storage.load d = .ok persisted)
    (succeeded : (storage.exportTo d directory).1 = .ok path) :
    storage.load (storage.exportTo d directory).2 = .ok persisted := by
  have exported := storage.exported d directory
  generalize storage.exportTo d directory = result at exported succeeded ⊢
  cases exported with
  | failed => cases succeeded
  | cut => cases succeeded
  | @written stored parent stops path suffix uncut got isDirectory free =>
      obtain ⟨stored', got', decoded⟩ := load_eq_ok.1 loaded
      rw [got] at got'
      cases got'
      cases stored with
      | some text =>
          have there := Disk.readText_eq_ok.1 ((get_eq_ok storage).1 got)
          have kept := (Disk.readBytes_put (d := d.withStops stops) free
            ((Disk.readBytes_withStops d stops _).trans there) text.toUTF8).elim id id
          exact load_eq_ok.2 ⟨_, (get_eq_ok storage).2 (Disk.readText_eq_ok.2 kept), decoded⟩
      | none =>
          have missing := Disk.readText_eq_missing.1 ((get_eq_ok storage).1 got)
          by_cases onWay : parent ++ [exportName] <+: storage.file d
          · -- what is on the way to the root is a directory, so the copy is the document itself
            have same : parent ++ [exportName] = storage.file d := by
              rcases List.prefix_concat_iff.1 onWay with same | below
              · exact same
              · exact absurd (clear_of_root sound down place below) free
            obtain ⟨rfl, -⟩ := List.append_inj' same rfl
            have there := Disk.readBytes_put_missing (d := d.withStops stops) isName_exportName down
              (sound.withStops stops) isDirectory
              ((Disk.readBytes_withStops d stops _).trans missing)
              Settings.default.encodeIndented.toUTF8
            exact load_eq_ok.2
              ⟨some _, (get_eq_ok storage).2 (Disk.readText_eq_ok.2 there), decoded⟩
          · have there := Disk.readBytes_put_apart (d := d.withStops stops) isName_exportName down
              onWay (.file Settings.default.encodeIndented.toUTF8)
            exact load_eq_ok.2 ⟨none, (get_congr (there.trans
              (Disk.readBytes_withStops d stops _))).trans got, decoded⟩

end Storage

end ThemeEditor
