/-
# ThemeEditor.Proofs.Storage.Anywhere -- what can be loaded after a write, wherever the root leads

A root may lead up again, past directories that are still to be made, or to names
that the disk refuses.  What is loaded after an export then is not always what was
loaded before, but it is never anything else than that or the built-in settings: a copy
that is exported opens no way to other files (`leaves_exportTo`).

After a save it may be something else, if the root leads up and the save is stopped: by
then the way to a file may have been made that could not be reached before.  Where
nothing is stopped such a file is written over (`of_load_save`), and a root that is there
or does not lead up leads to one file (`Firm`, `leaves_save`).
-/
import ThemeEditor.Proofs.Storage.Content

namespace ThemeEditor.Storage

set_option autoImplicit false

variable {storage : Storage} {d d' : Disk} {loaded : Settings} {good : Settings → Prop}

/-- What is loaded are the built-in settings, or it is read from the file. -/
theorem load_cases (load : storage.load d = .ok loaded) :
    loaded = .default ∨
      ∃ text, d.readBytes (Disk.join storage.root exportName) = .ok text.toUTF8 ∧
        Settings.decode text = .ok loaded := by
  obtain ⟨stored, got, decoded⟩ := load_eq_ok.1 load
  cases stored with
  | none =>
      rw [Option.getD_none, Settings.decode_encodeIndented] at decoded
      exact .inl (Except.ok.inj decoded).symm
  | some text => exact .inr ⟨text, Disk.readText_eq_ok.1 ((get_eq_ok storage).1 got), decoded⟩

/-- Texts are told apart by their bytes. -/
theorem toUTF8_injective {text text' : String} (same : text.toUTF8 = text'.toUTF8) :
    text = text' :=
  Option.some.inj ((Disk.fromUTF8?_eq_some.2 rfl).symm.trans (Disk.fromUTF8?_eq_some.2 same))

/-! ## Saves that nothing stops -/

theorem stops_save (storage : Storage) (d : Disk) (s : Settings) :
    (storage.save d s).2.stops <:+ d.stops :=
  stops_set storage d settingsKey s.encodeIndented

/-- After a save on a steady disk, whether it succeeded or not, the saved settings are loaded or
the built-in ones. -/
theorem of_load_save (steady : d.Steady) {s : Settings}
    (load : storage.load (storage.save d s).2 = .ok loaded) : loaded = s ∨ loaded = .default := by
  obtain builtIn | ⟨text, there, decoded⟩ := load_cases load
  · exact .inr builtIn
  · refine .inl ?_
    have told := (Disk.added_makeDirectories (d := d) storage.root).stops
    unfold save set at there
    rw [pathOf_settingsKey] at there
    dsimp only at there
    split at there
    · next failed =>
      exact absurd there (Disk.unread_of_makeDirectories_error isName_exportName failed)
    · next between made =>
      rw [made] at told
      have steady' : between.Steady := steady.of_suffix (told ▸ List.suffix_rfl)
      have wrote := Disk.wrote_writeText between (Disk.join storage.root exportName)
        s.encodeIndented
      generalize writing : between.writeText (Disk.join storage.root exportName) _ = result
        at there wrote
      cases wrote with
      | whole suffix uncut written =>
          dsimp only at there
          rw [Disk.readBytes_of_writeBytes written] at there
          obtain rfl := toUTF8_injective (Except.ok.inj there)
          rw [Settings.decode_encodeIndented] at decoded
          exact (Except.ok.inj decoded).symm
      | refused f =>
          -- what can be read can be written over
          dsimp only at there
          rw [Disk.readBytes_withStops] at there
          obtain ⟨_, written, -⟩ := Disk.overwrite isName_exportName there
            s.encodeIndented.toUTF8
          cases writing.symm.trans (Disk.writeText_of_ready steady'.ready written)
      | cut f suffix isCut => exact absurd isCut steady'.not_cutOff

/-! ## Exports -/

theorem stops_exportTo (storage : Storage) (d : Disk) (directory : String) :
    (storage.exportTo d directory).2.stops <:+ d.stops := by
  have exported := storage.exported d directory
  generalize storage.exportTo d directory = result at exported ⊢
  cases exported with
  | failed e suffix => exact suffix
  | written path suffix => exact suffix
  | cut e suffix => exact suffix

/-- The same bytes are the same document, if there are any. -/
theorem document_of_content (same : storage.content d' = storage.content d) :
    storage.document d' = storage.document d ∨ storage.content d' = none := by
  cases held : storage.content d with
  | none => exact .inr (same.trans held)
  | some bytes => exact .inl (document_congr (get_of_content held (same.trans held)))

/-- What an export leaves is the document, or a beginning of it, or nothing that can be
reached. -/
theorem document_exportTo (storage : Storage) (d : Disk) (directory : String) :
    (storage.document (storage.exportTo d directory).2 = storage.document d ∨
        storage.content (storage.exportTo d directory).2 = none) ∨
      Disk.CutOff d (storage.exportTo d directory).2 ∧ ∃ text part,
        storage.document d = .ok text ∧
        storage.content (storage.exportTo d directory).2 = some part ∧
        Disk.Beginning part text := by
  have exported := storage.exported d directory
  generalize storage.exportTo d directory = result at exported ⊢
  cases exported with
  | failed e => exact .inl (document_of_content (content_withStops _ storage d))
  | @written stored parent stops path suffix uncut got isDirectory free =>
      refine .inl ?_
      rcases content_put storage (d := d.withStops stops) free
        (stored.getD Settings.default.encodeIndented).toUTF8 with same | put
      · exact document_of_content (same.trans (content_withStops _ storage d))
      · exact .inl ((document_of_text (get_text_iff.2 put)).trans (document_of_get got).symm)
  | @cut stored parent stops part e suffix isCut got beginning isDirectory free =>
      rcases content_put storage (d := d.withStops stops) free part with same | put
      · exact .inl (document_of_content (same.trans (content_withStops _ storage d)))
      · exact .inr ⟨isCut, _, part, document_of_get got, put, beginning⟩

/-- After an export on a steady disk, what was loaded before is loaded or the built-in
settings. -/
theorem of_load_exportTo (steady : d.Steady) {directory : String}
    (load : storage.load (storage.exportTo d directory).2 = .ok loaded) :
    storage.load d = .ok loaded ∨ loaded = .default := by
  rcases document_exportTo storage d directory with (same | nothing) | ⟨isCut, -⟩
  · exact .inl ((load_congr same).symm.trans load)
  · obtain builtIn | ⟨text, there, -⟩ := load_cases load
    · exact .inr builtIn
    · rw [content_eq_some.2 there] at nothing
      cases nothing
  · exact absurd isCut steady.not_cutOff

/-! ## What is left of the document -/

/-- Where nothing is stored, nothing but the built-in settings is left. -/
theorem leaves_of_nothing (builtIn : good .default) (nothing : storage.content d = none) :
    Leaves storage d good := by
  intro front rest s held begins
  have said : Settings.default.encodeIndented = front ++ rest := by
    unfold document at held
    cases got : storage.get d settingsKey with
    | error e =>
        rw [got] at held
        cases held
    | ok stored =>
        rw [got] at held
        cases stored with
        | none => exact Except.ok.inj held
        | some text =>
            rw [get_text_iff.1 got] at nothing
            cases nothing
  by_cases empty : rest = ""
  · rw [empty, String.append_empty] at said
    rw [← said, Settings.decode_encodeIndented] at begins
    exact Except.ok.inj begins ▸ builtIn
  · exact absurd begins (Settings.unread_beginning said empty)

/-- An export leaves what was left before, or the built-in settings. -/
theorem leaves_exportTo (builtIn : good .default) (leaves : Leaves storage d good)
    (directory : String) : Leaves storage (storage.exportTo d directory).2 good := by
  rcases document_exportTo storage d directory with
    (same | nothing) | ⟨-, text, part, before, held, beginning⟩
  · exact leaves.congr same
  · exact leaves_of_nothing builtIn nothing
  · exact leaves.of_cut held beginning (.inr before)

/-! ## Firm roots -/

/-- The root is there, or it does not lead up. -/
def Firm (storage : Storage) (d : Disk) : Prop :=
  d.isDirectoryAt storage.root = true ∨ d.Sound ∧ ".." ∉ Disk.segments storage.root

/-- Into a root that is there a save writes at once. -/
theorem save_of_isDirectoryAt (isDirectory : d.isDirectoryAt storage.root = true) (s : Settings) :
    (storage.save d s).2 =
      (d.writeText (Disk.join storage.root exportName) s.encodeIndented).2 := by
  rw [save_of_made (Disk.makeDirectories_of_isDirectoryAt isDirectory)]
  split
  · next written => rw [written]
  · next failed => rw [failed]

theorem firm_exportTo (firm : Firm storage d) (directory : String) :
    Firm storage (storage.exportTo d directory).2 := by
  rcases firm with isDirectory | ⟨sound, down⟩
  · refine .inl ?_
    have exported := storage.exported d directory
    generalize storage.exportTo d directory = result at exported ⊢
    cases exported with
    | failed e => exact (Disk.isDirectoryAt_withStops d _ _).trans isDirectory
    | @written _ _ stops path suffix uncut held _ free =>
        exact Disk.isDirectoryAt_put (d := d.withStops stops) free
          ((Disk.isDirectoryAt_withStops d _ _).trans isDirectory) _
    | @cut _ _ stops _ e suffix isCut held beginning _ free =>
        exact Disk.isDirectoryAt_put (d := d.withStops stops) free
          ((Disk.isDirectoryAt_withStops d _ _).trans isDirectory) _
  · exact .inr ⟨sound_exportTo sound storage directory, down⟩

theorem firm_save (firm : Firm storage d) (s : Settings) : Firm storage (storage.save d s).2 := by
  rcases firm with isDirectory | ⟨sound, down⟩
  · refine .inl ?_
    rw [save_of_isDirectoryAt isDirectory]
    have wrote := Disk.wrote_writeText d (Disk.join storage.root exportName) s.encodeIndented
    generalize d.writeText (Disk.join storage.root exportName) _ = result at wrote ⊢
    cases wrote with
    | refused f => exact (Disk.isDirectoryAt_withStops d _ _).trans isDirectory
    | whole suffix uncut written =>
        obtain ⟨_, -, -, free, rfl⟩ := Disk.writeBytes_join isName_exportName written
        exact Disk.isDirectoryAt_put free
          ((Disk.isDirectoryAt_withStops d _ _).trans isDirectory) _
    | cut f suffix isCut beginning written =>
        obtain ⟨_, -, -, free, rfl⟩ := Disk.writeBytes_join isName_exportName written
        exact Disk.isDirectoryAt_put free
          ((Disk.isDirectoryAt_withStops d _ _).trans isDirectory) _
  · exact .inr ⟨sound_save sound down s, down⟩

/-- What a save leaves is the document, or nothing that can be reached, or what was saved or a
beginning of it. -/
theorem document_save (firm : Firm storage d) (s : Settings) :
    (storage.document (storage.save d s).2 = storage.document d ∨
        storage.content (storage.save d s).2 = none) ∨
      ∃ bytes, storage.content (storage.save d s).2 = some bytes ∧
        (bytes = s.encodeIndented.toUTF8 ∨ Disk.Beginning bytes s.encodeIndented) := by
  rcases firm with isDirectory | ⟨sound, down⟩
  · rw [save_of_isDirectoryAt isDirectory]
    have wrote := Disk.wrote_writeText d (Disk.join storage.root exportName) s.encodeIndented
    generalize d.writeText (Disk.join storage.root exportName) _ = result at wrote ⊢
    cases wrote with
    | refused f => exact .inl (document_of_content (content_withStops _ storage d))
    | whole suffix uncut written =>
        exact .inr ⟨_, content_eq_some.2 (Disk.readBytes_of_writeBytes written), .inl rfl⟩
    | cut f suffix isCut beginning written =>
        exact .inr ⟨_, content_eq_some.2 (Disk.readBytes_of_writeBytes written), .inr beginning⟩
  · have saved := saved sound down s
    generalize storage.save d s = result at saved ⊢
    cases saved with
    | failed e grown => exact .inl (document_of_content (content_grown sound down grown))
    | written grown suffix uncut isDirectory free held => exact .inr ⟨_, held, .inl rfl⟩
    | cut e grown suffix isCut beginning isDirectory free held =>
        exact .inr ⟨_, held, .inr beginning⟩

/-- A save into a firm root leaves the settings that it saves, what was left before, or the
built-in settings. -/
theorem leaves_save (firm : Firm storage d) (builtIn : good .default) {s : Settings}
    (isGood : good s) (leaves : Leaves storage d good) :
    Leaves storage (storage.save d s).2 good := by
  rcases document_save firm s with (same | nothing) | ⟨bytes, held, rfl | beginning⟩
  · exact leaves.congr same
  · exact leaves_of_nothing builtIn nothing
  · refine leaves_of_load (load_eq_ok.2 ⟨_, get_text_iff.2 held, ?_⟩) isGood
    exact Settings.decode_encodeIndented s
  · exact leaves.of_cut held beginning (.inl ⟨s, rfl⟩)

end ThemeEditor.Storage
