/-
# ThemeEditor.Proofs.Storage.Content -- the stored document as bytes

The stored document is a file like any other and may hold any bytes
(`Storage.content`).  On a disk that is ready settings can be saved over all of them
(`overwritten`).  A text is loaded or found to be corrupt; other bytes are not even
read (`load_of_text`, `load_of_notText`).

A save that fails leaves the document as it was, unless it was cut off: at most it has
made directories on the way (`content_of_save_error`).  A save that was cut off leaves
a beginning of what it was writing (`content_of_save_cut`).  An export copies the bytes
of the document and so leaves them too, even if it writes over it, or some of them if it
is cut off there (`content_exportTo`).
-/
import ThemeEditor.Proofs.Storage.Persistence

namespace ThemeEditor

set_option autoImplicit false

open Disk (Route Stop Plain Grown CutOff Beginning join)

namespace Storage

variable {storage : Storage} {d d' : Disk} {bytes : ByteArray}

/-! ## Any bytes -/

/-- What comes of a save over a document. -/
inductive SavedOver (storage : Storage) (d : Disk) (s : Settings) :
    Except Error Unit × Disk → Prop where
  | saved {d' : Disk} (uncut : ¬ CutOff d d') (loaded : storage.load d' = .ok s) :
      SavedOver storage d s (.ok (), d')
  /-- No file changes. -/
  | refused (e : Error) {stops : List (Option Stop)} (uncut : ¬ CutOff d (d.withStops stops)) :
      SavedOver storage d s (.error e, d.withStops stops)
  | cut (e : Error) {d' : Disk} {part : ByteArray} (isCut : CutOff d d')
      (held : storage.content d' = some part) (beginning : Beginning part s.encodeIndented) :
      SavedOver storage d s (.error e, d')

/-- A beginning of a document that was saved cannot be loaded. -/
theorem unloaded_of_beginning {s t : Settings} {part : ByteArray}
    (held : storage.content d = some part) (beginning : Beginning part s.encodeIndented) :
    storage.load d ≠ .ok t := by
  intro loaded
  obtain ⟨text, said, decoded⟩ := document_of_load loaded
  rw [text_of_document held said] at beginning
  obtain ⟨rest, filled, written⟩ := beginning.append
  exact Settings.unread_beginning written filled decoded

section

variable (held : storage.content d = some bytes)

include held

/-- What is stored is written over, or not at all, or by a beginning of the new document. -/
theorem savedOver (s : Settings) : SavedOver storage d s (storage.save d s) := by
  have there := content_eq_some.1 held
  rw [save_of_made (Disk.makeDirectories_of_readBytes isName_exportName there)]
  have wrote := Disk.wrote_writeText d (join storage.root exportName) s.encodeIndented
  generalize d.writeText (join storage.root exportName) _ = result at wrote ⊢
  cases wrote with
  | refused f suffix uncut => exact .refused _ uncut
  | whole suffix uncut written =>
      have put := content_eq_some.2 (Disk.readBytes_of_writeBytes written)
      refine .saved ?_ (load_eq_ok.2 ⟨_, get_text_iff.2 put, Settings.decode_encodeIndented s⟩)
      rwa [CutOff, Disk.stops_writeBytes written]
  | cut f suffix isCut beginning written =>
      refine .cut _ ?_ (content_eq_some.2 (Disk.readBytes_of_writeBytes written)) beginning
      rwa [CutOff, Disk.stops_writeBytes written]

/-- Settings can be saved over whatever is stored, and are loaded then. -/
theorem overwritten (ready : d.Ready) (s : Settings) :
    ∃ d', storage.save d s = (.ok (), d') ∧ storage.load d' = .ok s := by
  have there := content_eq_some.1 held
  obtain ⟨d', written, read⟩ := Disk.overwrite isName_exportName there s.encodeIndented.toUTF8
  have stored : storage.get d' settingsKey = .ok (some s.encodeIndented) :=
    (get_eq_ok storage).2 (Disk.readText_eq_ok.2 read)
  refine ⟨d'.withStops d.stops.tail, ?_, ?_⟩
  · rw [save_of_made (Disk.makeDirectories_of_readBytes isName_exportName there),
      Disk.writeText_of_ready ready written]
  · rw [load_withStops]
    exact load_eq_ok.2 ⟨_, stored, Settings.decode_encodeIndented s⟩

/-- Where the file takes only so many bytes, a save over what is stored leaves these. -/
theorem cut_of_full {room : Nat} {words : String} {stops : List (Option Stop)}
    (told : d.stops = some (.full room words) :: stops) (s : Settings) :
    ∃ e d', storage.save d s = (.error e, d') ∧ CutOff d d' ∧
      storage.content d' = some (Stop.part room s.encodeIndented.toUTF8) := by
  have there := content_eq_some.1 held
  obtain ⟨d', written, read⟩ :=
    Disk.overwrite isName_exportName there (Stop.part room s.encodeIndented.toUTF8)
  refine ⟨.write (join storage.root exportName) (.device words), d'.withStops stops, ?_,
    ⟨room, words, told⟩, ?_⟩
  · rw [save_of_made (Disk.makeDirectories_of_readBytes isName_exportName there),
      Disk.writeText_of_full told s.encodeIndented_ne written]
  · exact (content_withStops stops storage d').trans (content_eq_some.2 read)

/-- A stored text is loaded as settings, or it is corrupt. -/
theorem load_of_text (text : bytes.IsValidUTF8) :
    (∃ s, storage.load d = .ok s) ∨ ∃ r, storage.load d = .error (.corrupt settingsKey r) := by
  have decoded : String.fromUTF8? bytes = some (String.fromUTF8 bytes text) := dif_pos text
  have read : d.readText (join storage.root exportName) = .ok (String.fromUTF8 bytes text) := by
    rw [Disk.readText_eq_ok, content_eq_some.1 held, ← Disk.fromUTF8?_eq_some.1 decoded]
  have stored : storage.get d settingsKey = .ok (some (String.fromUTF8 bytes text)) :=
    (get_eq_ok storage).2 read
  unfold load
  rw [stored]
  dsimp only
  cases Settings.decode (String.fromUTF8 bytes text) with
  | ok s => exact .inl ⟨s, rfl⟩
  | error r => exact .inr ⟨r, rfl⟩

/-- What is no text cannot be read. -/
theorem load_of_notText (notText : ¬ bytes.IsValidUTF8) :
    storage.load d = .error (.read (join storage.root exportName) .notText) := by
  have decoded : String.fromUTF8? bytes = none := dif_neg notText
  have refused : d.readText (join storage.root exportName) = .error .notText := by
    rw [Disk.readText, content_eq_some.1 held]
    dsimp only
    rw [decoded]
  unfold load get
  rw [pathOf_settingsKey]
  dsimp only
  rw [refused]

/-- What is got are the bytes of the document. -/
theorem bytes_of_get {stored : Option String} (got : storage.get d settingsKey = .ok stored) :
    ∃ text, stored = some text ∧ text.toUTF8 = bytes := by
  have there := content_eq_some.1 held
  rw [get_eq_ok] at got
  cases stored with
  | none =>
      dsimp only at got
      rw [Disk.readText, there] at got
      dsimp only at got
      split at got <;> cases got
  | some text =>
      dsimp only at got
      rw [Disk.readText_eq_ok, there] at got
      exact ⟨text, rfl, (Except.ok.inj got).symm⟩

/-- A document is reached by names that the disk holds. -/
theorem plain_of_content (down : ".." ∉ Disk.segments storage.root) : Plain storage.root := by
  obtain ⟨-, route, -, led, -⟩ :=
    Disk.walk_of_readBytes isName_exportName (content_eq_some.1 held)
  have down' := isName_exportName.down_snoc down
  obtain ⟨-, short⟩ := Disk.walk_ok down' led
  exact ⟨down, fun name member => short name (List.mem_append_left _ member)⟩

end

/-- What is corrupt is a text that can be reached. -/
theorem content_of_corrupt {key : String} {r : Json.Refusal}
    (corrupt : storage.load d = .error (.corrupt key r)) :
    ∃ text : String, storage.content d = some text.toUTF8 := by
  unfold load at corrupt
  split at corrupt
  · next failed =>
    cases corrupt
    rw [get, pathOf_settingsKey] at failed
    dsimp only at failed
    split at failed <;> cases failed
  · cases corrupt
  · next text got =>
    exact ⟨text, content_eq_some.2 (Disk.readText_eq_ok.1 ((get_eq_ok storage).1 got))⟩

/-! ## Failed saves -/

section

variable (sound : d.Sound) (down : ".." ∉ Disk.segments storage.root)

include sound down

/-- Directories that are made on the way to the root do not change the document. -/
theorem content_grown (grown : Grown d d' (d.spelled storage.root)) :
    storage.content d' = storage.content d := by
  by_cases plain : Plain storage.root
  · have read := Disk.readBytes_grown sound plain isName_exportName (by decide) grown
    rw [content, read, content]
  · -- the root cannot be reached, before or after
    have nothing : ∀ d : Disk, storage.content d = none := by
      intro d
      cases held : storage.content d with
      | none => rfl
      | some bytes => exact absurd (plain_of_content held down) plain
    rw [nothing d', nothing d]

/-- A save that fails leaves the document as it was, unless it was cut off. -/
theorem content_of_save_error {s : Settings} {e : Error}
    (failed : (storage.save d s).1 = .error e) (uncut : ¬ CutOff d (storage.save d s).2) :
    storage.content (storage.save d s).2 = storage.content d := by
  have saved := Storage.saved sound down s
  generalize storage.save d s = result at saved failed uncut ⊢
  cases saved with
  | failed e grown => exact content_grown sound down grown
  | written => cases failed
  | cut e grown suffix isCut => exact absurd isCut uncut

/-- A save that succeeds was not cut off. -/
theorem uncut_of_save {s : Settings} (succeeded : (storage.save d s).1 = .ok ()) :
    ¬ CutOff d (storage.save d s).2 := by
  have saved := Storage.saved sound down s
  generalize storage.save d s = result at saved succeeded ⊢
  cases saved with
  | failed => cases succeeded
  | written grown suffix uncut => exact uncut
  | cut => cases succeeded

/-- A save that was cut off leaves a beginning of its document. -/
theorem content_of_save_cut {s : Settings} (isCut : CutOff d (storage.save d s).2) :
    ∃ part, storage.content (storage.save d s).2 = some part ∧
      Beginning part s.encodeIndented := by
  have saved := Storage.saved sound down s
  generalize storage.save d s = result at saved isCut ⊢
  cases saved with
  | failed e grown suffix uncut => exact absurd isCut uncut
  | written grown suffix uncut => exact absurd isCut uncut
  | cut e grown suffix isCut beginning isDirectory free held => exact ⟨_, held, beginning⟩

/-- On a root with names that the disk holds, what is got is as before too. -/
theorem get_of_save_error (short : ∀ name ∈ Disk.segments storage.root,
      name.utf8ByteSize ≤ Disk.maxNameSize)
    {s : Settings} {e : Error} (failed : (storage.save d s).1 = .error e)
    (uncut : ¬ CutOff d (storage.save d s).2) :
    storage.get (storage.save d s).2 settingsKey = storage.get d settingsKey := by
  have saved := Storage.saved sound down s
  generalize storage.save d s = result at saved failed uncut ⊢
  cases saved with
  | failed e grown =>
      exact get_congr
        (Disk.readBytes_grown sound ⟨down, short⟩ isName_exportName (by decide) grown)
  | written => cases failed
  | cut e grown suffix isCut => exact absurd isCut uncut

/-- A save keeps a disk sound. -/
theorem sound_save (s : Settings) : (storage.save d s).2.Sound := by
  have saved := Storage.saved sound down s
  generalize storage.save d s = result at saved ⊢
  cases saved with
  | failed e grown => exact grown.sound
  | written grown suffix uncut isDirectory free => exact grown.sound.put isDirectory free _
  | cut e grown suffix isCut beginning isDirectory free =>
      exact grown.sound.put isDirectory free _

end

/-! ## Exports -/

/-- A file that is written is the document, or is not. -/
theorem content_put (storage : Storage) {route : Route}
    (free : d.node? route ≠ some .directory) (bytes : ByteArray) :
    storage.content (d.put route (.file bytes)) = storage.content d ∨
      storage.content (d.put route (.file bytes)) = some bytes := by
  cases held : storage.content d with
  | some before =>
      rcases Disk.readBytes_put free (content_eq_some.1 held) bytes with kept | written
      · exact .inl (content_eq_some.2 kept)
      · exact .inr (content_eq_some.2 written)
  | none =>
      cases now : storage.content (d.put route (.file bytes)) with
      | none => exact .inl rfl
      | some there =>
          rcases Disk.readBytes_of_put free (content_eq_some.1 now) with rfl | before
          · exact .inr rfl
          · rw [content_eq_some.2 before] at held
            cases held

/-- An export that fails changes no file, unless it was cut off. -/
theorem exportTo_of_error {directory : String} {e : ExportError}
    (failed : (storage.exportTo d directory).1 = .error e)
    (uncut : ¬ CutOff d (storage.exportTo d directory).2) :
    ∃ stops, (storage.exportTo d directory).2 = d.withStops stops := by
  have exported := storage.exported d directory
  generalize storage.exportTo d directory = result at exported failed uncut ⊢
  cases exported with
  | failed e => exact ⟨_, rfl⟩
  | written => cases failed
  | cut e suffix isCut => exact absurd isCut uncut

/-- An export that succeeds was not cut off. -/
theorem uncut_of_exportTo {directory path : String}
    (succeeded : (storage.exportTo d directory).1 = .ok path) :
    ¬ CutOff d (storage.exportTo d directory).2 := by
  have exported := storage.exported d directory
  generalize storage.exportTo d directory = result at exported succeeded ⊢
  cases exported with
  | failed => cases succeeded
  | written path suffix uncut => exact uncut
  | cut => cases succeeded

/-- An export that was cut off leaves the document, or a beginning of it in its place. -/
theorem content_of_export_cut {directory : String}
    (isCut : CutOff d (storage.exportTo d directory).2) :
    ∃ text, storage.document d = .ok text ∧
      (storage.content (storage.exportTo d directory).2 = storage.content d ∨
        ∃ part, storage.content (storage.exportTo d directory).2 = some part ∧
          Beginning part text) := by
  have exported := storage.exported d directory
  generalize storage.exportTo d directory = result at exported isCut ⊢
  cases exported with
  | failed e suffix uncut => exact absurd isCut uncut
  | written path suffix uncut => exact absurd isCut uncut
  | @cut stored parent stops part e suffix isCut held beginning isDirectory free =>
      refine ⟨_, document_of_get held, ?_⟩
      have put := content_put storage (d := d.withStops stops) free part
      rw [content_withStops] at put
      exact put.imp_right fun now => ⟨part, now, beginning⟩

/-- An export leaves the bytes of the document, even where it writes over them, or some of them
where it is cut off. -/
theorem content_exportTo (held : storage.content d = some bytes) (directory : String) :
    storage.content (storage.exportTo d directory).2 = some bytes ∨
      Damaged storage d (storage.exportTo d directory).2 := by
  by_cases isCut : CutOff d (storage.exportTo d directory).2
  · by_cases same : storage.content (storage.exportTo d directory).2 = storage.content d
    · exact .inl (same.trans held)
    · exact .inr ⟨isCut, same⟩
  · refine .inl ?_
    have exported := storage.exported d directory
    generalize storage.exportTo d directory = result at exported isCut ⊢
    cases exported with
    | failed e => exact (content_withStops _ storage d).trans held
    | @written stored parent stops path suffix uncut got isDirectory free =>
        obtain ⟨text, rfl, rfl⟩ := bytes_of_get held got
        have put := content_put storage (d := d.withStops stops) free text.toUTF8
        rw [content_withStops, held] at put
        exact put.elim id id
    | cut e suffix cut => exact absurd cut isCut

/-- An export keeps a disk sound. -/
theorem sound_exportTo (sound : d.Sound) (storage : Storage) (directory : String) :
    (storage.exportTo d directory).2.Sound := by
  have exported := storage.exported d directory
  generalize storage.exportTo d directory = result at exported ⊢
  cases exported with
  | failed e => exact sound.withStops _
  | @written _ _ stops path suffix uncut held isDirectory free =>
      exact (sound.withStops stops).put isDirectory free _
  | @cut _ _ stops _ e suffix isCut held beginning isDirectory free =>
      exact (sound.withStops stops).put isDirectory free _

end Storage

end ThemeEditor
