/-
# ThemeEditor.Proofs.Storage.Persistence -- what is loaded after an operation

An export copies the stored document or the built-in settings, even over the stored
document itself, and a save that fails may have made directories.  So the document
stays, or it is the one that was saved, or a write that was cut off leaves a beginning
of a document in its place (`Stores`, `Placed.exportTo`, `Placed.save`).

A storage whose settings can be loaded keeps them through everything but a successful
save and a write of the last kind (`Stores.loaded`).  And even that gives no other
settings: a beginning of a document is loaded as the whole is, or not at all
(`Leaves`, `Stores.leaves`).

`placed_of_load` says when a storage is in that state to begin with.
-/
import ThemeEditor.Proofs.Disk.Added
import ThemeEditor.Proofs.Disk.Overwrite
import ThemeEditor.Proofs.Settings.Document
import ThemeEditor.Proofs.Storage.Place

namespace ThemeEditor

set_option autoImplicit false

open Disk (Route Location Plain IsName Grown Stop CutOff Beginning)

theorem Settings.decode_encodeIndented (s : Settings) : decode s.encodeIndented = .ok s :=
  decode_write Json.Style.spaced_indented s

namespace Storage

variable {storage : Storage} {d : Disk} {persisted : Settings}

/-- The stored document.  Where none is stored the built-in settings are as good as stored. -/
def document (storage : Storage) (d : Disk) : Except Error String :=
  (storage.get d settingsKey).map fun stored => stored.getD Settings.default.encodeIndented

theorem document_of_get {stored : Option String} (held : storage.get d settingsKey = .ok stored) :
    storage.document d = .ok (stored.getD Settings.default.encodeIndented) := by
  rw [document, held, Except.map]

theorem document_of_text {text : String} (held : storage.get d settingsKey = .ok (some text)) :
    storage.document d = .ok text := by
  rw [document_of_get held, Option.getD_some]

theorem document_congr {d' : Disk} (same : storage.get d' settingsKey = storage.get d settingsKey) :
    storage.document d' = storage.document d := by
  rw [document, document, same]

/-- What is loaded is what the document says. -/
theorem load_eq (storage : Storage) (d : Disk) : storage.load d =
    match storage.document d with
    | .error e => .error e
    | .ok text => (Settings.decode text).mapError (.corrupt settingsKey) := by
  unfold load
  cases got : storage.get d settingsKey with
  | error e =>
      rw [document, got]
      rfl
  | ok stored =>
      rw [document_of_get got]
      cases stored with
      | none =>
          dsimp only
          rw [Option.getD_none, Settings.decode_encodeIndented, Except.mapError]
      | some text =>
          dsimp only
          rw [Option.getD_some]
          cases Settings.decode text <;> rfl

theorem load_congr {d' : Disk} (same : storage.document d' = storage.document d) :
    storage.load d' = storage.load d := by
  rw [load_eq, load_eq, same]

theorem load_eq_ok : storage.load d = .ok persisted ↔
    ∃ stored, storage.get d settingsKey = .ok stored ∧
      Settings.decode (stored.getD Settings.default.encodeIndented) = .ok persisted := by
  unfold load
  cases storage.get d settingsKey with
  | error e => simp
  | ok stored =>
      cases stored with
      | none => simp [Settings.decode_encodeIndented]
      | some text =>
          dsimp only
          cases decoded : Settings.decode text <;> simp [decoded]

/-! ## Storages that can be loaded -/

/-- The path of settings that are loaded is a path. -/
theorem readable_of_load (loaded : storage.load d = .ok persisted) :
    ∃ location, Location.ofPath (Disk.join storage.root exportName) = .ok location := by
  obtain ⟨stored, held, -⟩ := load_eq_ok.1 loaded
  rw [get_eq_ok] at held
  cases stored with
  | none => exact Disk.readable_of_missing isName_exportName (Disk.readText_eq_missing.1 held)
  | some text =>
      have there := Disk.readText_eq_ok.1 held
      cases read : Location.ofPath (Disk.join storage.root exportName) with
      | ok location => exact ⟨location, rfl⟩
      | error f =>
          rw [Disk.readBytes_of_ofPath_error read] at there
          cases there

/-- The root is a directory, or what is still to be made of it is open to be made. -/
structure Rooted (storage : Storage) (d : Disk) : Prop where
  down : ".." ∉ Disk.segments storage.root
  place : d.isDirectoryAt storage.root = true ∨
    exportName ∉ Disk.segments storage.root ∧
      ∀ name ∈ Disk.segments storage.root, name.utf8ByteSize ≤ Disk.maxNameSize

/-- What has the name of an exported document on the way to the root is a directory, if the root
is one or has no such step. -/
theorem clear_of_root (sound : d.Sound) (down : ".." ∉ Disk.segments storage.root)
    (place : d.isDirectoryAt storage.root = true ∨ exportName ∉ Disk.segments storage.root)
    {parent : Route} (below : parent ++ [exportName] <+: d.spelled storage.root) :
    d.node? (parent ++ [exportName]) = some .directory := by
  rcases place with isDirectory | other
  · obtain ⟨-, present⟩ := Disk.plain_of_isDirectoryAt down isDirectory
    by_cases same : parent ++ [exportName] = d.spelled storage.root
    · rw [same]
      exact present
    · exact sound.above below same (by simp [present])
  · -- the name is no step of the root, so it lies above where the steps start
    refine sound.above_start storage.root _ ?_
    rcases List.prefix_or_prefix_of_prefix below (List.prefix_append _ _) with above | ⟨front, same⟩
    · exact above
    · rcases List.eq_nil_or_concat front with rfl | ⟨between, name, rfl⟩
      · have here : parent ++ [exportName] = d.start storage.root := by
          rw [← same, List.append_nil]
        exact here ▸ List.prefix_rfl
      · rw [List.concat_eq_append, ← List.append_assoc] at same
        obtain ⟨-, lastName⟩ := List.append_inj' same rfl
        rw [← same, Disk.spelled, List.append_assoc, List.prefix_append_right_inj] at below
        have member : name ∈ Disk.segments storage.root := below.subset (by simp)
        rw [List.singleton_inj.1 lastName] at member
        exact absurd member other

/-- A rooted storage on a sound disk is in its place once its settings were loaded. -/
theorem placed_of_load (sound : d.Sound) (rooted : Rooted storage d)
    (loaded : storage.load d = .ok persisted) : Placed storage d where
  sound := sound
  plain := by
    rcases rooted.place with isDirectory | ⟨-, short⟩
    · exact (Disk.plain_of_isDirectoryAt rooted.down isDirectory).1
    · exact ⟨rooted.down, short⟩
  readable := readable_of_load loaded
  clear := fun _ => clear_of_root sound rooted.down (rooted.place.imp_right And.left)

/-! ## What operations do to the disk -/

/-- What comes of an export: it changes no file, or it puts the stored document into a
directory, or a beginning of it. -/
inductive Exported (storage : Storage) (d : Disk) : Except ExportError String × Disk → Prop where
  | failed (e : ExportError) {stops : List (Option Stop)} (suffix : stops <:+ d.stops)
      (uncut : ¬ CutOff d (d.withStops stops)) : Exported storage d (.error e, d.withStops stops)
  | written {stored : Option String} {parent : Route} {stops : List (Option Stop)} (path : String)
      (suffix : stops <:+ d.stops) (uncut : ¬ CutOff d (d.withStops stops))
      (held : storage.get d settingsKey = .ok stored)
      (isDirectory : d.node? parent = some .directory)
      (free : d.node? (parent ++ [exportName]) ≠ some .directory) :
      Exported storage d (.ok path, (d.withStops stops).put (parent ++ [exportName])
        (.file (stored.getD Settings.default.encodeIndented).toUTF8))
  | cut {stored : Option String} {parent : Route} {stops : List (Option Stop)} {part : ByteArray}
      (e : ExportError) (suffix : stops <:+ d.stops) (isCut : CutOff d (d.withStops stops))
      (held : storage.get d settingsKey = .ok stored)
      (beginning : Beginning part (stored.getD Settings.default.encodeIndented))
      (isDirectory : d.node? parent = some .directory)
      (free : d.node? (parent ++ [exportName]) ≠ some .directory) :
      Exported storage d (.error e, (d.withStops stops).put (parent ++ [exportName]) (.file part))

theorem exported (storage : Storage) (d : Disk) (directory : String) :
    Exported storage d (storage.exportTo d directory) := by
  unfold Storage.exportTo
  split
  · exact .failed _ List.suffix_rfl (Disk.not_cutOff_self d)
  · next stored held =>
    dsimp only
    have wrote := Disk.wrote_writeText d (Disk.join directory exportName)
      (stored.getD Settings.default.encodeIndented)
    generalize d.writeText (Disk.join directory exportName) _ = result at wrote ⊢
    cases wrote with
    | refused f suffix uncut => exact .failed _ suffix uncut
    | whole suffix uncut written =>
        obtain ⟨parent, -, isDirectory, free, rfl⟩ :=
          Disk.writeBytes_join isName_exportName written
        exact .written _ suffix uncut held isDirectory free
    | cut f suffix isCut beginning written =>
        obtain ⟨parent, -, isDirectory, free, rfl⟩ :=
          Disk.writeBytes_join isName_exportName written
        exact .cut _ suffix isCut held beginning isDirectory free

/-- What comes of a save: it makes directories, and then it changes no file, or it puts the
document into the root, or a beginning of it. -/
inductive Saved (storage : Storage) (d : Disk) (s : Settings) :
    Except Error Unit × Disk → Prop where
  | failed {d' : Disk} (e : Error) (grown : Grown d d' (d.spelled storage.root))
      (suffix : d'.stops <:+ d.stops) (uncut : ¬ CutOff d d') : Saved storage d s (.error e, d')
  | written {d' : Disk} (grown : Grown d d' (d.spelled storage.root))
      (suffix : d'.stops <:+ d.stops) (uncut : ¬ CutOff d d')
      (isDirectory : d'.node? (d'.spelled storage.root) = some .directory)
      (free : d'.node? (storage.file d') ≠ some .directory)
      (held : storage.content (d'.put (storage.file d') (.file s.encodeIndented.toUTF8)) =
        some s.encodeIndented.toUTF8) :
      Saved storage d s (.ok (), d'.put (storage.file d') (.file s.encodeIndented.toUTF8))
  | cut {d' : Disk} {part : ByteArray} (e : Error) (grown : Grown d d' (d.spelled storage.root))
      (suffix : d'.stops <:+ d.stops) (isCut : CutOff d d')
      (beginning : Beginning part s.encodeIndented)
      (isDirectory : d'.node? (d'.spelled storage.root) = some .directory)
      (free : d'.node? (storage.file d') ≠ some .directory)
      (held : storage.content (d'.put (storage.file d') (.file part)) = some part) :
      Saved storage d s (.error e, d'.put (storage.file d') (.file part))

theorem saved (sound : d.Sound) (down : ".." ∉ Disk.segments storage.root) (s : Settings) :
    Saved storage d s (storage.save d s) := by
  have grown := Disk.grown_makeDirectories sound down
  have told := (Disk.added_makeDirectories (d := d) storage.root).stops
  unfold Storage.save Storage.set
  rw [pathOf_settingsKey]
  dsimp only
  generalize d.makeDirectories storage.root = made at grown told ⊢
  rcases made with ⟨f | ⟨⟨⟩⟩, between⟩
  · exact .failed _ grown (told ▸ List.suffix_rfl) (Disk.not_cutOff_of_stops told)
  · -- what is told of the writes to come is as it was before directories were made
    dsimp only at grown told ⊢
    have asBefore : ∀ stops, CutOff d (between.withStops stops) ↔
        CutOff between (between.withStops stops) := by
      intro stops
      rw [CutOff, CutOff, told]
    have wrote := Disk.wrote_writeText between (Disk.join storage.root exportName) s.encodeIndented
    generalize between.writeText (Disk.join storage.root exportName) _ = result at wrote ⊢
    cases wrote with
    | @refused f stops suffix uncut =>
        exact .failed _ (grown.withStops stops) (told ▸ suffix) ((asBefore stops).not.2 uncut)
    | @whole _ stops suffix uncut written =>
        have held := content_eq_some.2 (Disk.readBytes_of_writeBytes written)
        obtain ⟨parent, toParent, isDirectory, free, rfl⟩ :=
          Disk.writeBytes_join isName_exportName written
        obtain ⟨rfl, -⟩ := Disk.walk_ok down toParent
        exact .written (grown.withStops stops) (told ▸ suffix) ((asBefore stops).not.2 uncut)
          isDirectory free held
    | @cut f _ _ stops suffix isCut beginning written =>
        have held := content_eq_some.2 (Disk.readBytes_of_writeBytes written)
        obtain ⟨parent, toParent, isDirectory, free, rfl⟩ :=
          Disk.writeBytes_join isName_exportName written
        obtain ⟨rfl, -⟩ := Disk.walk_ok down toParent
        exact .cut _ (grown.withStops stops) (told ▸ suffix) ((asBefore stops).2 isCut) beginning
          isDirectory free held

/-! ## What becomes of the stored document -/

/-- What can become of the stored document when settings are saved or exported. -/
inductive Stores (storage : Storage) (d : Disk) : Option Settings → Disk → Prop where
  | kept {d' : Disk} (placed : Placed storage d')
      (same : storage.document d' = storage.document d) : Stores storage d none d'
  | saved {d' : Disk} (s : Settings) (placed : Placed storage d')
      (stored : storage.document d' = .ok s.encodeIndented) : Stores storage d (some s) d'
  /-- A beginning of a document takes its place. -/
  | cut {d' : Disk} {part : ByteArray} {text : String} (placed : Placed storage d')
      (isCut : CutOff d d') (held : storage.content d' = some part)
      (beginning : Beginning part text)
      (origin : (∃ s : Settings, text = s.encodeIndented) ∨ storage.document d = .ok text) :
      Stores storage d none d'

theorem Placed.content_put_file (placed : Placed storage d)
    (isDirectory : d.node? (d.spelled storage.root) = some .directory)
    (free : d.node? (storage.file d) ≠ some .directory) (bytes : ByteArray) :
    storage.content (d.put (storage.file d) (.file bytes)) = some bytes := by
  obtain ⟨location, read⟩ := placed.readable
  have after := placed.put isDirectory free bytes
  refine content_eq_some.2 ((Disk.readBytes_join_eq_ok after.sound after.plain isName_exportName
    (by decide) read).2 ?_)
  exact Disk.node?_put_self (by simp) _

/-- An export leaves the document as it is, or it is cut off. -/
theorem Placed.exportTo (placed : Placed storage d) (directory : String) :
    Stores storage d none (storage.exportTo d directory).2 := by
  have exported := storage.exported d directory
  generalize storage.exportTo d directory = result at exported ⊢
  -- whatever is put into another directory, the document is not told apart from before
  have elsewhere : ∀ {parent : Route} {stops : List (Option Stop)} {bytes : ByteArray},
      d.node? parent = some .directory → d.node? (parent ++ [exportName]) ≠ some .directory →
      parent ++ [exportName] ≠ storage.file d →
      Stores storage d none ((d.withStops stops).put (parent ++ [exportName]) (.file bytes)) := by
    intro parent stops bytes isDirectory free other
    have placed' := placed.withStops stops
    have same := placed'.get_put_other (d := d.withStops stops) isDirectory free bytes other
    exact .kept (placed'.put (d := d.withStops stops) isDirectory free bytes)
      (document_congr (same.trans (get_withStops stops storage d)))
  cases exported with
  | failed e suffix uncut =>
      exact .kept (placed.withStops _) (document_congr (get_withStops _ storage d))
  | @written stored parent stops path suffix uncut held isDirectory free =>
      by_cases same : parent ++ [exportName] = storage.file d
      · obtain ⟨rfl, -⟩ := List.append_inj' same rfl
        have placed' := placed.withStops stops
        have stored' := placed'.get_put_file (d := d.withStops stops) isDirectory free
          (stored.getD Settings.default.encodeIndented)
        exact .kept (placed'.put (d := d.withStops stops) isDirectory free _)
          ((document_of_text stored').trans (document_of_get held).symm)
      · exact elsewhere isDirectory free same
  | @cut stored parent stops part e suffix isCut held beginning isDirectory free =>
      by_cases same : parent ++ [exportName] = storage.file d
      · obtain ⟨rfl, -⟩ := List.append_inj' same rfl
        have placed' := placed.withStops stops
        exact .cut (placed'.put (d := d.withStops stops) isDirectory free _) isCut
          (placed'.content_put_file (d := d.withStops stops) isDirectory free _) beginning
          (.inr (document_of_get held))
      · exact elsewhere isDirectory free same

/-- The settings that a save has stored, if it succeeded. -/
def savedBy (s : Settings) : Except Error Unit → Option Settings
  | .ok () => some s
  | .error _ => none

/-- A save stores the settings, or it leaves the document as it is, or it is cut off. -/
theorem Placed.save (placed : Placed storage d) (s : Settings) :
    Stores storage d (savedBy s (storage.save d s).1) (storage.save d s).2 := by
  have saved := saved placed.sound placed.plain.down s
  generalize storage.save d s = result at saved ⊢
  cases saved with
  | failed e grown suffix uncut =>
      exact .kept (placed.grown grown) (document_congr (placed.get_grown grown))
  | written grown suffix uncut isDirectory free held =>
      exact .saved s ((placed.grown grown).put isDirectory free _)
        (document_of_text (get_text_iff.2 held))
  | cut e grown suffix isCut beginning isDirectory free held =>
      exact .cut ((placed.grown grown).put isDirectory free _) isCut held beginning (.inl ⟨s, rfl⟩)

/-- A write was cut off that has changed the stored document. -/
def Damaged (storage : Storage) (before after : Disk) : Prop :=
  CutOff before after ∧ storage.content after ≠ storage.content before

section

variable {d' : Disk} {saved? : Option Settings}

theorem Stores.placed (stores : Stores storage d saved? d') : Placed storage d' := by
  cases stores with
  | kept placed | saved _ placed | cut placed => exact placed

/-- What is loaded is what was saved, or what was loaded before, unless a write was cut off. -/
theorem Stores.loaded (stores : Stores storage d saved? d')
    (undamaged : saved? = none → ¬ Damaged storage d d') :
    storage.load d' = match saved? with
      | some s => .ok s
      | none => storage.load d := by
  cases stores with
  | kept placed same => exact load_congr same
  | saved s placed stored =>
      rw [load_eq, stored]
      dsimp only
      rw [Settings.decode_encodeIndented, Except.mapError]
  | cut placed isCut held beginning origin =>
      have same : storage.content d' = storage.content d :=
        Classical.not_not.1 fun other => undamaged rfl ⟨isCut, other⟩
      exact load_congr (document_congr (get_of_content (same ▸ held) held))

/-! ## What is left of a document -/

/-- Whatever beginning of the stored document is left, only good settings are loaded from it. -/
def Leaves (storage : Storage) (d : Disk) (good : Settings → Prop) : Prop :=
  ∀ front rest s, storage.document d = .ok (front ++ rest) →
    Settings.decode front = .ok s → good s

variable {good : Settings → Prop}

theorem document_of_load (loaded : storage.load d = .ok persisted) :
    ∃ text, storage.document d = .ok text ∧ Settings.decode text = .ok persisted := by
  obtain ⟨stored, held, decoded⟩ := load_eq_ok.1 loaded
  exact ⟨_, document_of_get held, decoded⟩

/-- Where settings are loaded, no beginning says anything else. -/
theorem leaves_of_load (loaded : storage.load d = .ok persisted) (isGood : good persisted) :
    Leaves storage d good := by
  intro front rest s held begins
  obtain ⟨text, held', decoded⟩ := document_of_load loaded
  obtain rfl := Except.ok.inj (held.symm.trans held')
  obtain ⟨same, -⟩ := Settings.decode_append begins decoded
  exact same ▸ isGood

theorem Leaves.of_load (leaves : Leaves storage d good) {s : Settings}
    (loaded : storage.load d = .ok s) : good s := by
  obtain ⟨text, held, decoded⟩ := document_of_load loaded
  exact leaves text "" s (held.trans (by rw [String.append_empty])) decoded

/-- The document is the text whose bytes are stored. -/
theorem text_of_document {bytes : ByteArray} {text : String}
    (held : storage.content d = some bytes) (said : storage.document d = .ok text) :
    bytes = text.toUTF8 := by
  unfold document at said
  cases got : storage.get d settingsKey with
  | error e =>
      rw [got] at said
      cases said
  | ok stored =>
      rw [got] at said
      obtain rfl := Except.ok.inj said
      cases stored with
      | none =>
          rw [get_eq_ok] at got
          have missing := Disk.readText_eq_missing.1 got
          rw [content_eq_some.1 held] at missing
          cases missing
      | some text => exact Option.some.inj (held.symm.trans (get_text_iff.1 got))

/-- A document that is left as it is leaves what it left before. -/
theorem Leaves.congr (leaves : Leaves storage d good)
    (same : storage.document d' = storage.document d) : Leaves storage d' good :=
  fun front rest s held => leaves front rest s (same ▸ held)

/-- Of a document that was cut off, less is left than of the whole. -/
theorem Leaves.of_cut (leaves : Leaves storage d good) {text : String} {part : ByteArray}
    (held : storage.content d' = some part) (beginning : Beginning part text)
    (origin : (∃ s : Settings, text = s.encodeIndented) ∨ storage.document d = .ok text) :
    Leaves storage d' good := by
  intro front rest s held' begins
  have reached := text_of_document held held'
  rw [reached] at beginning
  obtain ⟨more, filled, goesOn⟩ := beginning.append
  rw [String.append_assoc] at goesOn
  rcases origin with ⟨s', rfl⟩ | before
  · refine absurd begins (Settings.unread_beginning goesOn fun empty => filled ?_)
    exact (String.append_eq_empty_iff.1 empty).2
  · rw [goesOn] at before
    exact leaves front (rest ++ more) s before begins

theorem Stores.leaves (stores : Stores storage d saved? d') (leaves : Leaves storage d good)
    (isGood : ∀ s ∈ saved?, good s) : Leaves storage d' good := by
  cases stores with
  | kept placed same => exact leaves.congr same
  | saved s placed stored =>
      have stores : Stores storage d (some s) d' := .saved s placed stored
      exact leaves_of_load (stores.loaded nofun) (isGood s rfl)
  | cut placed isCut held beginning origin => exact leaves.of_cut held beginning origin

end

end Storage

end ThemeEditor
