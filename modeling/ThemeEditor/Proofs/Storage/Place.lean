/-
# ThemeEditor.Proofs.Storage.Place -- where the settings of a storage lie

The settings of a storage are one file below its root.  `Placed` says of a disk
that this file can be reached and that no export can get between it and the
root: what has the name of an exported document on the way to the root is a
directory.

What is stored depends on two things, the file and the files on the way to it.
Neither changes when directories are made on the way, when a document is written
somewhere else, or when the disk changes away from the storage
(`Placed.get_grown`, `Placed.get_put_other`, `Placed.get_apart`).  What is told of the
writes to come plays no part (`get_withStops`).
-/
import ThemeEditor.Proofs.Disk.Added
import ThemeEditor.Proofs.Disk.File
import ThemeEditor.Proofs.Disk.Stopping
import ThemeEditor.Storage.Settings

namespace ThemeEditor

set_option autoImplicit false

open Disk (Route Location Plain IsName Grown)

namespace Storage

variable {storage : Storage} {d d' : Disk}

theorem isName_exportName : IsName exportName where
  noSlash := by decide
  steps := by decide
  down := by decide

/-- The stored document has the name of an exported one. -/
theorem pathOf_settingsKey (storage : Storage) :
    storage.pathOf settingsKey = .ok (Disk.join storage.root exportName) := rfl

/-- The route of the stored document. -/
def file (storage : Storage) (d : Disk) : Route :=
  d.spelled storage.root ++ [exportName]

/-- The stored document can be reached, and no other document lies on the way to it. -/
structure Placed (storage : Storage) (d : Disk) : Prop where
  sound : d.Sound
  plain : Plain storage.root
  readable : ∃ location, Location.ofPath (Disk.join storage.root exportName) = .ok location
  clear : ∀ parent, parent ++ [exportName] <+: d.spelled storage.root →
    d.node? (parent ++ [exportName]) = some .directory

/-! ## The stored text -/

theorem get_eq_ok (storage : Storage) {d : Disk} {stored : Option String} :
    storage.get d settingsKey = .ok stored ↔
      match stored with
      | some text => d.readText (Disk.join storage.root exportName) = .ok text
      | none => d.readText (Disk.join storage.root exportName) = .error .notFound := by
  rw [get, pathOf_settingsKey]
  dsimp only
  rcases d.readText (Disk.join storage.root exportName) with f | text
  · cases stored <;> cases f <;> simp
  · cases stored <;> simp

/-- What is stored depends on the bytes of the document alone. -/
theorem get_congr (same : d'.readBytes (Disk.join storage.root exportName) =
      d.readBytes (Disk.join storage.root exportName)) :
    storage.get d' settingsKey = storage.get d settingsKey := by
  rw [get, get, pathOf_settingsKey]
  simp only [Disk.readText, same]

/-- The bytes of the stored document, if they can be reached. -/
def content (storage : Storage) (d : Disk) : Option ByteArray :=
  (d.readBytes (Disk.join storage.root exportName)).toOption

theorem content_eq_some {bytes : ByteArray} : storage.content d = some bytes ↔
    d.readBytes (Disk.join storage.root exportName) = .ok bytes := by
  unfold content
  cases d.readBytes (Disk.join storage.root exportName) <;> simp [Except.toOption]

/-- What is got are the bytes of the document. -/
theorem get_text_iff {text : String} : storage.get d settingsKey = .ok (some text) ↔
    storage.content d = some text.toUTF8 := by
  rw [get_eq_ok, content_eq_some]
  exact Disk.readText_eq_ok

/-- Documents that can be reached are got alike if they have the same bytes. -/
theorem get_of_content {bytes : ByteArray} (held : storage.content d = some bytes)
    (held' : storage.content d' = some bytes) :
    storage.get d' settingsKey = storage.get d settingsKey :=
  get_congr ((content_eq_some.1 held').trans (content_eq_some.1 held).symm)

/-- Where something else is got, the bytes are others. -/
theorem content_ne {bytes : ByteArray} (held : storage.content d = some bytes)
    (other : storage.get d' settingsKey ≠ storage.get d settingsKey) :
    storage.content d' ≠ storage.content d :=
  fun same => other (get_of_content held (same.trans held))

/-! ## The stops of the disk -/

section

variable (stops : List (Option Disk.Stop))

@[simp] theorem content_withStops (storage : Storage) (d : Disk) :
    storage.content (d.withStops stops) = storage.content d := by
  rw [content, Disk.readBytes_withStops, content]

@[simp] theorem get_withStops (storage : Storage) (d : Disk) :
    storage.get (d.withStops stops) settingsKey = storage.get d settingsKey :=
  get_congr (Disk.readBytes_withStops d stops _)

@[simp] theorem load_withStops (storage : Storage) (d : Disk) :
    storage.load (d.withStops stops) = storage.load d := by
  rw [load, get_withStops, load]

theorem Placed.withStops (placed : Placed storage d) : Placed storage (d.withStops stops) where
  sound := placed.sound.withStops stops
  plain := placed.plain
  readable := placed.readable
  clear := placed.clear

end

/-- Where the directories can be made, settings are saved by writing the document. -/
theorem save_of_made {between : Disk} (made : d.makeDirectories storage.root = (.ok (), between))
    (s : Settings) :
    storage.save d s =
      match between.writeText (Disk.join storage.root exportName) s.encodeIndented with
      | (.ok (), d') => (.ok (), d')
      | (.error f, d') => (.error (.write (Disk.join storage.root exportName) f), d') := by
  unfold save set
  generalize d.makeDirectories storage.root = result at made ⊢
  subst made
  rfl

/-- Storing a text uses up at most what is told of its write. -/
theorem stops_set (storage : Storage) (d : Disk) (key value : String) :
    (storage.set d key value).2.stops <:+ d.stops := by
  have told := (Disk.added_makeDirectories (d := d) storage.root).stops
  unfold set
  split
  · exact List.suffix_rfl
  · split
    · next failed =>
      rw [failed] at told
      exact told ▸ List.suffix_rfl
    · next path _ _ between made =>
      rw [made] at told
      have left := Disk.stops_writeText between path value
      split
      · next written =>
        rw [written] at left
        exact told ▸ left
      · next failed =>
        rw [failed] at left
        exact told ▸ left

/-! ## Stored texts -/

/-- A text is stored exactly when the file holds it. -/
theorem Placed.get_eq_some (placed : Placed storage d) {text : String} :
    storage.get d settingsKey = .ok (some text) ↔
      d.node? (storage.file d) = some (.file text.toUTF8) := by
  obtain ⟨location, read⟩ := placed.readable
  rw [get_eq_ok]
  dsimp only
  rw [Disk.readText_eq_ok]
  exact Disk.readBytes_join_eq_ok placed.sound placed.plain isName_exportName (by decide) read

/-! ## Other places -/

/-- Directories on the way to the root are in nobody's way. -/
theorem Placed.grown (placed : Placed storage d)
    (grown : Grown d d' (d.spelled storage.root)) : Placed storage d' where
  sound := grown.sound
  plain := placed.plain
  readable := placed.readable
  clear := by
    intro parent below
    have same := Disk.spelled_congr grown.current storage.root
    have present := placed.clear parent (same ▸ below)
    rw [grown.kept (by simp [present]), present]

theorem Placed.get_grown (placed : Placed storage d)
    (grown : Grown d d' (d.spelled storage.root)) :
    storage.get d' settingsKey = storage.get d settingsKey :=
  get_congr (Disk.readBytes_grown placed.sound placed.plain isName_exportName (by decide) grown)

/-- The disk changed, but neither at the stored document nor on the way to it. -/
structure Apart (storage : Storage) (d d' : Disk) : Prop where
  sound : d'.Sound
  current : d'.current = d.current
  kept : ∀ p, p <+: storage.file d → d'.node? p = d.node? p

theorem Placed.apart (placed : Placed storage d) (apart : Apart storage d d') :
    Placed storage d' where
  sound := apart.sound
  plain := placed.plain
  readable := placed.readable
  clear := by
    intro parent below
    have same := Disk.spelled_congr apart.current storage.root
    rw [same] at below
    rw [apart.kept _ (below.trans (List.prefix_append _ _))]
    exact placed.clear parent below

/-- What happens away from a storage does not change what is stored. -/
theorem Placed.get_apart (placed : Placed storage d) (apart : Apart storage d d') :
    storage.get d' settingsKey = storage.get d settingsKey := by
  have kept : ∀ p, p <+: d.spelled storage.root → d'.node? p = d.node? p :=
    fun p onWay => apart.kept p (onWay.trans (List.prefix_append _ _))
  exact get_congr (Disk.readBytes_congr placed.sound apart.sound apart.current placed.plain
    isName_exportName (by decide) (Disk.hasFile_congr kept) (apart.kept _ List.prefix_rfl))

section Put

variable {parent : Route} (isDirectory : d.node? parent = some .directory)
  (free : d.node? (parent ++ [exportName]) ≠ some .directory) (bytes : ByteArray)

include isDirectory free

/-- A document may be written into any directory. -/
theorem Placed.put (placed : Placed storage d) :
    Placed storage (d.put (parent ++ [exportName]) (.file bytes)) where
  sound := placed.sound.put isDirectory free _
  plain := placed.plain
  readable := placed.readable
  clear := by
    intro p below
    have present := placed.clear p below
    have other : p ++ [exportName] ≠ parent ++ [exportName] := fun same => free (same ▸ present)
    rw [Disk.node?_put (by simp), if_neg other]
    exact present

/-- A document written elsewhere is not the stored one. -/
theorem Placed.get_put_other (placed : Placed storage d)
    (other : parent ++ [exportName] ≠ storage.file d) :
    storage.get (d.put (parent ++ [exportName]) (.file bytes)) settingsKey =
      storage.get d settingsKey := by
  have after := placed.put isDirectory free bytes
  refine get_congr (Disk.readBytes_congr placed.sound after.sound rfl placed.plain
    isName_exportName (by decide) (Disk.hasFile_congr fun p onWay => ?_) ?_)
  · have apart : p ≠ parent ++ [exportName] := by
      rintro rfl
      exact free (placed.clear parent onWay)
    rw [Disk.node?_put (by simp), if_neg apart]
  · rw [Disk.node?_put (by simp), if_neg]
    exact Ne.symm other

end Put

/-- What is written into the file is stored. -/
theorem Placed.get_put_file (placed : Placed storage d)
    (isDirectory : d.node? (d.spelled storage.root) = some .directory)
    (free : d.node? (storage.file d) ≠ some .directory) (text : String) :
    storage.get (d.put (storage.file d) (.file text.toUTF8)) settingsKey = .ok (some text) := by
  have sameFile :
      storage.file (d.put (storage.file d) (.file text.toUTF8)) = storage.file d := rfl
  have after : Placed storage (d.put (storage.file d) (.file text.toUTF8)) :=
    placed.put isDirectory free _
  rw [after.get_eq_some, sameFile, Disk.node?_put_self (by simp [file])]

end Storage

end ThemeEditor
