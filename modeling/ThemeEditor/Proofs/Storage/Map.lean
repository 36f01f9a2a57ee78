/-
# ThemeEditor.Proofs.Storage.Map -- a storage is a map from keys to texts

An access gets, sets or removes what stands under a key.  On a storage whose root
is a directory, or can be made one, and whose keys have texts or nothing behind
them, every run of accesses that is not stopped answers as a map would (`refines_map`).
Stopped or not, what is no key is refused and nothing is touched, one key says nothing
of another, and all that changes on the disk is the file of the key and the directories
that were missing on the way to the root.  It takes a disk without links: the files of two
keys are never one file, and none of them lies elsewhere.

`Performed` says all that one access can do and which files it leaves; what it keeps is
read off from that (`touched`, `answered`), and a run is one access after the other.

A path may not be longer than the disk allows.  A root can leave no room for the
file of a key, and then nothing is found under it (`no_room_for_key`).
-/
import Mathlib.Logic.Function.Basic
import ThemeEditor.Proofs.Storage.Place
import ThemeEditor.Proofs.Storage.Room

namespace ThemeEditor

set_option autoImplicit false

open Disk (Route Location Plain Grown HasFile Standing join)

namespace Storage

/-- What stands under each key. -/
abbrev Contents := String → Option String

/-- The bytes of the file of each key. -/
abbrev Files := String → Option ByteArray

/-- The files of some texts. -/
def filesOf (contents : Contents) : Files := fun key =>
  (contents key).map String.toUTF8

theorem filesOf_update (contents : Contents) (key : String) (value : Option String) :
    filesOf (Function.update contents key value) =
      Function.update (filesOf contents) key (value.map String.toUTF8) := by
  funext other
  by_cases same : other = key
  · rw [same, filesOf, Function.update_self, Function.update_self]
  · rw [filesOf, Function.update_of_ne same, Function.update_of_ne same, filesOf]

/-- An access to a storage. -/
inductive Access where
  | get (key : String)
  | set (key value : String)
  | remove (key : String)

/-- What an access answers. -/
inductive Reply where
  | found (text : Option String)
  | stored
  | removed (was : Bool)
  deriving DecidableEq

namespace Access

/-- The key that is accessed. -/
def key : Access → String
  | get key | set key _ | remove key => key

/-- An access to a storage on a disk: the answer, and the disk after it. -/
def perform (storage : Storage) (d : Disk) : Access → Except Error Reply × Disk
  | get key => ((storage.get d key).map .found, d)
  | set key value =>
      ((storage.set d key value).1.map fun _ => .stored, (storage.set d key value).2)
  | remove key => ((storage.remove d key).1.map .removed, (storage.remove d key).2)

/-- An access to a map: the answer, and the map after it.  What is no key is refused. -/
def answer (contents : Contents) (access : Access) : Except Error Reply × Contents :=
  match keyFault? access.key with
  | some reason => (.error (.invalidKey access.key reason), contents)
  | none =>
      match access with
      | get key => (.ok (.found (contents key)), contents)
      | set key value => (.ok .stored, Function.update contents key (some value))
      | remove key => (.ok (.removed (contents key).isSome), Function.update contents key none)

theorem answer_of_fault {contents : Contents} {access : Access} {reason : String}
    (fault : keyFault? access.key = some reason) :
    access.answer contents = (.error (.invalidKey access.key reason), contents) := by
  unfold answer
  rw [fault]

/-- The answers of a storage to some accesses. -/
def replies (storage : Storage) : Disk → List Access → List (Except Error Reply)
  | _, [] => []
  | d, access :: accesses =>
      (access.perform storage d).1 :: replies storage (access.perform storage d).2 accesses

/-- The disk after some accesses. -/
def after (storage : Storage) (d : Disk) (accesses : List Access) : Disk :=
  accesses.foldl (fun d access => (access.perform storage d).2) d

/-- The answers of a map to some accesses. -/
def answers : Contents → List Access → List (Except Error Reply)
  | _, [] => []
  | contents, access :: accesses =>
      (access.answer contents).1 :: answers (access.answer contents).2 accesses

end Access

/-! ## Storages that hold a map -/

variable {storage : Storage} {d d' : Disk} {contents : Contents} {files : Files} {key : String}

/-- The route of the file of a key. -/
def place (storage : Storage) (d : Disk) (key : String) : Route :=
  d.spelled storage.root ++ [fileName key]

/-- The texts of the files of a storage. -/
def texts (storage : Storage) (d : Disk) : Contents := fun key =>
  match d.node? (storage.place d key) with
  | some (.file bytes) => String.fromUTF8? bytes
  | _ => none

/-- Under each key of the storage lies its file, or nothing. -/
def Holds (storage : Storage) (d : Disk) (files : Files) : Prop :=
  ∀ key, IsKey key → d.node? (storage.place d key) = (files key).map .file

/-- The root is a directory or can be made one, and leaves room for the files of keys. -/
structure Serving (storage : Storage) (d : Disk) : Prop where
  sound : d.Sound
  plain : Plain storage.root
  readable : ∀ key, IsKey key →
    ∃ location, Location.ofPath (join storage.root (fileName key)) = .ok location
  clear : ¬ HasFile d (d.spelled storage.root)
  makeable : (d.makeDirectories storage.root).1 = .ok ()

/-- A storage serves where its root is a directory. -/
theorem serving_of_standing (sound : d.Sound) (standing : Standing d storage.root)
    (readable : ∀ key, IsKey key →
      ∃ location, Location.ofPath (join storage.root (fileName key)) = .ok location) :
    Serving storage d := by
  obtain ⟨location, read⟩ := readable "a" isKey_a
  have made := Disk.makeDirectories_of_walk (Disk.ofPath_of_join (isName_fileName isKey_a) read)
    (standing.walk sound) standing.isDirectory
  exact ⟨sound, standing.plain, readable, standing.clear sound, by rw [made]⟩

theorem place_ne_root (storage : Storage) (d : Disk) (key : String) :
    d.spelled storage.root ≠ storage.place d key := by
  intro same
  have length := congrArg List.length same
  simp [place] at length

theorem place_inj {other : String} (same : storage.place d other = storage.place d key) :
    other = key := by
  obtain ⟨-, names⟩ := List.append_inj' same rfl
  exact fileName_injective (List.singleton_inj.1 names)

theorem place_congr (current : d'.current = d.current) (key : String) :
    storage.place d' key = storage.place d key := by
  rw [place, place, Disk.spelled_congr current]

/-! ## One access -/

/-- What is got from a file. -/
def reading (storage : Storage) (key : String) : Option ByteArray → Except Error (Option String)
  | none => .ok none
  | some bytes =>
      match String.fromUTF8? bytes with
      | some text => .ok (some text)
      | none => .error (.read (join storage.root (fileName key)) .notText)

theorem reading_text (storage : Storage) (key : String) (text : Option String) :
    reading storage key (text.map String.toUTF8) = .ok text := by
  cases text with
  | none => rfl
  | some text =>
      rw [Option.map_some, reading, Disk.fromUTF8?_eq_some.2 rfl]

/-- What comes of an access to a storage with some files: the answer, the disk and the files after
it. -/
inductive Performed (storage : Storage) (d : Disk) (files : Files) :
    Access → Except Error Reply → Disk → Files → Prop where
  /-- What is no key is refused. -/
  | refused {access : Access} {reason : String} (fault : keyFault? access.key = some reason) :
      Performed storage d files access (.error (.invalidKey access.key reason)) d files
  | got {key : String} (isKey : IsKey key) : Performed storage d files (.get key)
      ((reading storage key (files key)).map .found) d files
  /-- The root is made if it is missing, and the file is written into it. -/
  | stored {key value : String} {d' : Disk} (isKey : IsKey key)
      (grown : Grown d d' (d.spelled storage.root)) (standing : Standing d' storage.root)
      (free : d'.node? (storage.place d key) ≠ some .directory) :
      Performed storage d files (.set key value) (.ok .stored)
        (d'.put (storage.place d key) (.file value.toUTF8))
        (Function.update files key (some value.toUTF8))
  /-- The root is made, and the file stays as it is. -/
  | unstored {key value : String} {d' : Disk} (e : Error) (isKey : IsKey key)
      (stopped : ¬ d.Ready) (grown : Grown d d' (d.spelled storage.root))
      (standing : Standing d' storage.root) :
      Performed storage d files (.set key value) (.error e) d' files
  /-- Only a beginning is written. -/
  | cut {key value : String} {d' : Disk} {part : ByteArray} (e : Error) (isKey : IsKey key)
      (stopped : ¬ d.Ready) (grown : Grown d d' (d.spelled storage.root))
      (standing : Standing d' storage.root)
      (free : d'.node? (storage.place d key) ≠ some .directory)
      (beginning : Disk.Beginning part value) :
      Performed storage d files (.set key value) (.error e)
        (d'.put (storage.place d key) (.file part)) (Function.update files key (some part))
  | removed {key : String} {bytes : ByteArray} (isKey : IsKey key)
      (held : files key = some bytes) :
      Performed storage d files (.remove key) (.ok (.removed true))
        (d.erase (storage.place d key)) (Function.update files key none)
  | missed {key : String} (isKey : IsKey key) (held : files key = none) :
      Performed storage d files (.remove key) (.ok (.removed false)) d files

/-- Directories that are made on the way to the root take the place of no key. -/
theorem free_place (holds : Holds storage d files) (isKey : IsKey key)
    (grown : Grown d d' (d.spelled storage.root)) :
    d'.node? (storage.place d key) ≠ some .directory := by
  rw [place, grown.node?_beyond, ← place, holds key isKey]
  cases files key <;> simp

section

variable (serving : Serving storage d) (holds : Holds storage d files)

include serving holds

theorem get_of_serving (isKey : IsKey key) :
    storage.get d key = reading storage key (files key) := by
  obtain ⟨location, read⟩ := serving.readable key isKey
  have bytes := Disk.readBytes_of_clear serving.sound serving.plain (isName_fileName isKey)
    (fits_fileName isKey) read serving.clear
  rw [← place, holds key isKey] at bytes
  rw [get, pathOf_of_isKey storage isKey]
  dsimp only
  rw [Disk.readText, bytes]
  cases files key with
  | none => rfl
  | some bytes =>
      rw [reading]
      dsimp only [Option.map_some]
      cases String.fromUTF8? bytes <;> rfl

/-- When the root is a directory, the file of a key is written in its place. -/
theorem writeBytes_place (isKey : IsKey key) (grown : Grown d d' (d.spelled storage.root))
    (standing : Standing d' storage.root) (bytes : ByteArray) :
    d'.writeBytes (join storage.root (fileName key)) bytes =
      .ok (d'.put (storage.place d key) (.file bytes)) := by
  obtain ⟨location, read⟩ := serving.readable key isKey
  have sameRoot := Disk.spelled_congr grown.current storage.root
  have free : d'.node? (d'.spelled storage.root ++ [fileName key]) ≠ some .directory := by
    rw [sameRoot]
    exact free_place holds isKey grown
  rw [Disk.writeBytes_of_standing standing grown.sound (isName_fileName isKey)
    (fits_fileName isKey) read free bytes, sameRoot, place]

theorem performed_set (isKey : IsKey key) (value : String) :
    ∃ files', Performed storage d files (.set key value)
      ((Access.set key value).perform storage d).1 ((Access.set key value).perform storage d).2
      files' := by
  have down := serving.plain.down
  have grown := Disk.grown_makeDirectories serving.sound down
  have standing := Disk.standing_of_made serving.sound down serving.makeable
  have makeable := serving.makeable
  have told := (Disk.added_makeDirectories (d := d) storage.root).stops
  rw [Access.perform, set, pathOf_of_isKey storage isKey]
  dsimp only
  generalize d.makeDirectories storage.root = result at grown standing makeable told ⊢
  obtain ⟨result, d'⟩ := result
  dsimp only at grown standing makeable told
  subst makeable
  dsimp only
  have wrote := Disk.wrote_writeText d' (join storage.root (fileName key)) value
  generalize writing : d'.writeText (join storage.root (fileName key)) value = result at wrote ⊢
  cases wrote with
  | @refused f stops suffix uncut =>
      refine ⟨_, .unstored _ isKey (fun ready => ?_) (grown.withStops stops)
        (standing.withStops stops)⟩
      -- on a disk that is ready the text would be written
      have written := writeBytes_place serving holds isKey grown standing value.toUTF8
      have ready' : d'.Ready := by
        rw [Disk.Ready, told]
        exact ready
      cases writing.symm.trans (Disk.writeText_of_ready ready' written)
  | @whole after stops suffix uncut written =>
      have grown' := grown.withStops stops
      have standing' := standing.withStops stops
      cases written.symm.trans (writeBytes_place serving holds isKey grown' standing' _)
      exact ⟨_, .stored isKey grown' standing' (free_place holds isKey grown')⟩
  | @cut f after part stops suffix isCut beginning written =>
      have grown' := grown.withStops stops
      have standing' := standing.withStops stops
      cases written.symm.trans (writeBytes_place serving holds isKey grown' standing' _)
      refine ⟨_, .cut _ isKey (fun ready => ?_) grown' standing'
        (free_place holds isKey grown') beginning⟩
      rw [Disk.CutOff, told] at isCut
      exact ready.not_cutOff isCut

theorem performed_remove (isKey : IsKey key) :
    ∃ files', Performed storage d files (.remove key)
      ((Access.remove key).perform storage d).1 ((Access.remove key).perform storage d).2
      files' := by
  obtain ⟨location, read⟩ := serving.readable key isKey
  have removal := Disk.removeFile_of_clear serving.sound serving.plain (isName_fileName isKey)
    (fits_fileName isKey) read serving.clear
  rw [← place, holds key isKey] at removal
  rw [Access.perform, remove, pathOf_of_isKey storage isKey]
  dsimp only
  rw [removal]
  cases held : files key with
  | none => exact ⟨_, .missed isKey held⟩
  | some bytes => exact ⟨_, .removed isKey held⟩

/-- An access does what `Performed` says, and nothing else. -/
theorem performed (access : Access) : ∃ files', Performed storage d files access
    (access.perform storage d).1 (access.perform storage d).2 files' := by
  by_cases isKey : IsKey access.key
  · cases access with
    | get key =>
        have isKey : IsKey key := isKey
        rw [Access.perform, get_of_serving serving holds isKey]
        exact ⟨_, .got isKey⟩
    | set key value => exact performed_set serving holds isKey value
    | remove key => exact performed_remove serving holds isKey
  · cases fault : keyFault? access.key with
    | none => exact absurd (keyFault?_eq_none_iff.1 fault) isKey
    | some reason =>
        have path : storage.pathOf access.key = .error (.invalidKey access.key reason) := by
          rw [pathOf, fault]
        have refused : access.perform storage d = (.error (.invalidKey access.key reason), d) := by
          cases access with
          | get key =>
              rw [Access.key] at path
              rw [Access.perform, get, path]
              rfl
          | set key value =>
              rw [Access.key] at path
              rw [Access.perform, set, path]
              rfl
          | remove key =>
              rw [Access.key] at path
              rw [Access.perform, remove, path]
              rfl
        rw [refused]
        exact ⟨_, .refused fault⟩

end

/-! ## What an access touches -/

/-- All that changes is the file of a key, and directories that were missing on the way to
the root. -/
structure Confined (storage : Storage) (key : String) (d d' : Disk) : Prop where
  current : d'.current = d.current
  changed : ∀ route, d'.node? route ≠ d.node? route → route = storage.place d key ∨
    route <+: d.spelled storage.root ∧ d.node? route = none ∧ d'.node? route = some .directory

theorem Confined.refl (storage : Storage) (key : String) (d : Disk) : Confined storage key d d :=
  ⟨rfl, fun _ other => absurd rfl other⟩

/-- Directories that are made on the way to the root are no change to any key. -/
theorem confined_grown (key : String) (grown : Grown d d' (d.spelled storage.root)) :
    Confined storage key d d' := by
  refine ⟨grown.current, fun route changed => ?_⟩
  cases before : d.node? route with
  | some entry => exact absurd (grown.kept (by simp [before])) changed
  | none =>
      rw [before] at changed
      obtain ⟨entry, present⟩ := Option.ne_none_iff_exists'.1 changed
      obtain ⟨rfl, onWay⟩ := grown.made before present
      exact .inr ⟨onWay, rfl, present⟩

/-- The file of one key, and no other, is touched on a storage that goes on serving. -/
structure Touches (storage : Storage) (key : String) (d : Disk) (files : Files) (d' : Disk)
    (files' : Files) : Prop where
  serving : Serving storage d'
  holds : Holds storage d' files'
  others : ∀ other, other ≠ key → files' other = files other
  confined : Confined storage key d d'

/-- A file that is replaced or taken away changes what is held under its key alone. -/
theorem Holds.update {value : Option ByteArray} (holds : Holds storage d files)
    (current : d'.current = d.current)
    (node : ∀ other, IsKey other → d'.node? (storage.place d other) =
      if other = key then value.map .file else d.node? (storage.place d other)) :
    Holds storage d' (Function.update files key value) := by
  intro other isKey
  rw [place_congr current, node other isKey]
  by_cases same : other = key
  · rw [if_pos same, same, Function.update_self]
  · rw [if_neg same, Function.update_of_ne same, holds other isKey]

theorem touches_self (key : String) (serving : Serving storage d) (holds : Holds storage d files) :
    Touches storage key d files d files :=
  ⟨serving, holds, fun _ _ => rfl, .refl _ _ _⟩

theorem touches_grown (key : String) (serving : Serving storage d) (holds : Holds storage d files)
    (grown : Grown d d' (d.spelled storage.root)) (standing : Standing d' storage.root) :
    Touches storage key d files d' files := by
  refine ⟨serving_of_standing grown.sound standing serving.readable, fun other isKey => ?_,
    fun _ _ => rfl, confined_grown key grown⟩
  rw [place_congr grown.current, place, grown.node?_beyond, ← place, holds other isKey]

theorem touches_put (serving : Serving storage d) (holds : Holds storage d files)
    (grown : Grown d d' (d.spelled storage.root)) (standing : Standing d' storage.root)
    (free : d'.node? (storage.place d key) ≠ some .directory) (bytes : ByteArray) :
    Touches storage key d files (d'.put (storage.place d key) (.file bytes))
      (Function.update files key (some bytes)) := by
  have sameRoot := Disk.spelled_congr grown.current storage.root
  have notRoot : storage.place d key ≠ [] := by simp [place]
  refine ⟨?_, ?_, fun other different => Function.update_of_ne different _ _, grown.current, ?_⟩
  · have isDirectory := standing.isDirectory
    refine serving_of_standing ?_ ⟨standing.plain, ?_⟩ serving.readable
    · rw [sameRoot] at isDirectory
      exact grown.sound.put isDirectory free _
    · have here : (d'.put (storage.place d key) (.file bytes)).spelled storage.root =
          d'.spelled storage.root := rfl
      rw [here, Disk.node?_put notRoot, if_neg (sameRoot ▸ place_ne_root storage d key),
        isDirectory]
  · refine holds.update grown.current fun other _ => ?_
    rw [Disk.node?_put notRoot]
    by_cases same : other = key
    · rw [if_pos same, if_pos (by rw [same])]
      rfl
    · rw [if_neg same, if_neg fun places => same (place_inj places), place, grown.node?_beyond]
  · intro route changed
    by_cases same : route = storage.place d key
    · exact .inl same
    · rw [Disk.node?_put notRoot, if_neg same] at changed ⊢
      exact (confined_grown key grown).changed route changed

theorem touches_erase {bytes : ByteArray} (serving : Serving storage d)
    (holds : Holds storage d files) (isKey : IsKey key) (held : files key = some bytes) :
    Touches storage key d files (d.erase (storage.place d key))
      (Function.update files key none) := by
  have notRoot : storage.place d key ≠ [] := by simp [place]
  have file : d.node? (storage.place d key) = some (.file bytes) := by
    rw [holds key isKey, held]
    rfl
  refine ⟨?_, ?_, fun other different => Function.update_of_ne different _ _, rfl, ?_⟩
  · refine serving_of_standing (serving.sound.erase file) ⟨serving.plain, ?_⟩ serving.readable
    have here : (d.erase (storage.place d key)).spelled storage.root = d.spelled storage.root :=
      rfl
    have isDirectory := serving.sound.inside (show d.node? (storage.place d key) ≠ none by
      simp [file])
    rw [here, Disk.node?_erase notRoot, if_neg (place_ne_root storage d key), isDirectory]
  · refine holds.update rfl fun other _ => ?_
    rw [Disk.node?_erase notRoot]
    by_cases same : other = key
    · rw [if_pos same, if_pos (by rw [same])]
      rfl
    · rw [if_neg same, if_neg fun places => same (place_inj places)]
  · intro route changed
    by_cases same : route = storage.place d key
    · exact .inl same
    · rw [Disk.node?_erase notRoot, if_neg same] at changed
      exact absurd rfl changed

/-- Whatever is accessed, one key is touched at most. -/
theorem touched {access : Access} {reply : Except Error Reply} {files' : Files}
    (serving : Serving storage d) (holds : Holds storage d files)
    (performed : Performed storage d files access reply d' files') :
    Touches storage access.key d files d' files' := by
  cases performed with
  | refused fault => exact touches_self _ serving holds
  | got isKey => exact touches_self _ serving holds
  | stored isKey grown standing free => exact touches_put serving holds grown standing free _
  | unstored e isKey stopped grown standing => exact touches_grown _ serving holds grown standing
  | cut e isKey stopped grown standing free => exact touches_put serving holds grown standing free _
  | removed isKey held => exact touches_erase serving holds isKey held
  | missed isKey held => exact touches_self _ serving holds

/-- On a disk that is ready, what is accessed is answered as by the map. -/
theorem answered {access : Access} {reply : Except Error Reply} {files' : Files}
    (ready : d.Ready) (performed : Performed storage d (filesOf contents) access reply d' files') :
    reply = (access.answer contents).1 ∧ files' = filesOf (access.answer contents).2 := by
  have valid : ∀ {key : String}, IsKey key → keyFault? key = none := keyFault?_eq_none_iff.2
  cases performed with
  | refused fault =>
      rw [Access.answer_of_fault fault]
      exact ⟨rfl, rfl⟩
  | @got key isKey =>
      have valid : keyFault? (Access.get key).key = none := valid isKey
      rw [Access.answer, valid, filesOf, reading_text]
      exact ⟨rfl, rfl⟩
  | @stored key value _ isKey grown standing free =>
      have valid : keyFault? (Access.set key value).key = none := valid isKey
      rw [Access.answer, valid]
      exact ⟨rfl, (filesOf_update contents key (some value)).symm⟩
  | unstored e isKey stopped => exact absurd ready stopped
  | cut e isKey stopped => exact absurd ready stopped
  | @removed key bytes isKey held =>
      have valid : keyFault? (Access.remove key).key = none := valid isKey
      have stands : (contents key).isSome = true := by
        rw [filesOf] at held
        cases there : contents key with
        | none =>
            rw [there] at held
            cases held
        | some text => rfl
      rw [Access.answer, valid]
      dsimp only
      rw [stands]
      exact ⟨rfl, (filesOf_update contents key none).symm⟩
  | @missed key isKey held =>
      have valid : keyFault? (Access.remove key).key = none := valid isKey
      have nothing : contents key = none := by
        rw [filesOf] at held
        cases there : contents key with
        | none => rfl
        | some text =>
            rw [there] at held
            cases held
      have unchanged : Function.update contents key none = contents := by
        rw [← nothing, Function.update_eq_self]
      rw [Access.answer, valid]
      dsimp only
      rw [unchanged, nothing]
      exact ⟨rfl, rfl⟩

/-! ## A run of accesses -/

theorem stops_remove (storage : Storage) (d : Disk) (key : String) :
    (storage.remove d key).2.stops = d.stops := by
  unfold remove
  split
  · rfl
  · split
    · next removed => exact Disk.stops_removeFile removed
    · rfl
    · rfl

theorem stops_perform (access : Access) :
    (access.perform storage d).2.stops <:+ d.stops := by
  cases access with
  | get key => exact List.suffix_rfl
  | set key value => exact stops_set storage d key value
  | remove key => exact (stops_remove storage d key).symm ▸ List.suffix_rfl

/-- A storage goes on serving, with the files that the run has left. -/
theorem serving_after : ∀ (accesses : List Access) {d : Disk} {files : Files},
    Serving storage d → Holds storage d files →
      Serving storage (Access.after storage d accesses) ∧
        ∃ files', Holds storage (Access.after storage d accesses) files'
  | [], _, files, serving, holds => ⟨serving, files, holds⟩
  | access :: accesses, _, _, serving, holds => by
      obtain ⟨files', one⟩ := performed serving holds access
      have next := touched serving holds one
      exact serving_after accesses next.serving next.holds

/-- Where nothing is stopped a storage that holds texts answers as their map does. -/
theorem answered_run : ∀ (accesses : List Access) {d : Disk} {contents : Contents},
    d.Steady → Serving storage d → Holds storage d (filesOf contents) →
      Access.replies storage d accesses = Access.answers contents accesses
  | [], _, _, _, _, _ => rfl
  | access :: accesses, d, contents, steady, serving, holds => by
      obtain ⟨files', one⟩ := performed serving holds access
      obtain ⟨reply, rfl⟩ := answered steady.ready one
      have next := touched serving holds one
      exact congrArg₂ List.cons reply (answered_run accesses
        (steady.of_suffix (stops_perform access)) next.serving next.holds)

/-- One access says nothing of other keys. -/
theorem get_other {files' : Files} {other : String} (serving : Serving storage d)
    (holds : Holds storage d files) (touches : Touches storage key d files d' files')
    (different : other ≠ key) : storage.get d' other = storage.get d other := by
  by_cases isKey : IsKey other
  · rw [get_of_serving touches.serving touches.holds isKey, get_of_serving serving holds isKey,
      touches.others other different]
  · obtain ⟨reason, refused⟩ := pathOf_of_not_isKey storage isKey
    rw [get, get, refused]

/-- A root that is a directory, or can be made one, serves when it leaves room for the files
of all keys. -/
theorem serving_of_root (sound : d.Sound) (down : ".." ∉ Disk.segments storage.root)
    (root : d.isDirectoryAt storage.root = true ∨ (d.makeDirectories storage.root).1 = .ok ())
    (room : ∀ key, IsKey key →
      (join storage.root (fileName key)).utf8ByteSize ≤ Disk.maxPathSize) :
    Serving storage d := by
  have noNul : '\x00' ∉ storage.root.toList := by
    rcases root with isDirectory | made
    · unfold Disk.isDirectoryAt Disk.lookup at isDirectory
      cases read : Location.ofPath storage.root with
      | ok location => exact Disk.noNul_of_ofPath read
      | error f =>
          rw [read] at isDirectory
          cases isDirectory
    · unfold Disk.makeDirectories at made
      split at made
      · next empty =>
        rw [empty]
        decide
      · split at made
        · cases made
        · next read => exact Disk.noNul_of_ofPath read
  have readable : ∀ key, IsKey key →
      ∃ location, Location.ofPath (join storage.root (fileName key)) = .ok location := by
    intro key isKey
    refine Disk.readable_of_size (isName_fileName isKey) ?_ (room key isKey)
    rw [List.mem_append, not_or]
    exact ⟨noNul, noNul_fileName isKey⟩
  rcases root with isDirectory | made
  · exact serving_of_standing sound (Disk.standing_of_isDirectoryAt down isDirectory) readable
  · have grown := Disk.grown_makeDirectories sound down
    have standing := Disk.standing_of_made sound down made
    have sameRoot := Disk.spelled_congr grown.current storage.root
    -- a file on the way would still be there when the directories are made
    have clear : ¬ HasFile d (d.spelled storage.root) := fun hasFile =>
      standing.clear grown.sound (sameRoot ▸ grown.hasFile_iff.2 hasFile)
    exact ⟨sound, standing.plain, readable, clear, made⟩

/-- Where no directory and no bytes that are no text have the name of a key's file, the
storage holds its texts. -/
theorem holds_texts (tidy : ∀ key, IsKey key → ∀ entry,
      d.node? (storage.place d key) = some entry → ∃ text : String, entry = .file text.toUTF8) :
    Holds storage d (filesOf (storage.texts d)) := by
  intro key isKey
  unfold filesOf texts
  cases found : d.node? (storage.place d key) with
  | none => rfl
  | some entry =>
      obtain ⟨text, rfl⟩ := tidy key isKey entry found
      simp only [Disk.fromUTF8?_eq_some.2 rfl, Option.map_some]

/-- A disk with one text in a storage. -/
def oneText : Disk :=
  ((Disk.blank ["home"]).put ["home", "notes"] .directory).put ["home", "notes", "a.json"]
    (.file "1".toUTF8)

theorem sound_oneText : oneText.Sound := by
  have notes : ((Disk.blank ["home"]).put (["home"] ++ ["notes"]) .directory).Sound :=
    (Disk.sound_blank ["home"]).put rfl (by decide) .directory
  have text : (((Disk.blank ["home"]).put ["home", "notes"] .directory).put
      (["home", "notes"] ++ ["a.json"]) (.file "1".toUTF8)).Sound := notes.put rfl (by decide) _
  exact text

/-- What stood there is found, replaced and removed once. -/
def lifecycle : List Access :=
  [.get "a", .set "a" "2", .set "../b" "3", .get "a", .remove "a", .remove "a", .get "a"]

theorem answers_lifecycle :
    Access.answers ((Storage.mk "notes").texts oneText) lifecycle =
      [.ok (.found (some "1")), .ok .stored,
        .error (.invalidKey "../b" ("Key contains invalid characters " ++
          "(only alphanumeric, hyphens, and underscores allowed)")),
        .ok (.found (some "2")), .ok (.removed true), .ok (.removed false), .ok (.found none)] :=
  rfl

/-- Where the root is a directory, but the path of a key's file is too long, the map has nothing
under the key and the storage fails. -/
theorem no_room {n : Nat} (short : 2 * (n + 1) + 1 ≤ Disk.maxPathSize)
    (long : Disk.maxPathSize < 2 * (n + 1) + 1 + (fileName "a").utf8ByteSize) :
    let storage : Storage := ⟨deep (n + 1)⟩
    let d := deepDisk (n + 1)
    d.Sound ∧ ".." ∉ Disk.segments storage.root ∧ d.isDirectoryAt storage.root = true ∧
      (∀ key, IsKey key → d.node? (storage.place d key) = none) ∧
      Access.answers (storage.texts d) [.get "a"] = [.ok (.found none)] ∧
      Access.replies storage d [.get "a"] =
        [.error (.read (join storage.root (fileName "a")) .nameTooLong)] := by
  intro storage d
  have sound : d.Sound := sound_deepDisk (n + 1)
  have standing : Standing d storage.root := standing_deep (n + 1)
  obtain ⟨location, read⟩ := readable_deep n short
  have free : ∀ key, IsKey key → d.node? (storage.place d key) = none := by
    intro key _
    have route : storage.place d key = "home" :: List.replicate (n + 2) "a" ++ [fileName key] := by
      rw [place, spelled_deep]
    have gone := Disk.node?_blank ("home" :: List.replicate (n + 2) "a") (storage.place d key)
    have longer : ¬ storage.place d key <+: "home" :: List.replicate (n + 2) "a" := by
      intro below
      have length := below.length_le
      rw [route] at length
      simp only [List.length_append, List.length_cons, List.length_nil] at length
      omega
    rw [if_neg longer] at gone
    exact gone
  have noRoom : Disk.maxPathSize < (join storage.root (fileName "a")).utf8ByteSize := by
    have least := Disk.le_size_join (isName_fileName isKey_a) storage.root
    rw [size_deep] at least
    exact Nat.lt_of_lt_of_le long least
  have nothing : storage.texts d "a" = none := by
    rw [texts, free "a" isKey_a]
  have answered : Access.answers (storage.texts d) [.get "a"] = [.ok (.found none)] := by
    have one : Access.answers (storage.texts d) [.get "a"] =
        [.ok (.found (storage.texts d "a"))] := rfl
    rw [one, nothing]
  have replied : Access.replies storage d [.get "a"] =
      [(storage.get d "a").map .found] := rfl
  have refused : storage.get d "a" =
      .error (.read (join storage.root (fileName "a")) .nameTooLong) :=
    get_of_no_room isKey_a d (noNul_deep (n + 1)) noRoom
  refine ⟨sound, standing.plain.down, standing.isDirectoryAt sound read, free, answered, ?_⟩
  rw [replied, refused]
  rfl

end Storage

end ThemeEditor
