/-
# ThemeEditor.Proofs.Storage.Key -- keys, and the names of their files

A key is short and holds only letters, digits, `-` and `_` (`IsKey`); everything
else is refused before anything is looked at (`keyFault?_eq_none_iff`).  What is
put behind a key to get the name of its file makes it a name that leads down and
that the disk holds (`isName_fileName`, `fits_fileName`), and two keys never have
one file (`fileName_injective`).
-/
import Mathlib.Tactic.Tauto
import ThemeEditor.Proofs.Disk.Walk
import ThemeEditor.Storage.Basic

namespace ThemeEditor.Storage

set_option autoImplicit false

open Disk (IsName)

variable {key : String}

/-- A text that may be a key. -/
structure IsKey (key : String) : Prop where
  nonempty : key ≠ ""
  short : key.utf8ByteSize ≤ maxKeySize
  plain : ∀ c ∈ key.toList, c.isAlphanum = true ∨ c = '-' ∨ c = '_'

theorem isKeyChar_iff {c : Char} :
    isKeyChar c = true ↔ c.isAlphanum = true ∨ c = '-' ∨ c = '_' := by
  have spelled : c.isAlphanum = (decide ('A' ≤ c ∧ c ≤ 'Z') || ('a' ≤ c && c ≤ 'z') ||
      ('0' ≤ c && c ≤ '9')) := rfl
  rw [spelled]
  simp only [isKeyChar, Bool.or_eq_true, Bool.and_eq_true, decide_eq_true_eq]
  tauto

/-- Nothing but the keys passes the check. -/
theorem keyFault?_eq_none_iff : keyFault? key = none ↔ IsKey key := by
  have letters : key.toList.all isKeyChar = true ↔
      ∀ c ∈ key.toList, c.isAlphanum = true ∨ c = '-' ∨ c = '_' := by
    simp only [List.all_eq_true, isKeyChar_iff]
  unfold keyFault?
  split
  · next empty => exact ⟨nofun, fun isKey => absurd empty isKey.nonempty⟩
  · next nonempty =>
    split
    · next long => exact ⟨nofun, fun isKey => absurd long (Nat.not_lt.2 isKey.short)⟩
    · next short =>
      split
      · next plain => exact ⟨fun _ => ⟨nonempty, Nat.not_lt.1 short, letters.1 plain⟩, fun _ => rfl⟩
      · next other => exact ⟨nofun, fun isKey => absurd (letters.2 isKey.plain) other⟩

theorem isKey_a : IsKey "a" := keyFault?_eq_none_iff.1 rfl

/-- The name of the file of a key. -/
def fileName (key : String) : String :=
  key ++ ".json"

theorem pathOf_of_isKey (storage : Storage) (isKey : IsKey key) :
    storage.pathOf key = .ok (Disk.join storage.root (fileName key)) := by
  rw [pathOf, keyFault?_eq_none_iff.2 isKey]
  rfl

theorem pathOf_of_not_isKey (storage : Storage) (noKey : ¬ IsKey key) :
    ∃ reason, storage.pathOf key = .error (.invalidKey key reason) := by
  unfold pathOf
  split
  · next valid => exact absurd (keyFault?_eq_none_iff.1 valid) noKey
  · next reason _ => exact ⟨reason, rfl⟩

theorem toList_fileName (key : String) :
    (fileName key).toList = key.toList ++ ['.', 'j', 's', 'o', 'n'] := by
  rw [fileName, String.toList_append]
  rfl

theorem fileName_injective : Function.Injective fileName := by
  intro key other same
  have letters := congrArg String.toList same
  rw [toList_fileName, toList_fileName, List.append_left_inj] at letters
  exact String.toList_inj.1 letters

theorem mem_fileName (isKey : IsKey key) {c : Char} (member : c ∈ (fileName key).toList) :
    c.isAlphanum = true ∨ c = '-' ∨ c = '_' ∨ c = '.' := by
  rw [toList_fileName, List.mem_append] at member
  rcases member with inKey | inEnd
  · rcases isKey.plain c inKey with letter | dash | bar
    · exact .inl letter
    · exact .inr (.inl dash)
    · exact .inr (.inr (.inl bar))
  · have inEnd : c ∈ ['.', 'j', 's', 'o', 'n'] := inEnd
    simp only [List.mem_cons, List.not_mem_nil, or_false] at inEnd
    rcases inEnd with rfl | rfl | rfl | rfl | rfl
    · exact .inr (.inr (.inr rfl))
    all_goals exact .inl rfl

theorem isName_fileName (isKey : IsKey key) : IsName (fileName key) where
  noSlash := fun member => by
    have character := mem_fileName isKey member
    exact absurd character (by decide)
  steps := by
    have long : ∀ short : String, short.toList.length < 5 → fileName key ≠ short := by
      rintro short few rfl
      rw [toList_fileName, List.length_append] at few
      simp only [List.length_cons, List.length_nil] at few
      omega
    simp [Disk.isStay, long "" (by decide), long "." (by decide)]
  down := by
    intro same
    have letters := congrArg (fun name => name.toList.length) same
    simp only [toList_fileName, List.length_append, List.length_cons, List.length_nil] at letters
    have two : "..".toList.length = 2 := by decide
    omega

/-- No file of a key has a longer name. -/
theorem size_fileName (isKey : IsKey key) : (fileName key).utf8ByteSize ≤ 69 := by
  have five : ".json".utf8ByteSize = 5 := by decide
  have short := isKey.short
  rw [maxKeySize] at short
  rw [fileName, String.utf8ByteSize_append, five]
  omega

theorem fits_fileName (isKey : IsKey key) : (fileName key).utf8ByteSize ≤ Disk.maxNameSize := by
  have size := size_fileName isKey
  rw [Disk.maxNameSize]
  omega

theorem noNul_fileName (isKey : IsKey key) : '\x00' ∉ (fileName key).toList := fun member =>
  absurd (mem_fileName isKey member) (by decide)

end ThemeEditor.Storage
