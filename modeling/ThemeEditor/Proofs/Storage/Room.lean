/-
# ThemeEditor.Proofs.Storage.Room -- roots that leave no room for keys

A path may not be longer than the disk allows.  A root of many directories below
each other (`deep`) can be a directory itself (`standing_deep`, `readable_deep`)
while the file of a key below it has a path that is too long.  Whatever is on the
disk, nothing can then be found under the key (`get_of_no_room`).
-/
import ThemeEditor.Proofs.Disk.Directory
import ThemeEditor.Proofs.Storage.Key

namespace ThemeEditor.Storage

set_option autoImplicit false

open Disk (Location IsName Standing join)

theorem isName_a : IsName "a" where
  noSlash := by decide
  steps := by decide
  down := by decide

/-- A path of `n + 1` directories below each other. -/
def deep : Nat → String
  | 0 => "a"
  | n + 1 => join (deep n) "a"

theorem segments_deep (n : Nat) : Disk.segments (deep n) = List.replicate (n + 1) "a" := by
  induction n with
  | zero => exact isName_a.segments_eq
  | succ n ih => rw [deep, Disk.segments_join isName_a, ih, ← List.replicate_succ']

theorem relative_deep (n : Nat) : Disk.isAbsolute (deep n) = false := by
  induction n with
  | zero => rfl
  | succ n ih => rw [deep, Disk.isAbsolute_join isName_a, ih]

theorem noNul_deep (n : Nat) : '\x00' ∉ (deep n).toList := by
  induction n with
  | zero => decide
  | succ n ih =>
      refine Disk.noNul_join isName_a ?_
      rw [List.mem_append, not_or]
      exact ⟨ih, by decide⟩

/-- The names are kept apart by slashes. -/
theorem deep_succ (n : Nat) : deep (n + 1) = deep n ++ "/a" := by
  have last : ∀ n, (deep n).toList.getLast? = some 'a' ∧ deep n ≠ "" := by
    intro n
    induction n with
    | zero => exact ⟨by decide, by decide⟩
    | succ n ih =>
        have joined : deep (n + 1) = deep n ++ "/" ++ "a" := by
          rw [deep, join, isName_a.relative]
          simp [ih.1, ih.2]
        rw [joined]
        have one : "a".toList = ['a'] := by decide
        refine ⟨by rw [String.toList_append, one, List.getLast?_concat], ?_⟩
        intro empty
        have letters := congrArg String.toList empty
        rw [String.toList_append, one] at letters
        simp at letters
  rw [deep, join, isName_a.relative]
  simp [(last n).1, (last n).2, String.append_assoc]

theorem size_deep (n : Nat) : (deep n).utf8ByteSize = 2 * n + 1 := by
  induction n with
  | zero => decide
  | succ n ih =>
      have two : "/a".utf8ByteSize = 2 := by decide
      rw [deep_succ, String.utf8ByteSize_append, ih, two]
      omega

theorem readable_deep (n : Nat) (short : 2 * (n + 1) + 1 ≤ Disk.maxPathSize) :
    ∃ location, Location.ofPath (deep (n + 1)) = .ok location := by
  have size := size_deep (n + 1)
  refine Disk.readable_of_size isName_a ?_ (size ▸ short)
  rw [List.mem_append, not_or]
  exact ⟨noNul_deep n, by decide⟩

/-- A disk on which a path of many directories is there. -/
def deepDisk (n : Nat) : Disk :=
  { Disk.blank ("home" :: List.replicate (n + 1) "a") with current := ["home"] }

theorem sound_deepDisk (n : Nat) : (deepDisk n).Sound where
  inside := (Disk.sound_blank ("home" :: List.replicate (n + 1) "a")).inside
  current := by
    have home := Disk.node?_blank ("home" :: List.replicate (n + 1) "a") ["home"]
    rw [if_pos (by simp)] at home
    exact home

theorem spelled_deep (n : Nat) :
    (deepDisk n).spelled (deep n) = "home" :: List.replicate (n + 1) "a" := by
  rw [Disk.spelled, Disk.start, relative_deep, segments_deep]
  rfl

theorem standing_deep (n : Nat) : Standing (deepDisk n) (deep n) := by
  refine ⟨⟨?_, ?_⟩, ?_⟩
  · rw [segments_deep, List.mem_replicate]
    exact fun member => absurd member.2 (by decide)
  · intro name member
    rw [segments_deep, List.mem_replicate] at member
    rw [member.2]
    decide
  · have whole := Disk.node?_blank ("home" :: List.replicate (n + 1) "a")
      ("home" :: List.replicate (n + 1) "a")
    rw [if_pos List.prefix_rfl] at whole
    rw [spelled_deep]
    exact whole

/-- On a root without room for its file a key is not found, it is refused by the disk. -/
theorem get_of_no_room {storage : Storage} {key : String} (isKey : IsKey key) (d : Disk)
    (noNul : '\x00' ∉ storage.root.toList)
    (long : Disk.maxPathSize < (join storage.root (fileName key)).utf8ByteSize) :
    storage.get d key = .error (.read (join storage.root (fileName key)) .nameTooLong) := by
  have noNul' : '\x00' ∉ (join storage.root (fileName key)).toList := by
    refine Disk.noNul_join (isName_fileName isKey) ?_
    rw [List.mem_append, not_or]
    exact ⟨noNul, noNul_fileName isKey⟩
  have refused : d.readText (join storage.root (fileName key)) = .error .nameTooLong := by
    simp only [Disk.readText, Disk.readBytes, Disk.lookup, Disk.ofPath_of_long noNul' long, bind,
      Except.bind]
  rw [get, pathOf_of_isKey storage isKey]
  dsimp only
  rw [refused]

end ThemeEditor.Storage
