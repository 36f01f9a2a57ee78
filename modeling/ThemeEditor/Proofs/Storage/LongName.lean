/-
# ThemeEditor.Proofs.Storage.LongName -- roots that cannot be made

A root may have a name that is longer than the disk holds.  While the directory
above that name is missing, nothing is found at the root and the built-in
settings are loaded (`load_of_missing`).  A save makes the missing directory and
then fails at the name (`save_of_missing`); from then on the name itself is
refused and nothing can be loaded (`load_of_made`).
-/
import ThemeEditor.Proofs.Storage.Persistence

namespace ThemeEditor

set_option autoImplicit false

open Disk (Route Location IsName)

namespace Storage

/-- A name that the disk holds, and one that it does not. -/
structure TooLong (first name : String) : Prop where
  isFirst : IsName first
  fits : first.utf8ByteSize ≤ Disk.maxNameSize
  isName : IsName name
  long : Disk.maxNameSize < name.utf8ByteSize
  /-- Both fit into one path. -/
  path : name.utf8ByteSize ≤ 3000
  noNul : '\x00' ∉ first.toList ++ name.toList

/-- A storage whose root is the second name below the first. -/
def below (first name : String) : Storage :=
  ⟨Disk.join first name⟩

theorem sound_made {d : Disk} {first : String} (sound : d.Sound)
    (gone : d.node? (d.current ++ [first]) = none) :
    (d.put (d.current ++ [first]) .directory).Sound :=
  sound.put sound.current (by simp [gone]) .directory

section

variable {first name : String} (tooLong : TooLong first name) {d : Disk}

include tooLong

theorem segments_below : Disk.segments (below first name).root = [first, name] := by
  rw [below, Disk.segments_join tooLong.isName, tooLong.isFirst.segments_eq]
  rfl

theorem start_below (d : Disk) : d.start (below first name).root = d.current := by
  rw [Disk.start, below, Disk.isAbsolute_join tooLong.isName, tooLong.isFirst.relative]
  rfl

theorem ofPath_below :
    Location.ofPath (below first name).root = .ok ⟨false, [first, name], false, false⟩ := by
  have fits : first.utf8ByteSize + 1 + name.utf8ByteSize ≤ Disk.maxPathSize := by
    have short := tooLong.fits
    have path := tooLong.path
    rw [Disk.maxNameSize] at short
    rw [Disk.maxPathSize]
    omega
  obtain ⟨location, read⟩ := Disk.readable_join tooLong.isName tooLong.noNul fits
  rw [below, read, Disk.ofPath_join tooLong.isName read, tooLong.isFirst.relative,
    tooLong.isFirst.segments_eq]
  rfl

/-- The names of such a root are none that a root may not have. -/
theorem names_below (other : first ≠ exportName) :
    ".." ∉ Disk.segments (below first name).root ∧
      exportName ∉ Disk.segments (below first name).root := by
  have other' : exportName ≠ name := by
    rintro rfl
    exact absurd tooLong.long (by decide)
  rw [segments_below tooLong]
  simp only [List.mem_cons, List.not_mem_nil, or_false, not_or]
  exact ⟨⟨Ne.symm tooLong.isFirst.down, Ne.symm tooLong.isName.down⟩, Ne.symm other, other'⟩

/-- The stored document is read by way of both names. -/
theorem readText_below {f : Disk.Fault}
    (failed : d.walk d.current [first, name, exportName] = .error f) :
    d.readText (Disk.join (below first name).root exportName) = .error f := by
  have noNul : '\x00' ∉ (below first name).root.toList ++ exportName.toList := by
    rw [List.mem_append, not_or]
    refine ⟨fun member => ?_, by decide⟩
    rcases Disk.mem_join tooLong.isName member with inFirst | slash | inName
    · exact tooLong.noNul (List.mem_append_left _ inFirst)
    · exact absurd slash (by decide)
    · exact tooLong.noNul (List.mem_append_right _ inName)
  have fits :
      (below first name).root.utf8ByteSize + 1 + exportName.utf8ByteSize ≤ Disk.maxPathSize := by
    have size := Disk.size_join tooLong.isName first
    have short := tooLong.fits
    have path := tooLong.path
    have thirteen : exportName.utf8ByteSize = 13 := by decide
    rw [Disk.maxNameSize] at short
    rw [below, thirteen, Disk.maxPathSize]
    dsimp only
    omega
  obtain ⟨location, read⟩ := Disk.readable_join isName_exportName noNul fits
  have steps : Disk.segments (below first name).root ++ [exportName] =
      [first, name, exportName] := by
    rw [segments_below tooLong]
    rfl
  rw [Disk.readText, Disk.readBytes_join isName_exportName read, start_below tooLong, steps,
    failed]

/-- A walk through both names leaves the first one behind. -/
theorem walk_first (sound : d.Sound) (rest : List String) :
    d.walk d.current (first :: rest) = d.walk (d.current ++ [first]) rest := by
  have fits : ¬ Disk.maxNameSize < first.utf8ByteSize := Nat.not_lt.2 tooLong.fits
  simp only [Disk.walk, sound.current, tooLong.isFirst.down, fits, if_false]

theorem walk_second {here : Route} (isDirectory : d.node? here = some .directory)
    (rest : List String) : d.walk here (name :: rest) = .error .nameTooLong := by
  simp only [Disk.walk, isDirectory, tooLong.isName.down, tooLong.long, if_false, if_true]

/-- Below a directory that is missing nothing is stored. -/
theorem load_of_missing (sound : d.Sound) (gone : d.node? (d.current ++ [first]) = none) :
    (below first name).load d = .ok .default := by
  have missing : d.readText (Disk.join (below first name).root exportName) = .error .notFound := by
    refine readText_below tooLong ?_
    rw [walk_first tooLong sound]
    simp only [Disk.walk, gone]
  rw [load_eq_ok]
  exact ⟨none, (get_eq_ok _).2 missing, Settings.decode_encodeIndented _⟩

/-- The first directory can be made, and the second one cannot. -/
theorem makeDirectories_of_missing (sound : d.Sound)
    (gone : d.node? (d.current ++ [first]) = none) :
    d.makeDirectories (below first name).root =
      (.error .nameTooLong, d.put (d.current ++ [first]) .directory) := by
  let location : Location := ⟨false, [first, name], false, false⟩
  have missing : d.makeDirectoryAt (location.upTo (1 + 1)) = .error .notFound := by
    have led : d.routeOf (location.upTo (1 + 1)) = .error .notFound := by
      refine (walk_first tooLong sound [name]).trans ?_
      simp only [Disk.walk, gone]
    rw [Disk.makeDirectoryAt, led]
    rfl
  have made : d.makeAll location 1 = (.ok (), d.put (d.current ++ [first]) .directory) := by
    have led : d.routeOf (location.upTo 1) = .ok (d.current ++ [first]) :=
      walk_first tooLong sound []
    have one : d.makeDirectoryAt (location.upTo 1) =
        .ok (d.put (d.current ++ [first]) .directory) := by
      rw [Disk.makeDirectoryAt, led]
      simp only [bind, Except.bind, gone]
      rfl
    rw [Disk.makeAll, one]
  have refused : (d.put (d.current ++ [first]) .directory).routeOf (location.upTo (1 + 1)) =
      .error .nameTooLong := by
    have there := Disk.node?_put_self (d := d) (by simp : d.current ++ [first] ≠ []) .directory
    exact (walk_first tooLong (sound_made sound gone) [name]).trans (walk_second tooLong there [])
  have ne : (below first name).root ≠ "" := Disk.join_ne_empty tooLong.isName first
  rw [Disk.makeDirectories, if_neg ne, ofPath_below tooLong]
  refine (Disk.makeAll_of_missing missing made).trans ?_
  rw [Disk.ensureDirectoryAt, Disk.makeDirectoryAt, Disk.holdsDirectory, refused]
  rfl

/-- A save makes the missing directory and then fails. -/
theorem save_of_missing (sound : d.Sound) (gone : d.node? (d.current ++ [first]) = none)
    (s : Settings) : (below first name).save d s =
      (.error (.createDirectory (below first name).root .nameTooLong),
        d.put (d.current ++ [first]) .directory) := by
  rw [save, set, pathOf_settingsKey]
  dsimp only
  rw [makeDirectories_of_missing tooLong sound gone]

/-- In a directory that is there the name is refused. -/
theorem load_of_made (sound : d.Sound) (made : d.node? (d.current ++ [first]) = some .directory) :
    (below first name).load d =
      .error (.read (Disk.join (below first name).root exportName) .nameTooLong) := by
  have refused : d.readText (Disk.join (below first name).root exportName) =
      .error .nameTooLong := by
    refine readText_below tooLong ?_
    rw [walk_first tooLong sound]
    exact walk_second tooLong made _
  rw [load, get, pathOf_settingsKey]
  dsimp only
  rw [refused]

end

end Storage

end ThemeEditor
