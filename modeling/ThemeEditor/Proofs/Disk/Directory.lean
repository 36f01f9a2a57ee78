/-
# ThemeEditor.Proofs.Disk.Directory -- making a directory, and working in it

Where a path leads to a directory there is nothing to make
(`makeDirectories_of_walk`), and where its directories were made it leads to one
(`standing_of_made`).  In that directory a file can be written unless a directory
has its name (`writeBytes_of_standing`), and what is there can be removed
(`removeFile_of_clear`).
-/
import ThemeEditor.Proofs.Disk.File
import ThemeEditor.Proofs.Disk.Stopping

namespace ThemeEditor.Disk

set_option autoImplicit false

variable {d d' : Disk}

/-! ## Removing entries -/

theorem node?_erase {route : Route} (notRoot : route ≠ []) (r : Route) :
    (d.erase route).node? r = if r = route then none else d.node? r := by
  by_cases same : r = route
  · subst same
    simp [node?, erase, notRoot]
  · by_cases root : r = []
    · simp [node?, root, Ne.symm notRoot]
    · have kept : ∀ e : Route × Entry,
          (!decide (e.1 = route) && decide (e.1 = r)) = decide (e.1 = r) := by
        intro e
        by_cases h : e.1 = r <;> simp [h, same]
      simp [node?, erase, root, same, List.find?_filter, kept]

/-- A disk without one of its files is still sound. -/
theorem Sound.erase (sound : d.Sound) {route : Route} {bytes : ByteArray}
    (file : d.node? route = some (.file bytes)) : (d.erase route).Sound := by
  have notRoot : route ≠ [] := by
    rintro rfl
    cases file
  have isKept : ∀ {r}, d.node? r = some .directory → (d.erase route).node? r = some .directory := by
    intro r isDirectory
    have other : r ≠ route := by
      rintro rfl
      rw [file] at isDirectory
      cases isDirectory
    rw [node?_erase notRoot, if_neg other, isDirectory]
  refine ⟨fun present => ?_, isKept sound.current⟩
  rw [node?_erase notRoot] at present
  split at present
  · exact absurd rfl present
  · exact isKept (sound.inside present)

/-! ## Standing directories -/

/-- The path leads to a directory through names that the disk holds. -/
structure Standing (d : Disk) (path : String) : Prop where
  plain : Plain path
  isDirectory : d.node? (d.spelled path) = some .directory

theorem standing_of_isDirectoryAt {path : String} (down : ".." ∉ segments path)
    (isDirectory : d.isDirectoryAt path = true) : Standing d path :=
  have found := plain_of_isDirectoryAt down isDirectory
  ⟨found.1, found.2⟩

theorem Standing.withStops {path : String} (standing : Standing d path)
    (stops : List (Option Stop)) : Standing (d.withStops stops) path :=
  ⟨standing.plain, standing.isDirectory⟩

/-- Names below directories lead to the route they spell. -/
theorem walk_directories : ∀ {names : List String} {here : Route}, ".." ∉ names →
    (∀ name ∈ names, name.utf8ByteSize ≤ maxNameSize) →
    (∀ p, p <+: here ++ names → p ≠ here ++ names → d.node? p = some .directory) →
      d.walk here names = .ok (here ++ names)
  | [], here, _, _, _ => by rw [List.append_nil, walk]
  | name :: names, here, down, short, above => by
      have isDirectory := above here (List.prefix_append _ _) (by simp)
      have fits : ¬ maxNameSize < name.utf8ByteSize :=
        Nat.not_lt.2 (short name List.mem_cons_self)
      rw [List.mem_cons, not_or] at down
      rw [List.append_cons] at above ⊢
      simp only [walk, isDirectory, Ne.symm down.1, fits, if_false]
      exact walk_directories down.2 (fun n member => short n (List.mem_cons_of_mem name member))
        above

section

variable {path name : String} {location : Location}

theorem Standing.clear (standing : Standing d path) (sound : d.Sound) :
    ¬ HasFile d (d.spelled path) := by
  rintro ⟨p, bytes, onWay, file⟩
  by_cases same : p = d.spelled path
  · rw [same, standing.isDirectory] at file
    cases file
  · rw [sound.above onWay same (by simp [standing.isDirectory])] at file
    cases file

theorem Standing.walk (standing : Standing d path) (sound : d.Sound) :
    d.walk (d.start path) (segments path) = .ok (d.spelled path) :=
  walk_directories standing.plain.down standing.plain.short fun _ onWay other =>
    sound.above onWay other (by rw [← spelled, standing.isDirectory]; simp)

theorem Standing.isDirectoryAt (standing : Standing d path) (sound : d.Sound)
    (read : Location.ofPath path = .ok location) : d.isDirectoryAt path = true := by
  obtain ⟨steps, start⟩ := ofPath_ok (d := d) read
  have led : d.routeOf location = .ok (d.spelled path) := by
    rw [routeOf, steps, ← standing.walk sound, ← start]
    rfl
  rw [Disk.isDirectoryAt, lookup, read]
  simp only [bind, Except.bind, led, standing.isDirectory]
  rfl

/-- A name in a standing directory leads to what has the name there. -/
theorem Standing.walk_name (standing : Standing d path) (sound : d.Sound) (isName : IsName name)
    (fits : name.utf8ByteSize ≤ maxNameSize) :
    d.walk (d.start path) (segments path ++ [name]) = .ok (d.spelled path ++ [name]) := by
  have long : ¬ maxNameSize < name.utf8ByteSize := Nat.not_lt.2 fits
  rw [walk_append, standing.walk sound]
  simp only [Disk.walk, standing.isDirectory, isName.down, long, if_false]

/-- A file is written into a directory. -/
theorem writeBytes_of_standing (standing : Standing d path) (sound : d.Sound)
    (isName : IsName name) (fits : name.utf8ByteSize ≤ maxNameSize)
    (read : Location.ofPath (join path name) = .ok location)
    (free : d.node? (d.spelled path ++ [name]) ≠ some .directory) (bytes : ByteArray) :
    d.writeBytes (join path name) bytes =
      .ok (d.put (d.spelled path ++ [name]) (.file bytes)) := by
  have led := standing.walk_name sound isName fits
  obtain ⟨content, aimed⟩ : ∃ content,
      d.target (join path name) = .ok (d.spelled path ++ [name], content) := by
    rw [target, read, ofPath_join isName read]
    rw [start] at led
    simp only [bind, Except.bind, routeOf, led]
    generalize d.node? (d.spelled path ++ [name]) = found at free
    rcases found with _ | _ | bytes
    · exact ⟨_, rfl⟩
    · exact absurd rfl free
    · exact ⟨_, rfl⟩
  rw [writeBytes, aimed]

/-- What lies behind no file can be removed if it is one. -/
theorem removeFile_of_clear (sound : d.Sound) (plain : Plain path) (isName : IsName name)
    (fits : name.utf8ByteSize ≤ maxNameSize)
    (read : Location.ofPath (join path name) = .ok location)
    (clear : ¬ HasFile d (d.spelled path)) :
    d.removeFile (join path name) =
      match d.node? (d.spelled path ++ [name]) with
      | none => .error .notFound
      | some .directory => .error .isDirectory
      | some (.file _) => .ok (d.erase (d.spelled path ++ [name])) := by
  rw [removeFile]
  rcases lookup_of_clear sound plain isName fits read clear with found | ⟨missing, gone⟩
  · rw [found]
    rcases d.node? (d.spelled path ++ [name]) with _ | _ | _ <;> rfl
  · rw [missing, gone]

/-- A part of a path that can be read can be read. -/
theorem ofPath_of_part {front back : String}
    (read : Location.ofPath (front ++ path ++ back) = .ok location) (ne : path ≠ "") :
    ∃ location, Location.ofPath path = .ok location := by
  have size : path.utf8ByteSize ≤ (front ++ path ++ back).utf8ByteSize := by
    rw [String.utf8ByteSize_append, String.utf8ByteSize_append]
    omega
  have noNul := noNul_of_ofPath read
  unfold Location.ofPath at read ⊢
  split at read
  · cases read
  · split at read
    · cases read
    · split at read
      · cases read
      · next fits =>
        have noNul' : ¬ path.toList.contains '\x00' = true := by
          intro member
          exact noNul (by simp [List.contains_iff_mem.1 member])
        have fits' : ¬ maxPathSize < path.utf8ByteSize := by omega
        rw [if_neg noNul', if_neg ne, if_neg fits']
        exact ⟨_, rfl⟩

/-- The front of a path that can be read can be read. -/
theorem ofPath_of_join (isName : IsName name)
    (read : Location.ofPath (join path name) = .ok location) (ne : path ≠ "") :
    ∃ location, Location.ofPath path = .ok location := by
  have same : join path name = "" ++ path ++ (separator path ++ name) := by
    rw [join_of_relative isName.relative, String.empty_append, String.append_assoc]
  exact ofPath_of_part (same ▸ read) ne

/-! ## Making directories -/

/-- All the steps of a path that was read lead where the path does. -/
theorem routeOf_upTo (read : Location.ofPath path = .ok location) :
    d.routeOf (location.upTo location.segments.length) =
      d.walk (d.start path) (segments path) := by
  obtain ⟨steps, start⟩ := ofPath_ok (d := d) read
  have same : (location.upTo location.segments.length).segments = segments path := by
    rw [Location.upTo, List.take_length, steps]
  rw [routeOf, same]
  rw [Location.start] at start
  rw [← start]
  rfl

/-- Where a path leads to a directory, no directory has to be made. -/
theorem makeDirectories_of_walk {parent : Route}
    (read : path ≠ "" → ∃ location, Location.ofPath path = .ok location)
    (led : d.walk (d.start path) (segments path) = .ok parent)
    (isDirectory : d.node? parent = some .directory) : d.makeDirectories path = (.ok (), d) := by
  unfold makeDirectories
  split
  · rfl
  · next ne =>
    obtain ⟨location, read⟩ := read ne
    rw [read]
    dsimp only
    have reached : d.routeOf (location.upTo location.segments.length) = .ok parent :=
      (routeOf_upTo read).trans led
    -- the first attempt fails, and it is no fault: what is there is a directory
    have stands : d.makeDirectoryAt (location.upTo location.segments.length) =
        .error .alreadyExists := by
      simp only [makeDirectoryAt, reached, bind, Except.bind, isDirectory]
      rfl
    have holds : d.holdsDirectory (location.upTo location.segments.length) = true := by
      simp only [holdsDirectory, reached, isDirectory, decide_true]
    generalize location.segments.length = count at stands holds
    cases count with
    | zero =>
        rw [makeAll, ensureDirectoryAt, stands]
        simp only [holds, if_true, ite_self]
    | succ count =>
        rw [makeAll]
        simp only [stands, holds, if_true]

theorem makeDirectories_of_isDirectoryAt (isDirectory : d.isDirectoryAt path = true) :
    d.makeDirectories path = (.ok (), d) := by
  obtain ⟨location, route, read, led, there⟩ := walk_of_isDirectoryAt isDirectory
  exact makeDirectories_of_walk (fun _ => ⟨location, read⟩) led there

end

/-- A location that is a directory, reached through names that the disk holds. -/
structure Location.Made (d : Disk) (location : Location) : Prop where
  isDirectory : d.node? (location.start d ++ location.segments) = some .directory
  short : ∀ name ∈ location.segments, name.utf8ByteSize ≤ maxNameSize

section

variable {location : Location}

theorem made_of_makeDirectoryAt (down : ".." ∉ location.segments)
    (made : d.makeDirectoryAt location = .ok d') : location.Made d' := by
  unfold makeDirectoryAt at made
  simp only [bind, Except.bind, routeOf] at made
  split at made
  · cases made
  · next route led =>
    obtain ⟨same, short⟩ := walk_ok down led
    split at made
    · split at made <;> cases made
    · cases made
    · next missing =>
      split at made
      · cases made
      · cases made
        have notRoot : route ≠ [] := by
          rintro rfl
          cases missing
        refine ⟨?_, short⟩
        have here : location.start (d.put route .directory) ++ location.segments = route :=
          same.symm
        rw [here, node?_put_self notRoot]

theorem made_of_holdsDirectory (down : ".." ∉ location.segments)
    (holds : d.holdsDirectory location = true) : location.Made d := by
  unfold holdsDirectory routeOf at holds
  split at holds
  · next route led =>
    obtain ⟨same, short⟩ := walk_ok down led
    refine ⟨?_, short⟩
    have here : location.start d ++ location.segments = route := same.symm
    rw [here]
    exact of_decide_eq_true holds
  · cases holds

theorem made_of_ensureDirectoryAt (down : ".." ∉ location.segments)
    (done : (d.ensureDirectoryAt location).1 = .ok ()) :
    location.Made (d.ensureDirectoryAt location).2 := by
  unfold ensureDirectoryAt at done ⊢
  split
  · next made => exact made_of_makeDirectoryAt down made
  · next failed =>
    rw [failed] at done
    dsimp only at done
    split at done
    · next holds => exact made_of_holdsDirectory down holds
    · cases done

theorem made_of_makeAll (sound : d.Sound) (down : ".." ∉ location.segments) (count : Nat)
    (done : (d.makeAll location count).1 = .ok ()) :
    (location.upTo count).Made (d.makeAll location count).2 := by
  have downTo : ∀ n, ".." ∉ (location.upTo n).segments :=
    fun n member => down (List.mem_of_mem_take member)
  cases count with
  | zero =>
      have grown := grown_makeAll sound down List.prefix_rfl 0
      refine ⟨?_, by simp [Location.upTo]⟩
      have start := grown.sound.location_start (location.upTo 0)
      simpa [Location.upTo] using start
  | succ count =>
      unfold makeAll at done ⊢
      dsimp only at done ⊢
      split at done
      · next made => exact made_of_makeDirectoryAt (downTo _) made
      · split at done
        · cases done
        · exact made_of_ensureDirectoryAt (downTo _) done
      · split at done
        · next holds => exact made_of_holdsDirectory (downTo _) holds
        · cases done

end

/-- The directories of a path are there once they were made. -/
theorem standing_of_made (sound : d.Sound) {path : String} (down : ".." ∉ segments path)
    (done : (d.makeDirectories path).1 = .ok ()) : Standing (d.makeDirectories path).2 path := by
  unfold makeDirectories at done ⊢
  split at done
  · next empty =>
    subst empty
    have none : segments "" = [] := by decide
    refine ⟨⟨down, by simp [none]⟩, ?_⟩
    simpa [spelled, none, start, isAbsolute] using sound.current
  · next ne =>
    split at done
    · cases done
    · next location read =>
      obtain ⟨steps, -⟩ := ofPath_ok (d := d) read
      have made := made_of_makeAll sound (steps ▸ down) _ done
      have whole : (location.upTo location.segments.length).segments = segments path := by
        rw [Location.upTo, List.take_length, steps]
      rw [if_neg ne]
      refine ⟨⟨down, whole ▸ made.short⟩, ?_⟩
      obtain ⟨-, start⟩ := ofPath_ok (d := (d.makeAll location location.segments.length).2) read
      have isDirectory := made.isDirectory
      rw [whole] at isDirectory
      rw [spelled, ← start]
      exact isDirectory

end ThemeEditor.Disk
