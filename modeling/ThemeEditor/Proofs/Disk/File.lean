/-
# ThemeEditor.Proofs.Disk.File -- reading, writing and making places for files

What an operation on a path does to a disk, told by the nodes of the disk alone:

* behind a plain path nothing is read when a file lies on the way, and otherwise
  what lies at the spelled route (`readBytes_of_hasFile`, `readBytes_of_clear`);
  so what is read depends on little (`readBytes_congr`);
* writing puts a file into a directory and replaces no directory
  (`writeBytes_join`);
* making directories lets the disk grow and does nothing else
  (`grown_makeDirectories`).
-/
import ThemeEditor.Proofs.Disk.Walk

namespace ThemeEditor.Disk

set_option autoImplicit false

variable {d d' : Disk}

/-- The path goes through names only, and the disk holds names that long. -/
structure Plain (path : String) : Prop where
  down : ".." ∉ segments path
  short : ∀ name ∈ segments path, name.utf8ByteSize ≤ maxNameSize

/-- Where the steps of a path start there is a directory, and nothing else above. -/
theorem Sound.above_start (sound : d.Sound) (path : String) :
    ∀ p, p <+: d.start path → d.node? p = some .directory := by
  intro p below
  have here : d.node? (d.start path) = some .directory := by
    unfold start
    split
    · rfl
    · exact sound.current
  by_cases same : p = d.start path
  · rw [same]
    exact here
  · exact sound.above below same (by simp [here])

theorem Sound.walked (sound : d.Sound) {path : String} (plain : Plain path) {name : String}
    (isName : IsName name) (fits : name.utf8ByteSize ≤ maxNameSize) :
    Walked d (d.spelled path ++ [name]) (d.walk (d.start path) (segments path ++ [name])) := by
  rw [spelled, List.append_assoc]
  refine Disk.walked (isName.down_snoc plain.down) (fun n member => ?_)
    fun p below _ => sound.above_start path p below
  rcases List.mem_append.1 member with member | member
  · exact plain.short n member
  · rw [List.mem_singleton.1 member]
    exact fits

/-- Where the steps of a location start. -/
def Location.start (d : Disk) (location : Location) : Route :=
  if location.absolute then [] else d.current

theorem ofPath_ok {path : String} {location : Location}
    (read : Location.ofPath path = .ok location) :
    location.segments = segments path ∧ location.start d = d.start path := by
  unfold Location.ofPath at read
  split at read
  · cases read
  split at read
  · cases read
  split at read
  · cases read
  cases read
  exact ⟨rfl, rfl⟩

/-- A directory lies at a path that leads to one. -/
theorem isDirectoryAt_iff {path : String} : d.isDirectoryAt path = true ↔
    ∃ location route, Location.ofPath path = .ok location ∧ d.routeOf location = .ok route ∧
      d.node? route = some .directory := by
  unfold isDirectoryAt lookup
  cases read : Location.ofPath path with
  | error f => simp [bind, Except.bind]
  | ok location =>
      cases led : d.routeOf location with
      | error f => simp [bind, Except.bind, led]
      | ok route =>
          rcases found : d.node? route with _ | _ | content
          · simp [bind, Except.bind, led, found, pure, Except.pure]
          · simp [bind, Except.bind, led, found, pure, Except.pure]
          · cases only : location.directory <;>
              simp [bind, Except.bind, led, found, only, pure, Except.pure, throw, throwThe,
                MonadExceptOf.throw]

/-- The way to a directory is spelled by its path. -/
theorem walk_of_isDirectoryAt {path : String} (isDirectory : d.isDirectoryAt path = true) :
    ∃ location route, Location.ofPath path = .ok location ∧
      d.walk (d.start path) (segments path) = .ok route ∧ d.node? route = some .directory := by
  obtain ⟨location, route, read, led, there⟩ := isDirectoryAt_iff.1 isDirectory
  obtain ⟨steps, start⟩ := ofPath_ok (d := d) read
  rw [routeOf, steps] at led
  rw [Location.start] at start
  exact ⟨location, route, read, start ▸ led, there⟩

/-- A directory is reached through directories and short names. -/
theorem plain_of_isDirectoryAt {path : String} (down : ".." ∉ segments path)
    (isDirectory : d.isDirectoryAt path = true) :
    Plain path ∧ d.node? (d.spelled path) = some .directory := by
  obtain ⟨-, route, -, led, there⟩ := walk_of_isDirectoryAt isDirectory
  obtain ⟨same, short⟩ := walk_ok down led
  exact ⟨⟨down, short⟩, by rwa [spelled, ← same]⟩

/-! ## Reading -/

section Reading

variable {path name : String} {location : Location}

/-- Looking at a file's path is following its names. -/
theorem lookup_join (isName : IsName name)
    (read : Location.ofPath (join path name) = .ok location) :
    d.lookup (join path name) =
      (d.walk (d.start path) (segments path ++ [name])).map
        fun route => (route, d.node? route) := by
  rw [lookup, read, ofPath_join isName read]
  simp only [bind, Except.bind, routeOf, start]
  split
  · next faulty =>
    rw [faulty]
    rfl
  · next route led =>
    rw [led]
    simp only [Bool.false_eq_true, if_false, Except.map]
    split <;> simp_all [pure, Except.pure]

theorem readBytes_join (isName : IsName name)
    (read : Location.ofPath (join path name) = .ok location) :
    d.readBytes (join path name) =
      match d.walk (d.start path) (segments path ++ [name]) with
      | .error f => .error f
      | .ok route =>
          match d.node? route with
          | none => .error .notFound
          | some .directory => .error .isDirectory
          | some (.file bytes) => .ok bytes := by
  rw [readBytes, lookup_join isName read]
  cases d.walk (d.start path) (segments path ++ [name]) with
  | error f => rfl
  | ok route =>
      simp only [Except.map]
      rcases d.node? route with _ | _ | _ <;> rfl

/-- A file is read at the end of its path. -/
theorem readBytes_join_iff {bytes : ByteArray} (isName : IsName name)
    (read : Location.ofPath (join path name) = .ok location) :
    d.readBytes (join path name) = .ok bytes ↔
      ∃ route, d.walk (d.start path) (segments path ++ [name]) = .ok route ∧
        d.node? route = some (.file bytes) := by
  rw [readBytes_join isName read]
  cases d.walk (d.start path) (segments path ++ [name]) with
  | error f => simp
  | ok route =>
      rcases found : d.node? route with _ | _ | _ <;> simp [found]

theorem readBytes_of_ofPath_error {path : String} {f : Fault}
    (unreadable : Location.ofPath path = .error f) : d.readBytes path = .error f := by
  simp only [readBytes, lookup, unreadable, bind, Except.bind]

/-- A file that is missing has a path. -/
theorem readable_of_missing (isName : IsName name)
    (missing : d.readBytes (join path name) = .error .notFound) :
    ∃ location, Location.ofPath (join path name) = .ok location := by
  cases read : Location.ofPath (join path name) with
  | ok location => exact ⟨location, rfl⟩
  | error f =>
      rw [readBytes_of_ofPath_error read] at missing
      cases missing
      exact absurd read (ofPath_join_ne_notFound isName)

/-- A file lies at a route, or above it. -/
def HasFile (d : Disk) (way : Route) : Prop :=
  ∃ p bytes, p <+: way ∧ d.node? p = some (.file bytes)

theorem hasFile_congr {way : Route} (kept : ∀ p, p <+: way → d'.node? p = d.node? p) :
    HasFile d' way ↔ HasFile d way := by
  constructor
  · rintro ⟨p, bytes, onWay, file⟩
    exact ⟨p, bytes, onWay, (kept p onWay).symm.trans file⟩
  · rintro ⟨p, bytes, onWay, file⟩
    exact ⟨p, bytes, onWay, (kept p onWay).trans file⟩

/-- On a sound disk nothing lies below a file. -/
theorem Sound.gone_of_hasFile (sound : d.Sound) {way : Route} (hasFile : HasFile d way)
    (name : String) : d.node? (way ++ [name]) = none := by
  obtain ⟨p, bytes, onWay, file⟩ := hasFile
  by_contra present
  have isDirectory := sound.above (onWay.trans (List.prefix_append way [name])) ?_ present
  · rw [file] at isDirectory
    cases isDirectory
  · rintro rfl
    have := onWay.length_le
    simp only [List.length_append, List.length_singleton] at this
    omega

section Following

variable (sound : d.Sound) (plain : Plain path) (isName : IsName name)
  (fits : name.utf8ByteSize ≤ maxNameSize)
  (read : Location.ofPath (join path name) = .ok location)

include sound plain isName fits read

/-- Behind a file nothing can be read. -/
theorem readBytes_of_hasFile (hasFile : HasFile d (d.spelled path)) :
    d.readBytes (join path name) = .error .notDirectory := by
  obtain ⟨q, content, onWay', file⟩ := hasFile
  have shorter : q ≠ d.spelled path ++ [name] := by
    rintro rfl
    have := onWay'.length_le
    simp only [List.length_append, List.length_singleton] at this
    omega
  rw [readBytes_join isName read]
  generalize led : d.walk (d.start path) (segments path ++ [name]) = result
  have walked := sound.walked plain isName fits
  rw [led] at walked
  cases walked with
  | arrives above =>
      rw [above q (onWay'.trans (List.prefix_append _ _)) shorter] at file
      cases file
  | @missing p onWay gone above =>
      -- a file above what is missing is no directory, one below it lies in nothing
      rcases List.prefix_or_prefix_of_prefix onWay (onWay'.trans (List.prefix_append _ [name]))
        with below | below
      · by_cases same : p = q
        · rw [← same, gone] at file
          cases file
        · have isDirectory := sound.above below same (by simp [file])
          rw [gone] at isDirectory
          cases isDirectory
      · by_cases same : q = p
        · rw [same, gone] at file
          cases file
        · rw [above q below same] at file
          cases file
  | blocked onWay other file => rfl

/-- Behind no file, looking finds what lies at the spelled route. -/
theorem lookup_of_clear (clear : ¬ HasFile d (d.spelled path)) :
    d.lookup (join path name) =
        .ok (d.spelled path ++ [name], d.node? (d.spelled path ++ [name])) ∨
      d.lookup (join path name) = .error .notFound ∧
        d.node? (d.spelled path ++ [name]) = none := by
  rw [lookup_join isName read]
  generalize led : d.walk (d.start path) (segments path ++ [name]) = result
  have walked := sound.walked plain isName fits
  rw [led] at walked
  cases walked with
  | arrives above => exact .inl rfl
  | @missing p onWay gone above =>
      refine .inr ⟨rfl, ?_⟩
      by_cases same : p = d.spelled path ++ [name]
      · rw [← same]
        exact gone
      · by_contra present
        have isDirectory := sound.above onWay same present
        rw [gone] at isDirectory
        cases isDirectory
  | @blocked p bytes onWay other file =>
      rcases List.prefix_concat_iff.1 onWay with same | below
      · exact absurd same other
      · exact absurd ⟨p, bytes, below, file⟩ clear

/-- Behind no file, what is read is what lies at the spelled route. -/
theorem readBytes_of_clear (clear : ¬ HasFile d (d.spelled path)) :
    d.readBytes (join path name) =
      match d.node? (d.spelled path ++ [name]) with
      | none => .error .notFound
      | some .directory => .error .isDirectory
      | some (.file bytes) => .ok bytes := by
  rw [readBytes]
  rcases lookup_of_clear sound plain isName fits read clear with found | ⟨missing, gone⟩
  · rw [found]
    rcases d.node? (d.spelled path ++ [name]) with _ | _ | _ <;> rfl
  · rw [missing, gone]

/-- The bytes that are read are those of the file at the spelled route. -/
theorem readBytes_join_eq_ok {bytes : ByteArray} :
    d.readBytes (join path name) = .ok bytes ↔
      d.node? (d.spelled path ++ [name]) = some (.file bytes) := by
  by_cases hasFile : HasFile d (d.spelled path)
  · rw [readBytes_of_hasFile sound plain isName fits read hasFile,
      sound.gone_of_hasFile hasFile name]
    simp
  · rw [readBytes_of_clear sound plain isName fits read hasFile]
    generalize d.node? (d.spelled path ++ [name]) = found
    rcases found with _ | _ | _ <;> simp

end Following

/-- What is read depends on the files on the way and on what lies at its end. -/
theorem readBytes_congr (sound : d.Sound) (sound' : d'.Sound) (current : d'.current = d.current)
    (plain : Plain path) (isName : IsName name) (fits : name.utf8ByteSize ≤ maxNameSize)
    (sameFiles : HasFile d' (d.spelled path) ↔ HasFile d (d.spelled path))
    (sameNode : d'.node? (d.spelled path ++ [name]) = d.node? (d.spelled path ++ [name])) :
    d'.readBytes (join path name) = d.readBytes (join path name) := by
  have same := spelled_congr current path
  cases read : Location.ofPath (join path name) with
  | error f => simp only [readBytes, lookup, read, bind, Except.bind]
  | ok location =>
      by_cases hasFile : HasFile d (d.spelled path)
      · have hasFile' : HasFile d' (d'.spelled path) := same ▸ sameFiles.2 hasFile
        rw [readBytes_of_hasFile sound plain isName fits read hasFile,
          readBytes_of_hasFile sound' plain isName fits read hasFile']
      · have clear : ¬ HasFile d' (d'.spelled path) :=
          fun hasFile' => hasFile (sameFiles.1 (same ▸ hasFile'))
        rw [readBytes_of_clear sound plain isName fits read hasFile,
          readBytes_of_clear sound' plain isName fits read clear, same, sameNode]

end Reading

section Text

theorem fromUTF8?_eq_some {bytes : ByteArray} {text : String} :
    String.fromUTF8? bytes = some text ↔ bytes = text.toUTF8 := by
  unfold String.fromUTF8?
  constructor
  · intro decoded
    split at decoded
    · cases decoded
      rfl
    · cases decoded
  · rintro rfl
    have valid : text.toUTF8.IsValidUTF8 := text.isValidUTF8
    rw [dif_pos valid]
    rfl

variable {path : String}

theorem readText_eq_ok {text : String} :
    d.readText path = .ok text ↔ d.readBytes path = .ok text.toUTF8 := by
  unfold readText
  cases d.readBytes path with
  | error f => simp
  | ok bytes =>
      have decoded := @fromUTF8?_eq_some bytes text
      dsimp only
      cases found : String.fromUTF8? bytes <;> simp [found] at decoded ⊢ <;> exact decoded

theorem readText_eq_missing :
    d.readText path = .error .notFound ↔ d.readBytes path = .error .notFound := by
  unfold readText
  cases d.readBytes path with
  | error f => simp
  | ok bytes =>
      dsimp only
      cases String.fromUTF8? bytes <;> simp

end Text

/-! ## Writing -/

/-- A file is written into a directory, and never over one. -/
theorem target_join {path name : String} (isName : IsName name) {route : Route}
    {bytes : ByteArray} (aimed : d.target (join path name) = .ok (route, bytes)) :
    ∃ parent, d.walk (d.start path) (segments path) = .ok parent ∧
      d.node? parent = some .directory ∧ route = parent ++ [name] ∧
      d.node? route ≠ some .directory := by
  unfold target at aimed
  cases read : Location.ofPath (join path name) with
  | error f =>
      rw [read] at aimed
      cases aimed
  | ok location =>
      rw [read, ofPath_join isName read] at aimed
      simp only [bind, Except.bind, routeOf] at aimed
      split at aimed
      · cases aimed
      · next reached led =>
        have free : route = reached ∧ d.node? reached ≠ some .directory := by
          split at aimed
          · cases aimed
          · next file =>
            cases aimed
            exact ⟨rfl, by simp [file]⟩
          · next gone =>
            cases aimed
            exact ⟨rfl, by simp [gone]⟩
        obtain ⟨parent, toParent, isDirectory, same⟩ := walk_last isName.down led
        exact ⟨parent, toParent, isDirectory, free.1.trans same, free.1 ▸ free.2⟩

theorem writeBytes_join {path name : String} (isName : IsName name) {bytes : ByteArray}
    (written : d.writeBytes (join path name) bytes = .ok d') :
    ∃ parent, d.walk (d.start path) (segments path) = .ok parent ∧
      d.node? parent = some .directory ∧ d.node? (parent ++ [name]) ≠ some .directory ∧
      d' = d.put (parent ++ [name]) (.file bytes) := by
  unfold writeBytes at written
  split at written
  · cases written
  · next aimed =>
    obtain ⟨parent, toParent, isDirectory, rfl, free⟩ := target_join isName aimed
    exact ⟨parent, toParent, isDirectory, free, (Except.ok.inj written).symm⟩

/-! ## Making directories -/

theorem Sound.location_start (sound : d.Sound) (location : Location) :
    d.node? (location.start d) = some .directory := by
  unfold Location.start
  split
  · rfl
  · exact sound.current

/-- The directories above a location are on the way to it. -/
theorem Location.upTo_onWay {way : Route} {location : Location}
    (onWay : location.start d ++ location.segments <+: way) (count : Nat) :
    (location.upTo count).start d ++ (location.upTo count).segments <+: way := by
  refine List.IsPrefix.trans ?_ onWay
  exact (List.prefix_append_right_inj _).2 (List.take_prefix _ _)

section Making

variable {location : Location} {way : Route}

/-- What making one directory makes lies in a directory, where nothing was. -/
theorem grown_makeDirectoryAt (sound : d.Sound) (down : ".." ∉ location.segments)
    (onWay : location.start d ++ location.segments <+: way)
    (made : d.makeDirectoryAt location = .ok d') : Grown d d' way := by
  unfold makeDirectoryAt at made
  simp only [bind, Except.bind, routeOf] at made
  split at made
  · cases made
  · next route led =>
    obtain ⟨same, -⟩ := walk_ok down led
    split at made
    · split at made <;> cases made
    · cases made
    · next missing =>
      split at made
      · cases made
      · cases made
        rcases List.eq_nil_or_concat location.segments with none | ⟨front, name, steps⟩
        · -- a location without steps is its start, and that is there
          rw [none, List.append_nil] at same
          have present := sound.location_start location
          rw [Location.start, ← same, missing] at present
          cases present
        · rw [List.concat_eq_append] at steps
          rw [steps] at led down
          rw [List.mem_append, List.mem_singleton, not_or] at down
          obtain ⟨parent, -, isDirectory, rfl⟩ := walk_last (Ne.symm down.2) led
          exact sound.grown_put isDirectory missing (same ▸ onWay)

theorem grown_ensureDirectoryAt (sound : d.Sound) (down : ".." ∉ location.segments)
    (onWay : location.start d ++ location.segments <+: way) :
    Grown d (d.ensureDirectoryAt location).2 way := by
  unfold ensureDirectoryAt
  split
  · next made => exact grown_makeDirectoryAt sound down onWay made
  · exact sound.grown_self way

/-- Where a directory is missing it is made once those above it are there. -/
theorem makeAll_of_missing {count : Nat}
    (missing : d.makeDirectoryAt (location.upTo (count + 1)) = .error .notFound)
    (above : d.makeAll location count = (.ok (), d')) :
    d.makeAll location (count + 1) = d'.ensureDirectoryAt (location.upTo (count + 1)) := by
  unfold makeAll
  dsimp only
  rw [missing]
  dsimp only
  rw [above]

theorem grown_makeAll (sound : d.Sound) (down : ".." ∉ location.segments)
    (onWay : location.start d ++ location.segments <+: way) (count : Nat) :
    Grown d (d.makeAll location count).2 way := by
  have downTo : ∀ n, ".." ∉ (location.upTo n).segments :=
    fun n member => down (List.mem_of_mem_take member)
  induction count with
  | zero =>
      unfold makeAll
      split
      · exact grown_ensureDirectoryAt sound (downTo 0) (Location.upTo_onWay onWay 0)
      · exact sound.grown_self way
  | succ count ih =>
      unfold makeAll
      dsimp only
      split
      · next made =>
        exact grown_makeDirectoryAt sound (downTo _) (Location.upTo_onWay onWay _) made
      · split
        · next above =>
          rw [above] at ih
          exact ih
        · next above =>
          rw [above] at ih
          -- the directories above did not move the start
          have onWay' :
              location.start (d.makeAll location count).2 ++ location.segments <+: way := by
            rw [above]
            unfold Location.start at onWay ⊢
            rw [ih.current]
            exact onWay
          rw [above] at onWay'
          exact ih.trans
            (grown_ensureDirectoryAt ih.sound (downTo _) (Location.upTo_onWay onWay' _))
      · exact sound.grown_self way

/-- Making the directories of a path makes only what lies on the way to it. -/
theorem grown_makeDirectories (sound : d.Sound) {path : String} (down : ".." ∉ segments path) :
    Grown d (d.makeDirectories path).2 (d.spelled path) := by
  unfold makeDirectories
  split
  · exact sound.grown_self _
  · split
    · exact sound.grown_self _
    · next location read =>
      obtain ⟨steps, start⟩ := ofPath_ok (d := d) read
      refine grown_makeAll sound (steps ▸ down) ?_ _
      rw [steps, start]
      exact List.prefix_rfl

end Making

/-! ## Reading while directories are made -/

section Grown

variable {way : Route} (grown : Grown d d' way)

include grown

theorem Grown.hasFile_iff {way' : Route} : HasFile d' way' ↔ HasFile d way' := by
  constructor
  · rintro ⟨p, bytes, onWay, file⟩
    cases before : d.node? p with
    | none => cases (grown.made before file).1
    | some entry =>
        rw [grown.kept (by simp [before])] at file
        exact ⟨p, bytes, onWay, file⟩
  · rintro ⟨p, bytes, onWay, file⟩
    exact ⟨p, bytes, onWay, (grown.kept (by simp [file])).trans file⟩

/-- Nothing is made beyond the way. -/
theorem Grown.node?_beyond (name : String) :
    d'.node? (way ++ [name]) = d.node? (way ++ [name]) := by
  by_cases gone : d.node? (way ++ [name]) = none
  · rw [gone]
    by_contra present
    obtain ⟨entry, made⟩ := Option.ne_none_iff_exists'.1 present
    have short := (grown.made gone made).2.length_le
    rw [List.length_append, List.length_singleton] at short
    omega
  · exact grown.kept gone

end Grown

/-- Directories that are made on the way to a file do not change what is read there. -/
theorem readBytes_grown (sound : d.Sound) {path name : String} (plain : Plain path)
    (isName : IsName name) (fits : name.utf8ByteSize ≤ maxNameSize)
    (grown : Grown d d' (d.spelled path)) :
    d'.readBytes (join path name) = d.readBytes (join path name) :=
  readBytes_congr sound grown.sound grown.current plain isName fits grown.hasFile_iff
    (grown.node?_beyond name)

end ThemeEditor.Disk
