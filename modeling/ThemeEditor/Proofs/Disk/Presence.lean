/-
# ThemeEditor.Proofs.Disk.Presence -- what lies at a path

An entry lies at a path (`At`) when the path can be read, everything on the way can be
followed, and the entry is what the way leads to.  That is what asking whether a path
exists finds (`exists?_iff`), and a file that lies there is what is read (`readBytes_iff`).

Something at a path lies in a directory, so for its sake none has to be made
(`makeDirectories_of_at`); behind one that could not be made nothing lies
(`not_at_of_makeDirectories_error`); and directories that are made on the way to a path
bring nothing to it (`at_of_grown`).  A file that is written where nothing lies is put where
nothing was (`fresh_of_writeBytes`).
-/
import ThemeEditor.Proofs.Disk.Overwrite

namespace ThemeEditor.Disk

set_option autoImplicit false

variable {d d' : Disk} {path : String} {entry : Entry} {bytes : ByteArray}

/-- The path leads to the entry.  No file lies at a path that can only mean a directory. -/
def At (d : Disk) (path : String) (entry : Entry) : Prop :=
  ∃ location route, Location.ofPath path = .ok location ∧ d.routeOf location = .ok route ∧
    d.node? route = some entry ∧ (location.directory = true → entry = .directory)

@[simp] theorem at_withStops (d : Disk) (stops : List (Option Stop)) (path : String)
    (entry : Entry) : (d.withStops stops).At path entry ↔ d.At path entry := by
  simp only [At, routeOf_withStops, node?_withStops]

/-! ## Looking and reading -/

theorem exists?_iff : d.exists? path = true ↔ ∃ entry, d.At path entry := by
  unfold exists? lookup At
  cases read : Location.ofPath path with
  | error f => simp [bind, Except.bind]
  | ok location =>
      cases led : d.routeOf location with
      | error f => simp [bind, Except.bind, led]
      | ok route =>
          rcases found : d.node? route with _ | _ | content
          · simp [bind, Except.bind, led, found, pure, Except.pure]
          · simp [bind, Except.bind, led, found, pure, Except.pure]
          · cases only : location.directory <;>
              simp [bind, Except.bind, led, found, only, pure, Except.pure, throw, throwThe,
                MonadExceptOf.throw]

theorem readBytes_iff : d.readBytes path = .ok bytes ↔ d.At path (.file bytes) := by
  rw [readBytes_eq_ok]
  unfold At
  simp

/-- A file that is written where nothing lay is put where nothing was. -/
theorem fresh_of_writeBytes (absent : ∀ entry, ¬ d.At path entry)
    (written : d.writeBytes path bytes = .ok d') :
    ∃ route, d.node? route = none ∧ d' = d.put route (.file bytes) := by
  obtain ⟨location, route, read, led, free, only, put⟩ := writeBytes_eq_ok written
  refine ⟨route, ?_, put⟩
  rcases found : d.node? route with _ | _ | content
  · rfl
  · exact absurd found free
  · exact absurd ⟨location, route, read, led, found, by simp [only]⟩ (absent (.file content))

/-- What was written is there. -/
theorem at_of_writeBytes (written : d.writeBytes path bytes = .ok d') :
    d'.At path (.file bytes) :=
  readBytes_iff.1 (readBytes_of_writeBytes written)

/-- A file that is there can be written over with anything. -/
theorem at_overwritten {name : String} (isName : IsName name)
    (there : d.At (join path name) (.file bytes)) (bytes' : ByteArray) :
    ∃ d', d.writeBytes (join path name) bytes' = .ok d' ∧ d'.At (join path name) (.file bytes') := by
  obtain ⟨d', written, -⟩ := overwrite isName (readBytes_iff.2 there) bytes'
  exact ⟨d', written, at_of_writeBytes written⟩

/-! ## In a directory -/

section

variable {name : String} (isName : IsName name)

include isName

/-- At a path with a name at its end lies what the names lead to. -/
theorem at_join_iff : d.At (join path name) entry ↔
    (∃ location, Location.ofPath (join path name) = .ok location) ∧
      ∃ route, d.walk (d.start path) (segments path ++ [name]) = .ok route ∧
        d.node? route = some entry := by
  constructor
  · rintro ⟨location, route, read, led, there, -⟩
    rw [ofPath_join isName read] at led
    exact ⟨⟨location, read⟩, route, led, there⟩
  · rintro ⟨⟨location, read⟩, route, led, there⟩
    refine ⟨location, route, read, ?_, there, ?_⟩
    · rw [ofPath_join isName read]
      exact led
    · simp [ofPath_join isName read]

/-- Where something lies no directory has to be made for it. -/
theorem makeDirectories_of_at (there : d.At (join path name) entry) :
    d.makeDirectories path = (.ok (), d) := by
  obtain ⟨⟨location, read⟩, route, led, -⟩ := (at_join_iff isName).1 there
  obtain ⟨parent, toParent, isDirectory⟩ := walk_before led
  exact makeDirectories_of_walk (ofPath_of_join isName read) toParent isDirectory

/-- Nothing lies in a directory that could not be made. -/
theorem not_at_of_makeDirectories_error {f : Fault}
    (failed : d.makeDirectories path = (.error f, d')) : ¬ d'.At (join path name) entry := by
  intro there
  obtain ⟨⟨location, read⟩, route, led, -⟩ := (at_join_iff isName).1 there
  exact lost_of_makeDirectories_error isName failed read led

/-- What lies at a path after directories were made on the way lay there before. -/
theorem at_of_grown (sound : d.Sound) (down : ".." ∉ segments path)
    (grown : Grown d d' (d.spelled path)) (there : d'.At (join path name) entry) :
    d.At (join path name) entry := by
  obtain ⟨readable, route, led, found⟩ := (at_join_iff isName).1 there
  obtain ⟨same, short⟩ := walk_ok (isName.down_snoc down) led
  have here : route = d.spelled path ++ [name] := by
    rw [same, ← List.append_assoc]
    exact congrArg (· ++ [name]) (spelled_congr grown.current path)
  rw [here, grown.node?_beyond] at found
  have standing : Standing d path := by
    refine ⟨⟨down, fun n member => short n (List.mem_append_left _ member)⟩, ?_⟩
    exact sound.inside (by rw [found]; nofun)
  have fits : name.utf8ByteSize ≤ maxNameSize := short name (by simp)
  exact (at_join_iff isName).2 ⟨readable, _, standing.walk_name sound isName fits, found⟩

end

end ThemeEditor.Disk
