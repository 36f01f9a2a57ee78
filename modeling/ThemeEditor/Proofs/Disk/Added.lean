/-
# ThemeEditor.Proofs.Disk.Added -- what making directories does, whatever their path

A path may lead up, into what it has just made, so what is made need not lie on the
way that it spells.  But all that making directories ever does is to put directories
where nothing was (`Added`, `added_makeDirectories`).  Nothing else is asked of the disk.
-/
import ThemeEditor.Proofs.Disk.Sound

namespace ThemeEditor.Disk

set_option autoImplicit false

variable {d d' d'' : Disk} {location : Location}

/-- `d'` is `d` with directories where nothing was. -/
structure Added (d d' : Disk) : Prop where
  current : d'.current = d.current
  stops : d'.stops = d.stops
  kept : ∀ {r e}, d.node? r = some e → d'.node? r = some e
  made : ∀ {r e}, d.node? r = none → d'.node? r = some e → e = .directory

theorem added_self (d : Disk) : Added d d where
  current := rfl
  stops := rfl
  kept same := same
  made missing present := by
    rw [missing] at present
    cases present

theorem Added.trans (first : Added d d') (second : Added d' d'') : Added d d'' where
  current := second.current.trans first.current
  stops := second.stops.trans first.stops
  kept same := second.kept (first.kept same)
  made := by
    intro r e missing present
    cases between : d'.node? r with
    | none => exact second.made between present
    | some e' =>
        rw [second.kept between] at present
        cases present
        exact first.made missing between

/-- What is put where nothing was leaves all that was there. -/
theorem kept_put {route r : Route} {e : Entry} (missing : d.node? route = none) (entry : Entry)
    (same : d.node? r = some e) : (d.put route entry).node? r = some e := by
  have notRoot : route ≠ [] := by
    rintro rfl
    cases missing
  have other : r ≠ route := by
    rintro rfl
    rw [missing] at same
    cases same
  rw [node?_put notRoot, if_neg other, same]

theorem added_put {route : Route} (missing : d.node? route = none) :
    Added d (d.put route .directory) := by
  refine ⟨rfl, rfl, fun same => kept_put missing .directory same, fun {r e} gone present => ?_⟩
  have notRoot : route ≠ [] := by
    rintro rfl
    cases missing
  rw [node?_put notRoot] at present
  split at present
  · exact (Option.some.inj present).symm
  · rw [gone] at present
    cases present

/-- Where directories are added the files are those that were there. -/
theorem Added.file (added : Added d d') {route : Route} {bytes : ByteArray}
    (file : d'.node? route = some (.file bytes)) : d.node? route = some (.file bytes) := by
  cases before : d.node? route with
  | none => cases added.made before file
  | some e =>
      rw [added.kept before] at file
      exact file

/-! ## Making directories -/

theorem added_makeDirectoryAt (made : d.makeDirectoryAt location = .ok d') : Added d d' := by
  unfold makeDirectoryAt at made
  simp only [bind, Except.bind] at made
  split at made
  · cases made
  · split at made
    · split at made <;> cases made
    · cases made
    · next missing =>
      split at made
      · cases made
      · cases made
        exact added_put missing

theorem added_ensureDirectoryAt : Added d (d.ensureDirectoryAt location).2 := by
  unfold ensureDirectoryAt
  split
  · next made => exact added_makeDirectoryAt made
  · exact added_self d

theorem added_makeAll (location : Location) (count : Nat) :
    Added d (d.makeAll location count).2 := by
  induction count with
  | zero =>
      unfold makeAll
      split
      · exact added_ensureDirectoryAt
      · exact added_self d
  | succ count ih =>
      unfold makeAll
      dsimp only
      split
      · next made => exact added_makeDirectoryAt made
      · split
        · next above => rwa [above] at ih
        · next above =>
          rw [above] at ih
          exact ih.trans added_ensureDirectoryAt
      · exact added_self d

/-- Making the directories of a path puts directories where nothing was. -/
theorem added_makeDirectories (path : String) : Added d (d.makeDirectories path).2 := by
  unfold makeDirectories
  split
  · exact added_self d
  · split
    · exact added_self d
    · exact added_makeAll _ _

end ThemeEditor.Disk
