/-
# ThemeEditor.Proofs.Disk.Sound -- disks whose entries lie in directories

A disk is a list of entries, and nothing in its type keeps a file from lying in
another file.  `Sound` is what a real disk promises: whatever exists lies in a
directory that exists, and the working directory is one of those.  A new entry
keeps it sound when its parent is a directory and no directory is overwritten
(`Sound.put`).

`Grown d d' way` says that making directories turned `d` into `d'`: nothing that
was there changed, and all that is new is directories on the way to one route.
-/
import Mathlib.Data.List.Induction
import ThemeEditor.Disk.Basic

namespace ThemeEditor.Disk

set_option autoImplicit false

variable {d d' d'' : Disk}

theorem node?_put {route : Route} (notRoot : route ≠ []) (entry : Entry) (r : Route) :
    (d.put route entry).node? r = if r = route then some entry else d.node? r := by
  by_cases same : r = route
  · subst same
    simp [node?, put, notRoot]
  · by_cases root : r = []
    · simp [node?, root, Ne.symm notRoot]
    · have other : ¬ route = r := fun h => same h.symm
      have kept : ∀ e : Route × Entry,
          (!decide (e.1 = route) && decide (e.1 = r)) = decide (e.1 = r) := by
        intro e
        by_cases h : e.1 = r <;> simp [h, same]
      simp [node?, put, root, same, other, List.find?_filter, kept]

theorem node?_put_self {route : Route} (notRoot : route ≠ []) (entry : Entry) :
    (d.put route entry).node? route = some entry := by
  rw [node?_put notRoot, if_pos rfl]

theorem current_put (route : Route) (entry : Entry) : (d.put route entry).current = d.current := rfl

/-- Each entry lies in a directory, and so does whoever works on the disk. -/
structure Sound (d : Disk) : Prop where
  inside : ∀ {route name}, d.node? (route ++ [name]) ≠ none → d.node? route = some .directory
  current : d.node? d.current = some .directory

/-- All that lies above something is a directory. -/
theorem Sound.above (sound : d.Sound) {p : Route} : ∀ {route : Route}, p <+: route → p ≠ route →
    d.node? route ≠ none → d.node? p = some .directory := by
  intro route
  induction route using List.reverseRecOn with
  | nil =>
      intro below other
      exact absurd (List.prefix_nil.1 below) other
  | append_singleton route name ih =>
      intro below other present
      have parent := sound.inside present
      rcases List.prefix_concat_iff.1 below with same | below
      · exact absurd same other
      · by_cases same : p = route
        · rw [same]
          exact parent
        · exact ih below same (by simp [parent])

theorem Sound.put (sound : d.Sound) {parent : Route} {name : String}
    (isDirectory : d.node? parent = some .directory)
    (free : d.node? (parent ++ [name]) ≠ some .directory) (entry : Entry) :
    (d.put (parent ++ [name]) entry).Sound where
  inside := by
    intro route name' present
    have notRoot : parent ++ [name] ≠ [] := by simp
    rw [node?_put notRoot] at present ⊢
    split at present
    · next same =>
      obtain ⟨rfl, -⟩ := List.append_inj' same rfl
      simpa using isDirectory
    · have inside := sound.inside present
      have other : route ≠ parent ++ [name] := fun same => free (same ▸ inside)
      rw [if_neg other]
      exact inside
  current := by
    have other : d.current ≠ parent ++ [name] := fun same => free (same ▸ sound.current)
    rw [current_put, node?_put (by simp), if_neg other]
    exact sound.current

/-! ## Blank disks -/

theorem node?_blank (current r : Route) :
    (blank current).node? r = if r <+: current then some .directory else none := by
  by_cases root : r = []
  · simp [node?, root]
  · rw [node?, if_neg root]
    cases found : (blank current).entries.find? fun e => e.1 = r with
    | none =>
        rw [List.find?_eq_none] at found
        have other : ¬ r <+: current := by
          intro below
          obtain ⟨n, length⟩ := Nat.exists_eq_succ_of_ne_zero (mt List.length_eq_zero_iff.1 root)
          have short : n < current.length := by
            have := below.length_le
            omega
          refine found (r, .directory) (List.mem_map.2 ⟨n, List.mem_range.2 short, ?_⟩) (by simp)
          rw [← Nat.succ_eq_add_one, ← length, ← List.prefix_iff_eq_take.1 below]
        rw [if_neg other]
        rfl
    | some e =>
        obtain ⟨n, -, same⟩ := List.mem_map.1 (List.mem_of_find?_eq_some found)
        have here : e.1 = r := by simpa using List.find?_some found
        subst same
        subst here
        rw [if_pos (List.take_prefix _ _)]
        rfl

/-- A disk with nothing but directories above one place is sound. -/
theorem sound_blank (current : Route) : (blank current).Sound where
  inside := by
    intro route name present
    rw [node?_blank] at present ⊢
    split at present
    · next below => rw [if_pos ((List.prefix_append route [name]).trans below)]
    · exact absurd rfl present
  current := by
    rw [node?_blank]
    exact if_pos List.prefix_rfl

/-! ## Making directories -/

/-- `d'` is `d` with some of the missing directories on the way to a route made. -/
structure Grown (d d' : Disk) (way : Route) : Prop where
  current : d'.current = d.current
  sound : d'.Sound
  kept : ∀ {r}, d.node? r ≠ none → d'.node? r = d.node? r
  made : ∀ {r e}, d.node? r = none → d'.node? r = some e → e = .directory ∧ r <+: way

variable {way : Route}

theorem Sound.grown_self (sound : d.Sound) (way : Route) : Grown d d way where
  current := rfl
  sound := sound
  kept _ := rfl
  made missing present := by simp [missing] at present

theorem Grown.trans (first : Grown d d' way) (second : Grown d' d'' way) : Grown d d'' way where
  current := second.current.trans first.current
  sound := second.sound
  kept present := by
    have same := first.kept present
    rw [second.kept (same ▸ present), same]
  made := by
    intro r e missing present
    cases between : d'.node? r with
    | none => exact second.made between present
    | some e' =>
        rw [second.kept (by simp [between]), between] at present
        cases present
        exact first.made missing between

theorem Sound.grown_put (sound : d.Sound) {parent : Route} {name : String}
    (isDirectory : d.node? parent = some .directory) (missing : d.node? (parent ++ [name]) = none)
    (onWay : parent ++ [name] <+: way) :
    Grown d (d.put (parent ++ [name]) .directory) way where
  current := rfl
  sound := sound.put isDirectory (by simp [missing]) .directory
  kept := by
    intro r present
    have other : r ≠ parent ++ [name] := fun same => present (same ▸ missing)
    rw [node?_put (by simp), if_neg other]
  made := by
    intro r e gone present
    rw [node?_put (by simp)] at present
    split at present
    · next same => exact ⟨(Option.some.inj present).symm, same ▸ onWay⟩
    · simp [gone] at present

end ThemeEditor.Disk
