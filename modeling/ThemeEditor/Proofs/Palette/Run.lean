/-
# ThemeEditor.Proofs.Palette.Run -- what a run of palettes leaves behind

Palettes are applied one after another, each to the settings and the random words
that the one before it left.  `Application` is one of them with what it started
from, and `applications` lists those of a run.

A palette writes no more fields than it has colors for, so a run is a sequence of
partial writes.  What one application does to a field is said once
(`Application.background_result` and its companions): a palette that is long enough
writes it and every other palette leaves it.  From that alone the field holds, at
the end, what the latest palette of the needed length wrote (`read_run`), and
`run_settles` says so of all fields together.
-/
import ThemeEditor.Palette.Apply
import ThemeEditor.Proofs.Random.Arrangement
import ThemeEditor.Proofs.Settings.Document

namespace ThemeEditor

set_option autoImplicit false

namespace Palette

open ThemeEditor.Random (WordSource shuffle perm_shuffle)

/-- One application of a run: the palette it was given, if any, and what it started
from. -/
structure Application where
  given : Option Palette
  settings : Settings
  words : WordSource

namespace Application

variable (a : Application)

/-- What comes of it. -/
def result : Applied :=
  apply a.settings a.given a.words

/-- The colors of its palette. -/
def colors : List Color :=
  a.given.getD []

/-- The colors behind the first two, in the order that the random words give them. -/
def tail : List Color :=
  (shuffle (a.colors.drop 2) a.words).1

end Application

/-- The settings and the words after some palettes. -/
def run : Settings → WordSource → List (Option Palette) → Settings × WordSource
  | s, w, [] => (s, w)
  | s, w, palette :: palettes =>
      let done := apply s palette w
      run done.settings done.words palettes

/-- The applications of some palettes, in order. -/
def applications : Settings → WordSource → List (Option Palette) → List Application
  | _, _, [] => []
  | s, w, palette :: palettes =>
      let done := apply s palette w
      ⟨palette, s, w⟩ :: applications done.settings done.words palettes

/-- The latest application of a palette with at least `n` colors. -/
def latest (n : Nat) (done : List Application) : Option Application :=
  done.reverse.find? fun a => n ≤ a.colors.length

/-! ## Colors for roles -/

/-- Only the roles that are given colors change theirs. -/
theorem color_assign_other : ∀ (roles : List ColorRole) (colors : List Color) (s : Settings)
    (role : ColorRole), role ∉ roles → (assign s roles colors).color role = s.color role
  | [], _, _, _, _ => rfl
  | _ :: _, [], _, _, _ => rfl
  | first :: roles, c :: colors, s, role, absent => by
      obtain ⟨differs, absent⟩ := not_or.mp (mt List.mem_cons.mpr absent)
      calc (assign (s.setColor first c) roles colors).color role
          = (s.setColor first c).color role := color_assign_other roles colors _ role absent
        _ = s.color role := by rw [Settings.color_setColor, if_neg differs]

/-- Different roles get the colors at their places, as far as there are any. -/
theorem color_assign : ∀ (roles : List ColorRole) (colors : List Color) (s : Settings)
    (k : Nat) (role : ColorRole), roles.Nodup → roles[k]? = some role →
    (assign s roles colors).color role = colors[k]?.getD (s.color role)
  | [], _, _, _, _, _, held => nomatch held
  | _ :: _, [], _, _, _, _, _ => rfl
  | first :: roles, c :: colors, s, 0, role, distinct, held => by
      obtain rfl : first = role := Option.some.inj held
      calc (assign (s.setColor first c) roles colors).color first
          = (s.setColor first c).color first :=
            color_assign_other roles colors _ first (List.nodup_cons.mp distinct).1
        _ = c := by rw [Settings.color_setColor, if_pos rfl]
  | first :: roles, c :: colors, s, k + 1, role, distinct, held => by
      obtain ⟨absent, distinct⟩ := List.nodup_cons.mp distinct
      have differs : role ≠ first := by
        rintro rfl
        exact absent (List.mem_of_getElem? held)
      calc (assign (s.setColor first c) roles colors).color role
          = colors[k]?.getD ((s.setColor first c).color role) :=
            color_assign roles colors _ k role distinct held
        _ = colors[k]?.getD (s.color role) := by rw [Settings.color_setColor, if_neg differs]

/-- Colors for roles touch no other part of the settings. -/
theorem assign_rest : ∀ (roles : List ColorRole) (colors : List Color) (s : Settings),
    (assign s roles colors).flags = s.flags ∧
      (assign s roles colors).backendUrl = s.backendUrl
  | [], _, _ => ⟨rfl, rfl⟩
  | _ :: _, [], _ => ⟨rfl, rfl⟩
  | first :: roles, c :: colors, s => by
      obtain ⟨flags, backend⟩ := assign_rest roles colors (s.setColor first c)
      obtain ⟨-, flags', backend'⟩ := Settings.setColor_rest s first c
      exact ⟨flags.trans flags', backend.trans backend'⟩

/-- The roles that accents do not take keep their colors. -/
theorem color_withAccents_other (s : Settings) (accents : List Color) (role : ColorRole)
    (absent : role ∉ accentRoles) : (withAccents s accents).color role = s.color role := by
  have kept := color_assign_other accentRoles accents s role absent
  cases role <;> exact kept

/-- An accent takes the role at its place. -/
theorem color_withAccents (s : Settings) (accents : List Color) (k : Nat) (role : ColorRole)
    (held : accentRoles[k]? = some role) :
    (withAccents s accents).color role = accents[k]?.getD (s.color role) := by
  have taken := color_assign accentRoles accents s k role (by decide) held
  cases role <;> exact taken

/-! ## One application -/

namespace Application

variable (a : Application)

/-- What an application does: without colors it leaves the settings and the random words
alone and says so, and with colors it counts. -/
theorem result_cases :
    ((∀ c cs, a.given ≠ some (c :: cs)) ∧ a.colors = [] ∧
      a.result = ⟨false, a.settings, a.words⟩) ∨
    ∃ c cs, a.given = some (c :: cs) ∧ a.colors = c :: cs ∧ a.result.applied = true ∧
      a.result.settings =
        withAccents { a.settings with
          background := c, foreground := cs[0]?.getD a.settings.foreground } a.tail := by
  obtain ⟨_ | _ | ⟨c, _ | ⟨second, cs⟩⟩, s, w⟩ := a
  · exact .inl ⟨nofun, rfl, rfl⟩
  · exact .inl ⟨nofun, rfl, rfl⟩
  · exact .inr ⟨c, [], rfl, rfl, rfl, rfl⟩
  · exact .inr ⟨c, second :: cs, rfl, rfl, rfl, rfl⟩

/-- An application counts exactly when there is a palette and it has a color. -/
theorem applied_result : a.result.applied = true ↔ ∃ c cs, a.given = some (c :: cs) := by
  obtain ⟨absent, -, unchanged⟩ | ⟨c, cs, given, -, applied, -⟩ := a.result_cases
  · rw [unchanged]
    exact iff_of_false Bool.false_ne_true fun ⟨c, cs, given⟩ => absent c cs given
  · exact iff_of_true applied ⟨c, cs, given⟩

/-- An application that does not count changes nothing and draws nothing. -/
theorem result_of_not_applied (refused : a.result.applied = false) :
    a.result.settings = a.settings ∧ a.result.words = a.words := by
  obtain ⟨-, -, unchanged⟩ | ⟨c, cs, -, -, applied, -⟩ := a.result_cases
  · rw [unchanged]
    exact ⟨rfl, rfl⟩
  · exact absurd (applied.symm.trans refused) Bool.false_ne_true.symm

/-- The tail is a rearrangement of the colors behind the first two. -/
theorem perm_tail : a.tail.Perm (a.colors.drop 2) :=
  perm_shuffle _ _

theorem background_result :
    a.result.settings.background = a.colors[0]?.getD a.settings.background := by
  obtain ⟨-, bare, unchanged⟩ | ⟨c, cs, -, colors, -, settings⟩ := a.result_cases
  · rw [unchanged, bare]; rfl
  · rw [settings, colors]
    exact color_withAccents_other _ a.tail .background (by decide)

theorem foreground_result :
    a.result.settings.foreground = a.colors[1]?.getD a.settings.foreground := by
  obtain ⟨-, bare, unchanged⟩ | ⟨c, cs, -, colors, -, settings⟩ := a.result_cases
  · rw [unchanged, bare]; rfl
  · rw [settings, colors]
    exact color_withAccents_other _ a.tail .foreground (by decide)

/-- The accents are the tail of a palette that has colors. -/
theorem accents_result :
    a.result.settings.accents = ((a.colors[0]?).map fun _ => a.tail).getD a.settings.accents := by
  obtain ⟨-, bare, unchanged⟩ | ⟨c, cs, -, colors, -, settings⟩ := a.result_cases
  · rw [unchanged, bare]; rfl
  · rw [settings, colors]; rfl

/-- A role that accents take gets the color at its place in the tail. -/
theorem role_result (k : Nat) (role : ColorRole) (held : accentRoles[k]? = some role) :
    a.result.settings.color role = a.tail[k]?.getD (a.settings.color role) := by
  obtain ⟨-, bare, unchanged⟩ | ⟨c, cs, -, -, -, settings⟩ := a.result_cases
  · rw [unchanged, List.getElem?_eq_none (by simp [a.perm_tail.length_eq, bare])]; rfl
  · rw [settings, color_withAccents _ a.tail k role held]
    obtain rfl | rfl | rfl | rfl :
        role = .selected ∨ role = .highlight ∨ role = .comment ∨ role = .accentText := by
      simpa only [accentRoles, List.mem_cons, List.not_mem_nil, or_false] using
        List.mem_of_getElem? held
    all_goals rfl

/-- What no palette reaches. -/
theorem rest_result :
    a.result.settings.lastModified = a.settings.lastModified ∧
    a.result.settings.allModified = a.settings.allModified ∧
    a.result.settings.flags = a.settings.flags ∧
    a.result.settings.backendUrl = a.settings.backendUrl := by
  obtain ⟨-, -, unchanged⟩ | ⟨c, cs, -, -, -, settings⟩ := a.result_cases
  · rw [unchanged]
    exact ⟨rfl, rfl, rfl, rfl⟩
  · rw [settings]
    exact ⟨color_withAccents_other _ a.tail .lastModified (by decide),
      color_withAccents_other _ a.tail .allModified (by decide), assign_rest _ a.tail _⟩

end Application

/-! ## Runs -/

theorem latest_long {n : Nat} {done : List Application} {a : Application}
    (found : latest n done = some a) : n ≤ a.colors.length := by
  have long := List.find?_some found
  exact of_decide_eq_true long

theorem latest_snoc (n : Nat) (done : List Application) (a : Application) :
    latest n (done ++ [a]) = if n ≤ a.colors.length then some a else latest n done := by
  rw [latest, List.reverse_append, List.reverse_singleton, List.singleton_append, List.find?_cons]
  split
  · next long => rw [if_pos (of_decide_eq_true long)]
  · next short => rw [if_neg (of_decide_eq_false short)]; rfl

section

variable (s : Settings) (w : WordSource) (palettes : List (Option Palette))

/-- The application of one more palette after a run. -/
def next (palette : Option Palette) : Application :=
  ⟨palette, (run s w palettes).1, (run s w palettes).2⟩

theorem run_snoc (palette : Option Palette) :
    run s w (palettes ++ [palette]) =
      ((next s w palettes palette).result.settings, (next s w palettes palette).result.words) := by
  induction palettes generalizing s w with
  | nil => rfl
  | cons first rest ih => exact ih _ _

theorem applications_snoc (palette : Option Palette) :
    applications s w (palettes ++ [palette]) =
      applications s w palettes ++ [next s w palettes palette] := by
  induction palettes generalizing s w with
  | nil => rfl
  | cons first rest ih => exact congrArg (⟨first, s, w⟩ :: ·) (ih _ _)

/-- What every application leaves alone, a run leaves alone. -/
theorem read_run_of_kept {β : Type} (read : Settings → β)
    (kept : ∀ a : Application, read a.result.settings = read a.settings) :
    read (run s w palettes).1 = read s := by
  induction palettes using List.reverseRecOn with
  | nil => rfl
  | append_singleton palettes palette ih => rw [run_snoc]; exact (kept _).trans ih

/-- What exactly the palettes with `n` colors write holds, after a run, what the latest of
them wrote. -/
theorem read_run {β : Type} (read : Settings → β) (written : Application → Option β) (n : Nat)
    (long : ∀ a, (written a).isSome ↔ n ≤ a.colors.length)
    (step : ∀ a, read a.result.settings = (written a).getD (read a.settings)) :
    read (run s w palettes).1 =
      ((latest n (applications s w palettes)).bind written).getD (read s) := by
  induction palettes using List.reverseRecOn with
  | nil => rfl
  | append_singleton palettes palette ih =>
      rw [run_snoc, applications_snoc, latest_snoc, step]
      split
      · next reaches =>
          obtain ⟨value, wrote⟩ := Option.isSome_iff_exists.mp ((long _).mpr reaches)
          rw [Option.bind_some, wrote]
          rfl
      · next short =>
          rw [Option.not_isSome_iff_eq_none.mp (mt (long _).mp short), ← ih]
          rfl

/-! ## What a run leaves behind -/

theorem given_applications : (applications s w palettes).map (·.given) = palettes := by
  induction palettes generalizing s w with
  | nil => rfl
  | cons first rest ih => exact congrArg (first :: ·) (ih _ _)

theorem background_run :
    (run s w palettes).1.background =
      ((latest 1 (applications s w palettes)).bind fun a => a.colors[0]?).getD s.background :=
  read_run s w palettes (·.background) (fun a => a.colors[0]?) 1
    (fun a => iff_of_eq (isSome_getElem? a.colors _)) Application.background_result

theorem foreground_run :
    (run s w palettes).1.foreground =
      ((latest 2 (applications s w palettes)).bind fun a => a.colors[1]?).getD s.foreground :=
  read_run s w palettes (·.foreground) (fun a => a.colors[1]?) 2
    (fun a => iff_of_eq (isSome_getElem? a.colors _)) Application.foreground_result

/-- The latest palette with colors leaves its tail as the accents. -/
theorem accents_run :
    (run s w palettes).1.accents =
      ((latest 1 (applications s w palettes)).map (·.tail)).getD s.accents := by
  rw [read_run s w palettes (·.accents) (fun a => (a.colors[0]?).map fun _ => a.tail) 1
    (fun a => by rw [Option.isSome_map, isSome_getElem?]; rfl) Application.accents_result]
  cases found : latest 1 (applications s w palettes) with
  | none => rfl
  | some a =>
      rw [Option.bind_some, List.getElem?_eq_getElem (latest_long found)]
      rfl

theorem role_run (k : Nat) (role : ColorRole) (held : accentRoles[k]? = some role) :
    (run s w palettes).1.color role =
      ((latest (k + 3) (applications s w palettes)).bind fun a => a.tail[k]?).getD
        (s.color role) :=
  read_run s w palettes (·.color role) (fun a => a.tail[k]?) (k + 3)
    (fun a => by
      rw [isSome_getElem?, a.perm_tail.length_eq, List.length_drop]
      omega)
    fun a => a.role_result k role held

end

/-- **A run of palettes leaves each field as the latest palette long enough for it made
it.**  Every palette is applied once, in order; an application counts exactly when its
palette is there and has a color, and one that does not count changes nothing and draws
nothing.  In the end the background is the first color of the latest palette that has
one, the foreground the second color of the latest with two, and the accents are the
rearranged rest of the latest palette with colors.  Of the roles that accents take, the
one at place `k` holds the `k`-th color of the rearranged rest of the latest palette
with `k + 3` colors, and so the `k`-th accent if no shorter palette came later.  What no
palette was long enough for keeps its color, and the other fields are never touched. -/
theorem run_settles (s : Settings) (w : WordSource) (palettes : List (Option Palette)) :
    let done := applications s w palettes
    let after := (run s w palettes).1
    done.map (·.given) = palettes ∧
    (∀ a ∈ done,
      (a.result.applied = true ↔ ∃ c cs, a.given = some (c :: cs)) ∧
      (a.result.applied = false → a.result.settings = a.settings ∧ a.result.words = a.words) ∧
      a.tail.Perm (a.colors.drop 2)) ∧
    after.background = ((latest 1 done).bind fun a => a.colors[0]?).getD s.background ∧
    after.foreground = ((latest 2 done).bind fun a => a.colors[1]?).getD s.foreground ∧
    after.accents = ((latest 1 done).map (·.tail)).getD s.accents ∧
    (∀ (k : Nat) (role : ColorRole),
      [ColorRole.selected, .highlight, .comment, .accentText][k]? = some role →
      after.color role =
          ((latest (k + 3) done).bind fun a => a.tail[k]?).getD (s.color role) ∧
      ∀ a, latest (k + 3) done = some a → latest 1 done = some a →
        after.accents[k]? = some (after.color role)) ∧
    after.lastModified = s.lastModified ∧ after.allModified = s.allModified ∧
    after.flags = s.flags ∧ after.backendUrl = s.backendUrl := by
  refine ⟨given_applications s w palettes, fun a _ =>
      ⟨a.applied_result, a.result_of_not_applied, a.perm_tail⟩,
    background_run s w palettes, foreground_run s w palettes, accents_run s w palettes,
    fun k role held => ⟨role_run s w palettes k role held, fun a long last => ?_⟩,
    read_run_of_kept s w palettes (·.lastModified) fun a => a.rest_result.1,
    read_run_of_kept s w palettes (·.allModified) fun a => a.rest_result.2.1,
    read_run_of_kept s w palettes (·.flags) fun a => a.rest_result.2.2.1,
    read_run_of_kept s w palettes (·.backendUrl) fun a => a.rest_result.2.2.2⟩
  have reached : k < a.tail.length := by
    have enough := latest_long long
    rw [a.perm_tail.length_eq, List.length_drop]
    omega
  calc (run s w palettes).1.accents[k]?
      = a.tail[k]? := by rw [accents_run, last]; rfl
    _ = some ((a.tail[k]?).getD (s.color role)) := by
        rw [List.getElem?_eq_getElem reached, Option.getD_some]
    _ = some ((run s w palettes).1.color role) := by
        rw [role_run s w palettes k role held, long, Option.bind_some]

/-- Two palettes with one in between that has no colors: it changes nothing, and the last
one gives the role selected and the first accent the same color. -/
theorem run_settles_twoPalettes :
    let w : WordSource := ⟨fun _ => 0, 0⟩
    let palettes : List (Option Palette) :=
      [some [⟨"a"⟩, ⟨"b"⟩, ⟨"c"⟩, ⟨"d"⟩], some [], some [⟨"e"⟩, ⟨"f"⟩, ⟨"g"⟩]]
    let between := next .default w (palettes.take 1) (some [])
    between.result.settings = between.settings ∧
    (run .default w palettes).1.accents[0]? = some (run .default w palettes).1.selected := by
  intro w palettes between
  let last := next .default w (palettes.take 2) (some [⟨"e"⟩, ⟨"f"⟩, ⟨"g"⟩])
  obtain ⟨-, each, -, -, -, roles, -⟩ := run_settles .default w palettes
  exact ⟨((each between (.tail _ (.head _))).2.1 rfl).1,
    (roles 0 .selected rfl).2 last rfl rfl⟩

end Palette

end ThemeEditor
