/-
# ThemeEditor.Proofs.Config.Reading -- how values are converted

A reader of a value looks at the scalar that it is, and at neither its key nor its
origin (`Uniform`).  So what becomes of a value depends on the value alone
(`asText`, `asSmall`, `asNatural`), and one that may be left out is read exactly
when it can be converted (`readOptional_eq_ok`).

A configuration is read from the values at the end of six paths, provided that
what is configured of the log is a table (`ofTree_eq_ok`).
-/
import ThemeEditor.Config.Read
import ThemeEditor.Proofs.Config.Paths

namespace ThemeEditor.Config

set_option autoImplicit false

open ThemeEditor.Config.Tree (nothing)

/-! ## One value -/

/-- A reader that looks at scalars only, and not at keys and origins. -/
def Uniform {α : Type} (read : String → Tree → Except Mismatch α) : Prop :=
  ∀ (k l : String) {t u : Tree}, t.scalar? = u.scalar? →
    (read k t).toOption = (read l u).toOption

theorem uniform_readText : Uniform readText := by
  intro k l t u same
  cases t <;> cases u <;> simp only [Tree.scalar?, Option.some.injEq, reduceCtorEq] at same
  · next s _ _ _ =>
    subst same
    cases s <;> rfl
  all_goals rfl

theorem uniform_readNatural : Uniform readNatural := by
  intro k l t u same
  cases t <;> cases u <;> simp only [Tree.scalar?, Option.some.injEq, reduceCtorEq] at same
  · next s _ _ _ =>
    subst same
    cases s with
    | integer n =>
        rw [readNatural, readNatural]
        split <;> rfl
    | text t =>
        rw [readNatural, readNatural]
        cases numberOfText? t <;> rfl
    | _ => rfl
  all_goals rfl

theorem uniform_readSmall : Uniform readSmall := by
  intro k l t u same
  have natural := uniform_readNatural k l same
  unfold readSmall
  revert natural
  cases readNatural k t <;> cases readNatural l u <;> intro natural <;>
    simp only [Except.toOption, Option.some.injEq, reduceCtorEq] at natural
  · rfl
  · subst natural
    dsimp only
    split <;> rfl

/-- A value as it is converted by a reader. -/
def converted {α : Type} (read : String → Tree → Except Mismatch α) (v : Json.Value) : Option α :=
  (read "" (Tree.ofValue none v)).toOption

/-- A value as a text. -/
def asText : Json.Value → Option String :=
  converted readText

/-- A value as a natural number of 8 bits. -/
def asSmall : Json.Value → Option UInt8 :=
  converted readSmall

/-- A value as a natural number of 64 bits. -/
def asNatural : Json.Value → Option UInt64 :=
  converted readNatural

/-- A tree that is, as far as a reader can tell, a value that is not null, or is missing with it. -/
def Stands (v? : Option Json.Value) (t? : Option Tree) : Prop :=
  t?.map Tree.scalar? = v?.map (fun v => (Tree.ofValue none v).scalar?) ∧ v? ≠ some .null

/-- A value is read if it is missing or can be converted. -/
theorem readOptional_eq_ok {α : Type} {read : String → Tree → Except Mismatch α}
    (uniform : Uniform read) {v? : Option Json.Value} {t? : Option Tree} (stands : Stands v? t?)
    (key : String) (a? : Option α) :
    readOptional read key t? = .ok a? ↔
      a? = v?.bind (converted read) ∧ ∀ v, v? = some v → (converted read v).isSome = true := by
  obtain ⟨same, notNull⟩ := stands
  cases v? with
  | none =>
      rw [Option.map_none, Option.map_eq_none_iff] at same
      subst same
      exact ⟨fun read => ⟨(Except.ok.inj read).symm, nofun⟩, fun read => congrArg _ read.1.symm⟩
  | some v =>
      obtain ⟨t, rfl, scalar⟩ := Option.map_eq_some_iff.1 same
      have given : ∀ origin, t ≠ .scalar .null origin := by
        rintro origin rfl
        cases v with
        | null => exact notNull rfl
        | number n => cases n <;> cases scalar
        | _ => cases scalar
      have reads := uniform key "" scalar
      have unfolded : readOptional read key (some t) = (read key t).map some := by
        unfold readOptional
        split
        · next heq => cases heq
        · next origin heq => exact absurd (Option.some.inj heq) (given origin)
        · next heq =>
          cases heq
          cases read key t <;> rfl
      rw [unfolded, Option.bind_some]
      cases done : read key t with
      | error m =>
          have lost : converted read v = none := by rw [converted, ← reads, done]; rfl
          refine ⟨nofun, fun ⟨_, converts⟩ => ?_⟩
          have converts := converts v rfl
          rw [lost] at converts
          cases converts
      | ok a =>
          have found : converted read v = some a := by rw [converted, ← reads, done]; rfl
          rw [found]
          refine ⟨fun same => ⟨(Except.ok.inj same).symm, ?_⟩, fun ⟨same, _⟩ => congrArg _ same.symm⟩
          rintro w ⟨⟩
          rw [found]
          rfl

/-! ## A configuration -/

/-- What is configured of the log is read from the two values of a table. -/
theorem readLog_eq_ok {t : Tree} (isTable : t.isTable = true) {log : LogConfig} :
    readLog "logging" t = .ok log ↔
      readOptional readText "logging.level" (t.get? "level") = .ok log.level? ∧
        readOptional readText "logging.file" (t.get? "file") = .ok log.file? := by
  cases t with
  | table ms origin =>
      simp only [readLog, bind_eq_ok, pure, Except.pure, Except.ok.injEq]
      constructor
      · rintro ⟨level, first, file, second, rfl⟩
        exact ⟨first, second⟩
      · rintro ⟨first, second⟩
        exact ⟨_, first, _, second, rfl⟩
  | _ => cases isTable

theorem find?_one (t : Tree) (k : String) : t.find? [k] = t.get? k := by
  rw [Tree.find?]
  cases t.get? k <;> rfl

theorem find?_two (t : Tree) (k l : String) :
    t.find? [k, l] = (t.get? k).bind fun u => u.get? l := by
  rw [Tree.find?]
  cases t.get? k with
  | none => rfl
  | some u => exact find?_one u l

/-- A configuration is read from six values. -/
theorem ofTree_eq_ok {t : Tree} {c : Config}
    (isTable : ∀ u, t.get? "logging" = some u → u.isTable = true) :
    ofTree t = .ok c ↔
      readOptional readText "theme_service_url" (t.find? ["theme_service_url"]) =
          .ok c.serviceUrl? ∧
        readOptional readSmall "theme_file_count" (t.find? ["theme_file_count"]) =
          .ok c.fileCount? ∧
        readOptional readNatural "request_timeout_secs" (t.find? ["request_timeout_secs"]) =
          .ok c.timeout? ∧
        readOptional readText "storage_dir" (t.find? ["storage_dir"]) = .ok c.storage? ∧
        readOptional readText "logging.level" (t.find? ["logging", "level"]) = .ok c.log.level? ∧
        readOptional readText "logging.file" (t.find? ["logging", "file"]) = .ok c.log.file? := by
  simp only [find?_one, find?_two]
  cases found : t.get? "logging" with
  | none =>
      simp only [ofTree, bind_eq_ok, found, pure, Except.pure, Except.ok.injEq, Option.bind_none]
      constructor
      · rintro ⟨url, h1, count, h2, timeout, h3, storage, h4, read, rfl, rfl⟩
        exact ⟨h1, h2, h3, h4, rfl, rfl⟩
      · rintro ⟨h1, h2, h3, h4, level, file⟩
        obtain ⟨url, count, timeout, storage, level?, file?⟩ := c
        cases level
        cases file
        exact ⟨_, h1, _, h2, _, h3, _, h4, _, rfl, rfl⟩
  | some u =>
      simp only [ofTree, bind_eq_ok, found, pure, Except.pure, Except.ok.injEq, Option.bind_some,
        readLog_eq_ok (isTable u found)]
      constructor
      · rintro ⟨url, h1, count, h2, timeout, h3, storage, h4, read, h5, rfl⟩
        exact ⟨h1, h2, h3, h4, h5⟩
      · rintro ⟨h1, h2, h3, h4, h5⟩
        exact ⟨_, h1, _, h2, _, h3, _, h4, _, h5, rfl⟩

end ThemeEditor.Config
