/-
# ThemeEditor.Proofs.Config.Variables -- the variables in force

The file of variables is read up to its first line that cannot be read, and what
its lines define is offered to the environment one by one
(`Dotenv.extend_eq_foldl`).  A variable that is set keeps its value, so that of
several definitions the first one counts, behind the environment itself
(`find?_offered`).

The layer of the environment has each name once (`nodup_environmentLayer`).  If no
two variables have the same name there, it holds the text of that one variable
(`find?_environmentLayer`).
-/
import Mathlib.Data.List.Induction
import ThemeEditor.Config.Dotenv
import ThemeEditor.Config.Load
import ThemeEditor.Proofs.Config.Paths

namespace ThemeEditor

set_option autoImplicit false

namespace Dotenv

/-! ## The file of variables -/

/-- What lines define, in their order, up to the first that cannot be read. -/
def definitions : Environment → List (String × String) → List (Option (List Char)) →
    List (String × String)
  | _, _, [] => []
  | _, _, none :: _ => []
  | env, defined, some line :: lines =>
      match readLine (inserted env defined) line with
      | .nothing => definitions env defined lines
      | .unreadable => []
      | .variable name value =>
          (name, value) :: definitions (env.withDefault name value) ((name, value) :: defined) lines

/-- What the nearest file of variables defines. -/
def fileDefinitions (d : Disk) (env : Environment) : List (String × String) :=
  match nearest? d with
  | none => []
  | some bytes => definitions env [] (fileLines bytes)

/-- The environment after variables were offered to it. -/
def offered (env : Environment) (entries : List (String × String)) : Environment :=
  entries.foldl (fun env v => env.withDefault v.1 v.2) env

theorem readLines_eq_offered : ∀ (lines : List (Option (List Char))) (env : Environment)
    (defined : List (String × String)),
    readLines env defined lines = offered env (definitions env defined lines)
  | [], _, _ => rfl
  | none :: _, _, _ => rfl
  | some line :: lines, env, defined => by
      rw [readLines, definitions]
      cases readLine (inserted env defined) line with
      | nothing => exact readLines_eq_offered lines env defined
      | unreadable => rfl
      | «variable» name value =>
          exact readLines_eq_offered lines (env.withDefault name value) ((name, value) :: defined)

theorem extend_eq_offered (d : Disk) (env : Environment) :
    extend d env = offered env (fileDefinitions d env) := by
  unfold extend fileDefinitions
  cases nearest? d with
  | none => rfl
  | some bytes => exact readLines_eq_offered _ env []

/-- A variable is looked for in the environment, and then among the definitions. -/
theorem find?_offered (p : String → Bool) : ∀ (entries : List (String × String))
    (env : Environment), ((offered env entries).entries.find? fun v => p v.1) =
      (env.entries.find? fun v => p v.1).or (entries.find? fun v => p v.1)
  | [], env => by rw [List.find?_nil, Option.or_none]; rfl
  | (name, value) :: entries, env => by
      have rest := find?_offered p entries (env.withDefault name value)
      have first : offered env ((name, value) :: entries) =
          offered (env.withDefault name value) entries := rfl
      rw [first, rest, List.find?_cons]
      unfold Environment.withDefault
      split
      · next isSet =>
        -- what is set already hides the definition
        cases sought : p name with
        | false => rfl
        | true =>
            obtain ⟨value', found⟩ := Option.isSome_iff_exists.1 isSet
            obtain ⟨v, there, -⟩ := Option.map_eq_some_iff.1 found
            have named : v.1 = name := by simpa using List.find?_some there
            have present : (env.entries.find? fun v => p v.1).isSome = true :=
              List.find?_isSome.2 ⟨v, List.mem_of_find?_eq_some there, named ▸ sought⟩
            obtain ⟨w, there'⟩ := Option.isSome_iff_exists.1 present
            rw [there', Option.some_or, Option.some_or]
      · rw [List.find?_append, Option.or_assoc, List.find?_cons]
        cases p name <;> rfl

end Dotenv

namespace Config

open ThemeEditor.Config.Tree (putMember find?_putMember)

/-! ## The layer of the environment -/

/-- The value of a variable. -/
def variableTree (text : String) : Tree :=
  .scalar (.text text) (some "the environment")

/-- The layer with one more variable. -/
def withVariable (ms : List (String × Tree)) (v : String × String) : List (String × Tree) :=
  match nameOf? v.1 with
  | none => ms
  | some name => putMember name (variableTree v.2) ms

theorem environmentLayer_snoc (entries : List (String × String)) (v : String × String) :
    environmentLayer ⟨entries ++ [v]⟩ = withVariable (environmentLayer ⟨entries⟩) v := by
  rw [environmentLayer, List.foldl_append]
  rfl

theorem keys_putMember (key : String) (t : Tree) : ∀ ms : List (String × Tree),
    (putMember key t ms).map Prod.fst =
      if key ∈ ms.map Prod.fst then ms.map Prod.fst else ms.map Prod.fst ++ [key]
  | [] => rfl
  | (k, u) :: ms => by
      rw [putMember]
      by_cases same : k = key
      · simp [same]
      · rw [if_neg same, List.map_cons, keys_putMember key t ms, List.map_cons]
        by_cases old : key ∈ ms.map Prod.fst
        · rw [if_pos old, if_pos (List.mem_cons_of_mem _ old)]
        · rw [if_neg old, if_neg (by simp [Ne.symm same, old]), List.cons_append]

theorem mem_putMember {key : String} {t : Tree} {m : String × Tree} :
    ∀ {ms : List (String × Tree)}, m ∈ putMember key t ms → m = (key, t) ∨ m ∈ ms
  | [], member => .inl (List.mem_singleton.1 member)
  | (k, u) :: ms, member => by
      rw [putMember] at member
      split at member
      · next same =>
        rcases List.mem_cons.1 member with first | rest
        · exact .inl (same ▸ first)
        · exact .inr (List.mem_cons_of_mem _ rest)
      · rcases List.mem_cons.1 member with first | rest
        · exact .inr (first ▸ List.mem_cons_self)
        · exact (mem_putMember rest).imp_right (List.mem_cons_of_mem _)

theorem nodup_environmentLayer (env : Environment) :
    ((environmentLayer env).map Prod.fst).Nodup := by
  obtain ⟨entries⟩ := env
  induction entries using List.reverseRecOn with
  | nil => exact List.nodup_nil
  | append_singleton entries v ih =>
      rw [environmentLayer_snoc, withVariable]
      split
      · exact ih
      · next name _ =>
        rw [keys_putMember]
        split
        · exact ih
        · next new =>
          rw [← List.concat_eq_append]
          exact ih.concat new

/-- No two variables have the same name in the configuration. -/
def Once (entries : List (String × String)) : Prop :=
  entries.Pairwise fun v w => nameOf? v.1 = nameOf? w.1 → nameOf? v.1 = none

theorem find?_environmentLayer (name : String) : ∀ {entries : List (String × String)},
    Once entries → ((environmentLayer ⟨entries⟩).find? fun m => m.1 = name) =
      (entries.find? fun v => nameOf? v.1 = some name).map
        fun v => (name, variableTree v.2) := by
  intro entries
  induction entries using List.reverseRecOn with
  | nil => exact fun _ => rfl
  | append_singleton entries v ih =>
      intro once
      obtain ⟨before, -, apart⟩ := List.pairwise_append.1 once
      rw [environmentLayer_snoc, withVariable, List.find?_append, List.find?_singleton]
      cases named : nameOf? v.1 with
      | none => simp [ih before]
      | some n =>
          dsimp only
          rw [find?_putMember, ih before]
          by_cases same : n = name
          · subst same
            have earlier : entries.find? (fun v => nameOf? v.1 = some n) = none := by
              refine List.find?_eq_none.2 fun w member found => ?_
              have found : nameOf? w.1 = some n := of_decide_eq_true found
              have none := apart w member v List.mem_cons_self (found.trans named.symm)
              rw [found] at none
              cases none
            simp [earlier]
          · simp [same]

theorem mem_environmentLayer {env : Environment} {m : String × Tree}
    (member : m ∈ environmentLayer env) :
    ∃ v ∈ env.entries, nameOf? v.1 = some m.1 ∧ ∃ text, m.2 = variableTree text := by
  obtain ⟨entries⟩ := env
  induction entries using List.reverseRecOn with
  | nil => cases member
  | append_singleton entries v ih =>
      have earlier : m ∈ environmentLayer ⟨entries⟩ → ∃ w ∈ entries ++ [v],
          nameOf? w.1 = some m.1 ∧ ∃ text, m.2 = variableTree text := by
        intro old
        obtain ⟨w, inside, named⟩ := ih old
        exact ⟨w, List.mem_append_left _ inside, named⟩
      rw [environmentLayer_snoc, withVariable] at member
      split at member
      · exact earlier member
      · next name named =>
        rcases mem_putMember member with rfl | old
        · exact ⟨v, by simp, named, v.2, rfl⟩
        · exact earlier old

end Config

end ThemeEditor
