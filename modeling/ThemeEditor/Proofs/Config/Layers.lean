/-
# ThemeEditor.Proofs.Config.Layers -- which layer a value comes from

The configuration file is the lower layer and the environment, with what the file of
variables adds to it, is the upper one.  In the tree of both, each value stands as it
is in effect (`stands_bothLayers`).  A configuration is loaded exactly when all values
that are in effect can be converted and are within their limits (`load_eq_ok_iff`),
and then each of them is in force (`layered`).

This is so as long as no variable is in the way of another one.  Names that merely
look different are not enough (`hidden_by_names_apart`).
-/
import Mathlib.Data.List.Permutation
import ThemeEditor.Proofs.Config.Find
import ThemeEditor.Proofs.Config.Limits
import ThemeEditor.Proofs.Config.Setting

namespace ThemeEditor.Config

set_option autoImplicit false

open ThemeEditor.Config.Tree (Segment Apart segments nothing)
open Toml (IsValue)

/-! ## Both layers -/

/-- Of named scalars that part at a key, the one that leads to a value is found there. -/
theorem find?_layer (s : Setting) : ∀ {named : List (String × Tree)} (t : Tree),
    (named.map Prod.fst).Nodup → (∀ m ∈ named, ∃ text, m.2 = variableTree text) →
      (∀ m ∈ named, m.1 = s.name ∨ Apart (segments m.1) s.keys) →
        (t.layer named).find? s.keys =
          ((named.find? fun m => m.1 = s.name).map (·.2)).or (t.find? s.keys)
  | [], _, _, _, _ => rfl
  | (name, u) :: named, t, distinct, texts, each => by
      obtain ⟨new, distinct⟩ := List.nodup_cons.1 distinct
      obtain ⟨first, texts⟩ := List.forall_mem_cons.1 texts
      obtain ⟨here, each⟩ := List.forall_mem_cons.1 each
      have step : t.layer ((name, u) :: named) = (Tree.setAt u (segments name) t).layer named := rfl
      rw [step, find?_layer s _ distinct texts each, List.find?_cons]
      by_cases same : name = s.name
      · obtain ⟨text, rfl⟩ := first
        have later : named.find? (fun m => m.1 = s.name) = none := by
          refine List.find?_eq_none.2 fun m member found => new ?_
          have inside : m.1 ∈ named.map Prod.fst := List.mem_map_of_mem member
          have key : m.1 = s.name := of_decide_eq_true found
          exact same ▸ key ▸ inside
        rw [later, same, segments_name, Setting.path, variableTree, Tree.find?_setAt_self]
        simp
      · rw [Tree.find?_setAt_apart (here.resolve_left same)]
        simp [same]

/-- What is configured of the log stays a table. -/
theorem isTable_layer : ∀ {named : List (String × Tree)} {t : Tree},
    (∀ m ∈ named, ∀ rest, segments m.1 = .key "logging" :: rest →
      ∃ l rest', rest = .key l :: rest') →
      (∀ u, t.get? "logging" = some u → u.isTable = true) →
        ∀ u, (t.layer named).get? "logging" = some u → u.isTable = true
  | [], _, _, isTable => isTable
  | (name, v) :: named, t, within, isTable => by
      obtain ⟨first, rest⟩ := List.forall_mem_cons.1 within
      obtain ⟨k, path, named'⟩ := Tree.segments_cons name
      have step : t.layer ((name, v) :: named) = (Tree.setAt v (segments name) t).layer named := rfl
      rw [step, named']
      refine isTable_layer rest (Tree.isTable_setAt (fun same => first path ?_) v isTable)
      rw [named', same]

section

variable {d : Disk} {env env' : Environment} {path : Option String}
  {definitions : List (String × String)} {values : List (String × Json.Value)} {c : Config}

theorem isValue_of_fileHolds (holds : FileHolds d env path values) : IsValue (.object values) := by
  cases holds with
  | found _ _ _ read => exact Toml.isValue_of_read read
  | missing => exact .object List.nodup_nil nofun

theorem isValue_valueAt : ∀ {ks : List String} {v w : Json.Value}, IsValue v →
    valueAt ks v = some w → IsValue w
  | [], _, _, isValue, same => Option.some.inj same ▸ isValue
  | k :: ks, v, w, isValue, found => by
      cases isValue with
      | object distinct members =>
          obtain ⟨m, here, below⟩ := Option.bind_eq_some_iff.1 found
          exact isValue_valueAt (members m (List.mem_of_find?_eq_some here)) below
      | _ => cases found

/-- The tree of both layers. -/
def bothLayers (origin : Option String) (values : List (String × Json.Value)) (env : Environment) :
    Tree :=
  (Tree.mergeMembers (.table [] none) (Tree.ofMembers origin values)).layer (environmentLayer env)

theorem layers_eq (regular : Regular values) (holds : FileHolds d env path values) :
    ∃ origin, layers d env path = .ok (bothLayers origin values env) := by
  obtain ⟨origin, read⟩ := layers_of_fileHolds holds
  exact ⟨origin, by rw [read, Tree.layer_ofMembers regular.plain, bothLayers]⟩

/-- A variable is the one of a value, or parts from it at a key. -/
theorem Unambiguous.apart (unambiguous : Unambiguous env.entries) (s : Setting)
    {m : String × Tree} (member : m ∈ environmentLayer env) :
    m.1 = s.name ∨ Apart (segments m.1) s.keys := by
  obtain ⟨v, inside, named, -⟩ := mem_environmentLayer member
  by_cases same : segments m.1 = s.path
  · exact .inl (eq_name_of_segments same)
  · exact .inr (apart_of_segments
      (fun shorter => same (unambiguous.shorter v inside _ named s shorter))
      (fun longer => same (unambiguous.longer v inside _ named s longer))
      (unambiguous.noList v inside _ named))

/-- A variable for the log names something in its table. -/
theorem Unambiguous.within (unambiguous : Unambiguous env.entries) {m : String × Tree}
    (member : m ∈ environmentLayer env) {rest : List Segment}
    (log : segments m.1 = .key "logging" :: rest) : ∃ l rest', rest = .key l :: rest' := by
  obtain ⟨v, inside, named, -⟩ := mem_environmentLayer member
  cases rest with
  | nil =>
      have shorter : segments m.1 <+: Setting.level.path := by
        rw [log]
        exact List.prefix_append [Segment.key "logging"] [.key "level"]
      have same := unambiguous.shorter v inside _ named .level shorter
      rw [log] at same
      cases same
  | cons step rest =>
      cases step with
      | key l => exact ⟨l, rest, rfl⟩
      | index place => exact absurd log (unambiguous.noList v inside _ named place rest)

theorem isTable_bothLayers (isValue : IsValue (.object values)) (regular : Regular values)
    (unambiguous : Unambiguous env.entries) (origin : Option String) :
    ∀ u, (bothLayers origin values env).get? "logging" = some u → u.isTable = true := by
  refine isTable_layer (fun m member rest => unambiguous.within member) fun u found => ?_
  cases isValue with
  | object distinct members =>
      rw [Tree.get?_ofMembers distinct] at found
      obtain ⟨m, here, rfl⟩ := Option.map_eq_some_iff.1 found
      have named : m.1 = "logging" := by simpa using List.find?_some here
      obtain ⟨ms, object⟩ := regular.log m.2 (named ▸ List.mem_of_find?_eq_some here)
      rw [object, Tree.merge_nothing_object]
      exact Tree.isTable_mergeMembers _ rfl

/-- At the end of the path of a value stands what is in effect. -/
theorem stands_bothLayers (isValue : IsValue (.object values)) {d : Disk}
    (unambiguous : Unambiguous (Dotenv.extend d env).entries) (origin : Option String)
    (s : Setting) :
    Stands (effective env (Dotenv.fileDefinitions d env) values s)
      ((bothLayers origin values (Dotenv.extend d env)).find? s.keys) := by
  have named := find?_environmentLayer s.name unambiguous.once
  rw [Dotenv.extend_eq_offered] at unambiguous named ⊢
  have found := find?_layer s (Tree.mergeMembers (.table [] none) (Tree.ofMembers origin values))
    (nodup_environmentLayer (Dotenv.offered env (Dotenv.fileDefinitions d env)))
    (fun m member => by
      obtain ⟨-, -, -, text⟩ := mem_environmentLayer member
      exact text)
    (fun m member => unambiguous.apart s member)
  have looked := Dotenv.find?_offered (fun n => nameOf? n = some s.name)
    (Dotenv.fileDefinitions d env) env
  rw [bothLayers, found, named, looked, effective, Setting.text?]
  cases (env.entries.find? fun v => nameOf? v.1 = some s.name).or
      ((Dotenv.fileDefinitions d env).find? fun v => nameOf? v.1 = some s.name) with
  | some v => exact ⟨rfl, nofun⟩
  | none =>
      refine ⟨?_, fun null => ?_⟩
      · rw [← Tree.merge_nothing_object]
        exact Tree.scalar?_find?_merge origin s.keys isValue
      · cases isValue_valueAt isValue null

/-! ## What is loaded -/

theorem load_eq_ok_iff_ofTree : load d env path = .ok c ↔
    ∃ t, layers d env path = .ok t ∧ ofTree t = .ok c ∧ c.WithinLimits := by
  unfold load
  cases layers d env path with
  | error e => simp
  | ok t =>
      dsimp only
      cases read : ofTree t with
      | error m => simp [read]
      | ok c' =>
          rw [← limitFaults_eq_nil_iff]
          dsimp only
          by_cases limits : c'.limitFaults = []
          · simp [limits, read]
            rintro rfl
            exact limits
          · simp [limits, read]
            rintro rfl
            exact limits

/-- A configuration is read from a tree in which the values stand, if all can be converted. -/
theorem ofTree_configured {value : Setting → Option Json.Value} {t : Tree}
    (stands : ∀ s : Setting, Stands (value s) (t.find? s.keys))
    (isTable : ∀ u, t.get? "logging" = some u → u.isTable = true) :
    ofTree t = .ok c ↔
      c = configured value ∧ ∀ s v, value s = some v → s.converts v = true := by
  obtain ⟨url?, count?, timeout?, storage?, level?, file?⟩ := c
  have url := readOptional_eq_ok uniform_readText (stands .serviceUrl) "theme_service_url" url?
  have count := readOptional_eq_ok uniform_readSmall (stands .fileCount) "theme_file_count" count?
  have timeout := readOptional_eq_ok uniform_readNatural (stands .timeout) "request_timeout_secs"
    timeout?
  have storage := readOptional_eq_ok uniform_readText (stands .storage) "storage_dir" storage?
  have level := readOptional_eq_ok uniform_readText (stands .level) "logging.level" level?
  have file := readOptional_eq_ok uniform_readText (stands .file) "logging.file" file?
  dsimp only [Setting.keys] at url count timeout storage level file
  rw [ofTree_eq_ok isTable, url, count, timeout, storage, level, file]
  constructor
  · rintro ⟨⟨rfl, h1⟩, ⟨rfl, h2⟩, ⟨rfl, h3⟩, ⟨rfl, h4⟩, ⟨rfl, h5⟩, ⟨rfl, h6⟩⟩
    refine ⟨rfl, fun s => ?_⟩
    cases s with
    | serviceUrl => exact h1
    | fileCount => exact h2
    | timeout => exact h3
    | storage => exact h4
    | level => exact h5
    | file => exact h6
  · rintro ⟨same, converts⟩
    cases same
    exact ⟨⟨rfl, converts .serviceUrl⟩, ⟨rfl, converts .fileCount⟩, ⟨rfl, converts .timeout⟩,
      ⟨rfl, converts .storage⟩, ⟨rfl, converts .level⟩, ⟨rfl, converts .file⟩⟩

/-- **What is loaded are the values in effect, if all of them can be converted and are within their
limits.** -/
theorem load_eq_ok_iff (regular : Regular values)
    (unambiguous : Unambiguous (Dotenv.extend d env).entries)
    (holds : FileHolds d (Dotenv.extend d env) path values) :
    let value := effective env (Dotenv.fileDefinitions d env) values
    load d (Dotenv.extend d env) path = .ok c ↔
      c = configured value ∧ (∀ s v, value s = some v → s.converts v = true) ∧ c.WithinLimits := by
  intro value
  have isValue := isValue_of_fileHolds holds
  obtain ⟨origin, layered⟩ := layers_eq regular holds
  have isTable := isTable_bothLayers isValue regular unambiguous origin
  have reads := ofTree_configured (c := c) (stands_bothLayers isValue unambiguous origin) isTable
  rw [load_eq_ok_iff_ofTree, layered]
  constructor
  · rintro ⟨t, same, read, limits⟩
    cases same
    obtain ⟨made, converts⟩ := reads.1 read
    exact ⟨made, converts, limits⟩
  · rintro ⟨made, converts, limits⟩
    exact ⟨_, rfl, reads.2 ⟨made, converts⟩, limits⟩

/-- What is not left out is in force, converted. -/
theorem takes_getD {α : Type} {convert : Json.Value → Option α} {value : Option Json.Value}
    (converts : ∀ v, value = some v → (convert v).isSome = true) (default : α) :
    Takes convert value default ((value.bind convert).getD default) := by
  cases value with
  | none => rfl
  | some v =>
      obtain ⟨a, converted⟩ := Option.isSome_iff_exists.1 (converts v rfl)
      simp only [Takes, Option.bind_some, converted, Option.getD_some]

theorem takes_option {α : Type} {convert : Json.Value → Option α} {value : Option Json.Value}
    (converts : ∀ v, value = some v → (convert v).isSome = true) :
    Takes (fun v => (convert v).map some) value none (value.bind convert) := by
  cases value with
  | none => rfl
  | some v =>
      obtain ⟨a, converted⟩ := Option.isSome_iff_exists.1 (converts v rfl)
      simp only [Takes, Option.bind_some, converted, Option.map_some]

theorem inForce_configured {value : Setting → Option Json.Value}
    (converts : ∀ s v, value s = some v → s.converts v = true) (env : Environment) :
    InForce (configured value) env value where
  serviceUrl := takes_getD (converts .serviceUrl) _
  fileCount := takes_getD (converts .fileCount) _
  timeout := takes_option (converts .timeout)
  storage := takes_getD (converts .storage) _
  level := takes_getD (converts .level) _
  file := takes_option (converts .file)

/-- **Each value in force comes from the first layer that has one.**  If a configuration is loaded,
each of its six values is, independently of the others, the converted text of its variable in the
environment, or else of the variable's first definition in the file of variables, or else what the
configuration file holds, or else its default; and the configuration is within its limits.  If all
values in effect can be converted and are within the limits, a configuration is loaded. -/
theorem layered (regular : Regular values)
    (unambiguous : Unambiguous (Dotenv.extend d env).entries)
    (holds : FileHolds d (Dotenv.extend d env) path values) :
    let env' := Dotenv.extend d env
    let value := effective env (Dotenv.fileDefinitions d env) values
    (∀ c, load d env' path = .ok c → InForce c env' value ∧ c.WithinLimits) ∧
      ((∀ s v, value s = some v → s.converts v = true) → (configured value).WithinLimits →
        load d env' path = .ok (configured value)) := by
  intro env' value
  refine ⟨fun c loaded => ?_, fun converts limits => ?_⟩
  · obtain ⟨rfl, converts, limits⟩ := (load_eq_ok_iff regular unambiguous holds).1 loaded
    exact ⟨inForce_configured converts env', limits⟩
  · exact (load_eq_ok_iff regular unambiguous holds).2 ⟨rfl, converts, limits⟩

end

/-! ## A file, its variables, and the environment -/

/-- A disk with a configuration file, and a file of variables beside it. -/
def configDisk (document variableFile : String) : Disk :=
  ((Disk.blank ["home"]).put ["home", "c.toml"] (.file document.toUTF8)).put ["home", ".env"]
    (.file variableFile.toUTF8)

/-- The configuration file is found by its name. -/
theorem find_configDisk (document variableFile : String) :
    find (configDisk document variableFile) "c.toml" = .ok ("/home/c.toml", .toml) := by
  have full : Disk.join (pathOf (configDisk document variableFile).current) "c.toml" =
      "/home/c.toml" := by
    have here : (configDisk document variableFile).current = ["home"] := rfl
    rw [here]
    rfl
  have there : isFile (configDisk document variableFile) "/home/c.toml" = true := rfl
  have suffix : extension? "/home/c.toml" = some "toml" := by rfl
  rw [find, full, there, if_pos rfl, suffix]
  rfl

/-- A document that configures the log. -/
def logDocument : String :=
  "[logging]\nlevel=\"warn\"\nfile=\"a\"\n"

/-- Its members. -/
def logMembers : List (String × Json.Value) :=
  [("logging", .object [("file", .text "a"), ("level", .text "warn")])]

theorem regular_logMembers : Regular logMembers := by
  refine ⟨by decide, fun v member => ?_⟩
  cases List.mem_singleton.1 member
  exact ⟨_, rfl⟩

set_option maxRecDepth 2000 in
theorem fileHolds_logDocument (variableFile : String) (env : Environment) :
    FileHolds (configDisk logDocument variableFile) env (some "c.toml") logMembers := by
  have readable : (configDisk logDocument variableFile).readBytes "/home/c.toml" =
      .ok logDocument.toUTF8 := rfl
  have unmarked : logDocument.toUTF8.toList.take 3 ≠ [0xEF, 0xBB, 0xBF] := by decide +kernel
  have read : Toml.read logDocument = .ok logMembers := by cbv
  exact .found (.inl rfl) (find_configDisk _ _) readable ((lossy_withoutMark unmarked).symm ▸ read)

/-- A line that defines the level of the log. -/
def levelLine : String :=
  "PALETTE_STUDIO_LOGGING__LEVEL=debug\n"

/-- An environment with a number of files. -/
def countEnvironment : Environment :=
  ⟨[("HOME", "/home"), ("PALETTE_STUDIO_THEME_FILE_COUNT", "5")]⟩

/-- The file of variables beside the configuration file is read. -/
theorem fileDefinitions_configDisk (document variableFile : String) (env : Environment) :
    Dotenv.fileDefinitions (configDisk document variableFile) env =
      Dotenv.definitions env [] (Dotenv.fileLines variableFile.toUTF8) := by
  have nearest : Dotenv.nearest? (configDisk document variableFile) = some variableFile.toUTF8 :=
    rfl
  rw [Dotenv.fileDefinitions, nearest]

theorem fileDefinitions_levelLine :
    Dotenv.fileDefinitions (configDisk logDocument levelLine) countEnvironment =
      [("PALETTE_STUDIO_LOGGING__LEVEL", "debug")] := by
  have lines : Dotenv.fileLines levelLine.toUTF8 =
      [some "PALETTE_STUDIO_LOGGING__LEVEL=debug".toList, some []] := by decide +kernel
  rw [fileDefinitions_configDisk, lines]
  rfl

/-- The number comes from the environment, the level from the file of variables, and the file of the
log still from the configuration file. -/
theorem layered_threeLayers :
    let d := configDisk logDocument levelLine
    let env' := Dotenv.extend d countEnvironment
    let c : Config := ⟨none, some 5, none, none, ⟨some "debug", some "a"⟩⟩
    Regular logMembers ∧ Unambiguous env'.entries ∧
      FileHolds d env' (some "c.toml") logMembers ∧
      load d env' (some "c.toml") = .ok c ∧ c.logLevel = "debug" ∧
      InForce c env' (effective countEnvironment [("PALETTE_STUDIO_LOGGING__LEVEL", "debug")]
        logMembers) := by
  intro d env' c
  have extended : env' = ⟨[("HOME", "/home"), ("PALETTE_STUDIO_THEME_FILE_COUNT", "5"),
      ("PALETTE_STUDIO_LOGGING__LEVEL", "debug")]⟩ := by
    refine (Dotenv.extend_eq_offered d countEnvironment).trans ?_
    rw [fileDefinitions_levelLine]
    rfl
  have unambiguous : Unambiguous env'.entries := by
    rw [extended]
    refine unambiguous_of_names (by unfold Once; decide) fun v member name named => ?_
    simp only [List.mem_cons, List.not_mem_nil, or_false] at member
    rcases member with rfl | rfl | rfl
    · cases named
    · exact ⟨.fileCount, (Option.some.inj named).symm⟩
    · exact ⟨.level, (Option.some.inj named).symm⟩
  have holds : FileHolds d env' (some "c.toml") logMembers := fileHolds_logDocument _ _
  obtain ⟨forces, loads⟩ := layered regular_logMembers unambiguous holds
  rw [fileDefinitions_levelLine] at forces loads
  have loaded : load d env' (some "c.toml") = .ok c := by
    refine loads (fun s v => ?_) ?_
    · cases s <;> rintro ⟨⟩ <;> rfl
    · exact (limitFaults_eq_nil_iff _).1 rfl
  exact ⟨regular_logMembers, unambiguous, holds, loaded, rfl, (forces c loaded).1⟩

/-! ## Names that are apart and still in the way -/

/-- An environment with a variable that names an item of a list. -/
def itemEnvironment : Environment :=
  ⟨[("HOME", "/home"), ("PALETTE_STUDIO_LOGGING[1]", "x")]⟩

/-- An environment with the level of the log. -/
def levelEnvironment : Environment :=
  ⟨[("HOME", "/home"), ("PALETTE_STUDIO_LOGGING__LEVEL", "error")]⟩

/-- A line that defines the level too, with a point for the underscores. -/
def pointLine : String :=
  "PALETTE_STUDIO_LOGGING.LEVEL=debug\n"

/-- The environment with both levels. -/
def bothEnvironment : Environment :=
  ⟨[("HOME", "/home"), ("PALETTE_STUDIO_LOGGING__LEVEL", "error"),
    ("PALETTE_STUDIO_LOGGING.LEVEL", "debug")]⟩

/-- With a file of variables and an environment, whose names differ in more than case, one level is
in effect and another one in force. -/
def Hides (variableFile : String) (env : Environment) (level now : String) : Prop :=
  let d := configDisk logDocument variableFile
  let env' := Dotenv.extend d env
  let value := effective env (Dotenv.fileDefinitions d env) logMembers
  FileHolds d env' (some "c.toml") logMembers ∧ NamesWhole env'.entries ∧
    env'.entries.Pairwise (fun v w => Text.lower v.1 ≠ Text.lower w.1) ∧
    value .level = some (.text level) ∧
    ∃ c, load d env' (some "c.toml") = .ok c ∧ c.logLevel = now ∧ ¬ InForce c env' value

theorem hides_of_definitions {variableFile : String} {env env' : Environment}
    {level now : String} {entries : List (String × String)} {c : Config}
    (defined : Dotenv.fileDefinitions (configDisk logDocument variableFile) env = entries)
    (offered : Dotenv.offered env entries = env') (names : NamesWhole env'.entries)
    (spelled : env'.entries.Pairwise fun v w => Text.lower v.1 ≠ Text.lower w.1)
    (value : effective env entries logMembers .level = some (.text level))
    (reads : ∀ origin, ofTree (bothLayers origin logMembers env') = .ok c)
    (limits : c.limitFaults = []) (inForce : c.logLevel = now) (other : level ≠ now) :
    Hides variableFile env level now := by
  have extended := Dotenv.extend_eq_offered (configDisk logDocument variableFile) env
  rw [defined, offered] at extended
  unfold Hides
  dsimp only
  rw [extended, defined]
  have holds := fileHolds_logDocument variableFile env'
  obtain ⟨origin, both⟩ := layers_eq regular_logMembers holds
  refine ⟨holds, names, spelled, value, c, ?_, inForce, fun force => other ?_⟩
  · exact load_eq_ok_iff_ofTree.2 ⟨_, both, reads origin, (limitFaults_eq_nil_iff c).1 limits⟩
  · have level := force.level
    rw [value, inForce] at level
    exact Option.some.inj level

/-- The table of the log becomes a list, and the level of the file is lost. -/
theorem hides_item : Hides "" itemEnvironment "warn" "info" := by
  have lines : Dotenv.fileLines "".toUTF8 = [some []] := by decide +kernel
  have defined : Dotenv.fileDefinitions (configDisk logDocument "") itemEnvironment = [] := by
    rw [fileDefinitions_configDisk, lines]
    rfl
  have apart : ∀ s : Setting, ¬ segments "logging[1]" <+: s.path ∧
      ¬ s.path <+: segments "logging[1]" := by
    intro s
    cases s <;> decide
  have item : ∀ v ∈ itemEnvironment.entries, ∀ name, nameOf? v.1 = some name →
      name = "logging[1]" := by
    intro v member name named
    rcases List.mem_pair.1 member with rfl | rfl
    · cases named
    · exact (Option.some.inj named).symm
  have names : NamesWhole itemEnvironment.entries :=
    ⟨fun v member name named s shorter => absurd (item v member name named ▸ shorter) (apart s).1,
      fun v member name named s longer => absurd (item v member name named ▸ longer) (apart s).2⟩
  have reads : ∀ origin, ofTree (bothLayers origin logMembers itemEnvironment) =
      .ok ⟨none, none, none, none, ⟨none, some "x"⟩⟩ := fun _ => rfl
  exact hides_of_definitions defined rfl names (by decide) rfl reads rfl rfl (by decide)

/-- The level of the file of variables comes later than the one of the environment. -/
theorem hides_point : Hides pointLine levelEnvironment "error" "debug" := by
  have lines : Dotenv.fileLines pointLine.toUTF8 =
      [some "PALETTE_STUDIO_LOGGING.LEVEL=debug".toList, some []] := by decide +kernel
  have defined : Dotenv.fileDefinitions (configDisk logDocument pointLine) levelEnvironment =
      [("PALETTE_STUDIO_LOGGING.LEVEL", "debug")] := by
    rw [fileDefinitions_configDisk, lines]
    rfl
  have home : nameOf? "HOME" = none := rfl
  have underscores : nameOf? "PALETTE_STUDIO_LOGGING__LEVEL" = some Setting.level.name := rfl
  have point : nameOf? "PALETTE_STUDIO_LOGGING.LEVEL" = some Setting.level.name := rfl
  have names : NamesWhole bothEnvironment.entries := by
    refine namesWhole_of_names fun v member name named => ?_
    simp only [bothEnvironment, List.mem_cons, List.not_mem_nil, or_false] at member
    rcases member with rfl | rfl | rfl
    · cases home.symm.trans named
    · exact ⟨.level, Option.some.inj (named.symm.trans underscores)⟩
    · exact ⟨.level, Option.some.inj (named.symm.trans point)⟩
  have layer : environmentLayer bothEnvironment =
      [(Setting.level.name, variableTree "debug")] := by
    simp only [environmentLayer, bothEnvironment, List.foldl_cons, List.foldl_nil, home,
      underscores, point]
    rfl
  have reads : ∀ origin, ofTree (bothLayers origin logMembers bothEnvironment) =
      .ok ⟨none, none, none, none, ⟨some "debug", some "a"⟩⟩ := by
    intro origin
    have set : bothLayers origin logMembers bothEnvironment =
        Tree.setAt (variableTree "debug") (segments Setting.level.name)
          (Tree.mergeMembers (.table [] none) (Tree.ofMembers origin logMembers)) := by
      rw [bothLayers, layer]
      rfl
    rw [set, segments_name]
    rfl
  exact hides_of_definitions defined rfl names (by decide) rfl reads rfl rfl (by decide)

/-- **A variable may be in the way of a value although its name is apart.**  One that names an item
of a list makes a list of the table of the log, and the values of the file are lost.  Another one
has a point for two underscores, so that the level of the file of variables takes the place of the
one of the environment. -/
theorem hidden_by_names_apart :
    Hides "" itemEnvironment "warn" "info" ∧ Hides pointLine levelEnvironment "error" "debug" :=
  ⟨hides_item, hides_point⟩

end ThemeEditor.Config
