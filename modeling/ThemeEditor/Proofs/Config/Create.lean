/-
# ThemeEditor.Proofs.Config.Create -- the first configuration changes nothing

The first configuration is written where none was, and directories are made for it.
That moves neither the file of variables (`extend_create`) nor anything that is in
force: what is loaded with it answers as what is loaded without it, and what cannot be
loaded with it cannot be loaded without it, for the same reason (`load_create`).

Two tables of defaults have to agree for that, the one of the text that is written and
the one of the configuration that leaves everything out.
-/
import ThemeEditor.Proofs.Config.Defaults
import ThemeEditor.Proofs.Config.Layers
import ThemeEditor.Proofs.Config.Once

namespace ThemeEditor.Config

set_option autoImplicit false

open Disk (Added IsName join)
open ThemeEditor.Config.Tree (segments)

variable {d d' : Disk} {env : Environment} {directory path : String}

/-! ## What is written -/

/-- A first configuration that is new was written into a directory that was there or was made. -/
theorem create_eq_ok (created : create d directory = (.ok ⟨path, true⟩, d')) :
    path = join directory "config.toml" ∧ ∃ between stops, Added d between ∧
      (between.withStops stops).writeBytes (join directory "config.toml") defaultText.toUTF8 =
        .ok d' := by
  have attempt := creates d directory
  rw [created] at attempt
  cases attempt with
  | written ready absent uncut written => exact ⟨rfl, _, _, added_of_ready ready, written⟩

/-- The nearest file of variables is the one that it was. -/
theorem nearest?_create (created : create d directory = (.ok ⟨path, true⟩, d')) :
    Dotenv.nearest? d' = Dotenv.nearest? d := by
  obtain ⟨-, between, stops, added, written⟩ := create_eq_ok created
  obtain ⟨parent, -, -, -, rfl⟩ := Disk.writeBytes_join isName_standard written
  have current : ((between.withStops stops).put (parent ++ ["config.toml"])
      (.file defaultText.toUTF8)).current = d.current := added.current
  unfold Dotenv.nearest?
  rw [current]
  congr 1
  funext route
  have other : route ++ [".env"] ≠ parent ++ ["config.toml"] := by
    intro same
    have last := (List.append_inj' same rfl).2
    exact absurd last (by decide)
  rw [Disk.node?_put (by simp), if_neg other, Disk.node?_withStops]
  cases before : d.node? (route ++ [".env"]) with
  | none =>
      cases after : between.node? (route ++ [".env"]) with
      | none => rfl
      | some e =>
          -- a directory that was made is no file of variables, whatever its name
          rw [added.made before after]
  | some e => rw [added.kept before]

theorem extend_create (created : create d directory = (.ok ⟨path, true⟩, d')) (env : Environment) :
    Dotenv.extend d' env = Dotenv.extend d env := by
  unfold Dotenv.extend
  rw [nearest?_create created]

/-! ## What is loaded -/

theorem limitFaults_congr {c c' : Config} (same : answers env c = answers env c') :
    c.limitFaults = c'.limitFaults := by
  have url : c.serviceUrl = c'.serviceUrl := congrArg Answers.serviceUrl same
  have count : c.fileCount = c'.fileCount := congrArg Answers.fileCount same
  have timeout : c.timeout? = c'.timeout? := congrArg Answers.timeout? same
  unfold limitFaults
  rw [url, count, timeout]

/-- Trees that give the same answers load the same answers. -/
theorem load_congr {t u : Tree} (before : layers d env none = .ok t)
    (after : layers d' env none = .ok u)
    (same : (ofTree u).map (answers env) = (ofTree t).map (answers env)) :
    (load d' env none).map (answers env) = (load d env none).map (answers env) := by
  unfold load
  rw [before, after]
  dsimp only
  cases read : ofTree t <;> cases read' : ofTree u <;>
    simp only [read, read', Except.map, Except.error.injEq, Except.ok.injEq, reduceCtorEq] at same
  · rw [same]
  · dsimp only
    rw [limitFaults_congr same]
    split
    · exact congrArg Except.ok same
    · rfl

section

variable (names : ∀ name ∈ d.current, IsName name) (standard : env.configDirectory? = some directory)

include names standard

/-- Where there is no configuration file nothing is read from one. -/
theorem fileHolds_of_absent (absent : d.exists? (join directory "config.toml") = false)
    (alone : ∀ e ∈ extensions, d.exists? (join directory ("config.toml" ++ "." ++ e.1)) = false) :
    FileHolds d env none [] := by
  refine .missing rfl fun file chosen => ?_
  rw [Environment.configFile?, standard] at chosen
  cases chosen
  exact find_of_absent names absent alone

/-- From the first configuration its members are read, or nothing is: its path from the root may be
too long, although it could be written from the working directory. -/
theorem fileHolds_of_default
    (there : d.readBytes (join directory "config.toml") = .ok defaultText.toUTF8) :
    FileHolds d env none defaultMembers ∨ FileHolds d env none [] := by
  have file : env.configFile? = some (join directory "config.toml") := by
    rw [Environment.configFile?, standard, Option.map_some]
  rcases find_of_readBytes names there with ⟨full, found, readable⟩ | lost
  · exact .inl (.found (.inr ⟨rfl, file⟩) found readable read_defaultBytes)
  · refine .inr (.missing rfl fun chosen same => ?_)
    rw [file] at same
    cases same
    exact lost

end

/-- **Writing the first configuration changes nothing.**  It is written into the directory that the
environment names, with the file of variables, and the route of the working directory consists of
names.  Where there was neither a configuration file nor a sibling, and no variable names a part
of the way to a value or something within it, what is loaded afterwards answers everything as what
was loaded before; and if nothing could be loaded before, nothing can be loaded afterwards, for the
same reason. -/
theorem load_create (names : ∀ name ∈ d.current, IsName name)
    (standard : (Dotenv.extend d env).configDirectory? = some directory)
    (absent : d.exists? (join directory "config.toml") = false)
    (alone : ∀ e ∈ extensions, d.exists? (join directory ("config.toml" ++ "." ++ e.1)) = false)
    (whole : NamesWhole (Dotenv.extend d env).entries)
    (created : create d directory = (.ok ⟨path, true⟩, d')) :
    let before := Dotenv.extend d env
    let after := Dotenv.extend d' env
    (load d' after none).map (answers after) = (load d before none).map (answers before) := by
  intro before after
  have same : after = before := extend_create created env
  rw [same]
  obtain ⟨-, between, stops, added, written⟩ := create_eq_ok created
  have there := Disk.readBytes_of_writeBytes written
  obtain ⟨parent, -, -, -, put⟩ := Disk.writeBytes_join isName_standard written
  have current : d'.current = d.current := put ▸ added.current
  obtain ⟨origin, none⟩ := layers_of_fileHolds (fileHolds_of_absent names standard absent alone)
  -- the same variables are laid over the defaults and over nothing
  rcases fileHolds_of_default (current ▸ names) standard there with holds | holds
  · obtain ⟨origin', read⟩ := layers_of_fileHolds holds
    have filled := (fills_defaultMembers origin').layer whole fun _ => mem_environmentLayer
    exact load_congr none read (answers_of_fills filled before)
  · obtain ⟨origin', read⟩ := layers_of_fileHolds holds
    exact load_congr none read rfl

section

variable (levels : env = ⟨[("HOME", "/home"), ("PALETTE_STUDIO_THEME_FILE_COUNT", "5"),
  ("PALETTE_STUDIO_LOGGING__LEVEL", "debug")]⟩)

include levels

/-- The variables name what can be configured. -/
theorem namesWhole_levels : NamesWhole env.entries := by
  rw [levels]
  refine namesWhole_of_names fun v member name named => ?_
  simp only [List.mem_cons, List.not_mem_nil, or_false] at member
  rcases member with rfl | rfl | rfl
  · cases named
  · exact ⟨.fileCount, (Option.some.inj named).symm⟩
  · exact ⟨.level, (Option.some.inj named).symm⟩

/-- What is configured by the variables alone. -/
theorem ofTree_levels (origin : Option String) :
    ofTree (((Tree.table [] none).layer (Tree.ofMembers origin [])).layer
      (environmentLayer env)) = .ok ⟨none, some 5, none, none, ⟨some "debug", none⟩⟩ := by
  have home : nameOf? "HOME" = none := rfl
  have count : nameOf? "PALETTE_STUDIO_THEME_FILE_COUNT" = some Setting.fileCount.name := rfl
  have level : nameOf? "PALETTE_STUDIO_LOGGING__LEVEL" = some Setting.level.name := rfl
  have layer : environmentLayer env =
      [(Setting.fileCount.name, variableTree "5"), (Setting.level.name, variableTree "debug")] := by
    simp only [levels, environmentLayer, List.foldl_cons, List.foldl_nil, home, count, level]
    rfl
  have set : ((Tree.table [] none).layer (Tree.ofMembers origin [])).layer
      [(Setting.fileCount.name, variableTree "5"), (Setting.level.name, variableTree "debug")] =
      Tree.setAt (variableTree "debug") (segments Setting.level.name)
        (Tree.setAt (variableTree "5") (segments Setting.fileCount.name) (.table [] none)) := rfl
  rw [layer, set, segments_name, segments_name]
  rfl

end

/-- The number comes from the environment and the level from the file of variables, before the
first configuration is written and after. -/
theorem load_create_levelLine :
    let d := configDisk logDocument levelLine
    let directory := "/home/.config/palette-studio"
    let before := Dotenv.extend d countEnvironment
    let answered : Answers :=
      ⟨"http://localhost:8080", 5, none, "/home/.config/palette-studio/storage", "debug", none⟩
    (∀ name ∈ d.current, IsName name) ∧ before.configDirectory? = some directory ∧
      d.exists? (join directory "config.toml") = false ∧
      (∀ e ∈ extensions, d.exists? (join directory ("config.toml" ++ "." ++ e.1)) = false) ∧
      NamesWhole before.entries ∧ (load d before none).map (answers before) = .ok answered ∧
      ∃ d', create d directory = (.ok ⟨"/home/.config/palette-studio/config.toml", true⟩, d') ∧
        (load d' (Dotenv.extend d' countEnvironment) none).map
          (answers (Dotenv.extend d' countEnvironment)) = .ok answered := by
  have names : ∀ name ∈ (configDisk logDocument levelLine).current, IsName name := by
    intro name member
    cases List.mem_singleton.1 member
    exact ⟨by decide, by decide, by decide⟩
  have absent : (configDisk logDocument levelLine).exists?
      (join "/home/.config/palette-studio" "config.toml") = false := by rfl
  have alone : ∀ e ∈ extensions, (configDisk logDocument levelLine).exists?
      (join "/home/.config/palette-studio" ("config.toml" ++ "." ++ e.1)) = false := by
    decide +kernel
  have isNew : (create (configDisk logDocument levelLine) "/home/.config/palette-studio").1 =
      .ok ⟨"/home/.config/palette-studio/config.toml", true⟩ := by rfl
  have extended : Dotenv.extend (configDisk logDocument levelLine) countEnvironment =
      ⟨[("HOME", "/home"), ("PALETTE_STUDIO_THEME_FILE_COUNT", "5"),
        ("PALETTE_STUDIO_LOGGING__LEVEL", "debug")]⟩ := by
    refine (Dotenv.extend_eq_offered _ countEnvironment).trans ?_
    rw [fileDefinitions_levelLine]
    rfl
  have standard : (Dotenv.extend (configDisk logDocument levelLine)
      countEnvironment).configDirectory? = some "/home/.config/palette-studio" := by
    rw [extended]
    rfl
  have whole := namesWhole_levels extended
  obtain ⟨origin, layered⟩ := layers_of_fileHolds (fileHolds_of_absent names standard absent alone)
  have loaded : load (configDisk logDocument levelLine)
      (Dotenv.extend (configDisk logDocument levelLine) countEnvironment) none =
      .ok ⟨none, some 5, none, none, ⟨some "debug", none⟩⟩ :=
    load_eq_ok_iff_ofTree.2 ⟨_, layered, ofTree_levels extended origin,
      (limitFaults_eq_nil_iff _).1 rfl⟩
  have answered : answers (Dotenv.extend (configDisk logDocument levelLine) countEnvironment)
      ⟨none, some 5, none, none, ⟨some "debug", none⟩⟩ =
      ⟨"http://localhost:8080", 5, none, "/home/.config/palette-studio/storage", "debug",
        none⟩ := by
    rw [answers, storageDirectory, Environment.storageDirectory?, standard]
    rfl
  obtain ⟨d', created⟩ : ∃ d', create (configDisk logDocument levelLine)
      "/home/.config/palette-studio" =
        (.ok ⟨"/home/.config/palette-studio/config.toml", true⟩, d') :=
    ⟨_, Prod.ext isNew rfl⟩
  have neutral := load_create names standard absent alone whole created
  dsimp only at neutral
  rw [loaded, Except.map, answered] at neutral
  refine ⟨names, standard, absent, alone, whole, ?_, d', created, neutral⟩
  rw [loaded, Except.map, answered]

end ThemeEditor.Config
