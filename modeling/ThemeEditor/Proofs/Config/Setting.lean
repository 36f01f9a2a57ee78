/-
# ThemeEditor.Proofs.Config.Setting -- what can be configured

Six values can be configured (`Setting`).  What is in effect for one of them is the
text of its variable, in the environment or else in the file of variables, or else
what the configuration file holds (`effective`); what is in force is that, converted,
or else the default (`InForce`).

Variables may get in each other's way.  One that names the table of a value, or
something within the value, replaces it, and so does one that makes a list of the
table of the log.  Two that differ in case, or in a point for two underscores, have
one name, and the later one hides the other.  Such variables are left out
(`Unambiguous`).  Any other variable is the one of a value, or parts from its path at
a key (`apart_of_segments`).
-/
import ThemeEditor.Proofs.Config.Reading
import ThemeEditor.Proofs.Config.Variables

namespace ThemeEditor.Config

set_option autoImplicit false

open ThemeEditor.Config.Tree (Segment Apart segments)

/-! ## What can be configured -/

/-- The values that can be configured. -/
inductive Setting where
  | serviceUrl
  | fileCount
  | timeout
  | storage
  | level
  | file
  deriving DecidableEq, Repr

namespace Setting

/-- The keys that lead to a value. -/
def keys : Setting → List String
  | serviceUrl => ["theme_service_url"]
  | fileCount => ["theme_file_count"]
  | timeout => ["request_timeout_secs"]
  | storage => ["storage_dir"]
  | level => ["logging", "level"]
  | file => ["logging", "file"]

/-- The path of a value. -/
def path (s : Setting) : List Segment :=
  s.keys.map .key

/-- The name of a value. -/
def name : Setting → String
  | serviceUrl => "theme_service_url"
  | fileCount => "theme_file_count"
  | timeout => "request_timeout_secs"
  | storage => "storage_dir"
  | level => "logging.level"
  | file => "logging.file"

/-- The text of the variable for a value: of the environment, or else of the first definition
among others. -/
def text? (env : Environment) (definitions : List (String × String)) (s : Setting) :
    Option String :=
  ((env.entries.find? fun v => nameOf? v.1 = some s.name).or
    (definitions.find? fun v => nameOf? v.1 = some s.name)).map (·.2)

/-- Whether a value can be converted to the type of a setting. -/
def converts (s : Setting) (v : Json.Value) : Bool :=
  match s with
  | serviceUrl | storage | level | file => (asText v).isSome
  | fileCount => (asSmall v).isSome
  | timeout => (asNatural v).isSome

end Setting

/-- The value in effect, if any is configured: the text of its variable, or else what the
configuration file holds. -/
def effective (env : Environment) (definitions : List (String × String))
    (values : List (String × Json.Value)) (s : Setting) : Option Json.Value :=
  match s.text? env definitions with
  | some text => some (.text text)
  | none => valueAt s.keys (.object values)

/-- The configuration of the values in effect. -/
def configured (value : Setting → Option Json.Value) : Config where
  serviceUrl? := (value .serviceUrl).bind asText
  fileCount? := (value .fileCount).bind asSmall
  timeout? := (value .timeout).bind asNatural
  storage? := (value .storage).bind asText
  log := ⟨(value .level).bind asText, (value .file).bind asText⟩

/-- What is in force is the converted value, or the default if there is none. -/
def Takes {α : Type} (convert : Json.Value → Option α) (value : Option Json.Value)
    (default now : α) : Prop :=
  match value with
  | some v => convert v = some now
  | none => now = default

/-- The values in effect are in force. -/
structure InForce (c : Config) (env : Environment) (value : Setting → Option Json.Value) :
    Prop where
  serviceUrl : Takes asText (value .serviceUrl) "http://localhost:8080" c.serviceUrl
  fileCount : Takes asSmall (value .fileCount) Fetcher.defaultFileCount c.fileCount
  timeout : Takes (fun v => (asNatural v).map some) (value .timeout) none c.timeout?
  storage : Takes asText (value .storage) (env.storageDirectory?.getD "storage")
    (c.storageDirectory env)
  level : Takes asText (value .level) "info" c.logLevel
  file : Takes (fun v => (asText v).map some) (value .file) none c.log.file?

/-! ## What is left out -/

/-- The members of a configuration file: keys that are no paths, and a table for the log. -/
structure Regular (values : List (String × Json.Value)) : Prop where
  plain : ∀ m ∈ values, '.' ∉ m.1.toList ∧ '[' ∉ m.1.toList
  log : ∀ v, ("logging", v) ∈ values → ∃ ms, v = .object ms

/-- Variables none of which names a part of the way to a value, or something within it. -/
structure NamesWhole (entries : List (String × String)) : Prop where
  shorter : ∀ v ∈ entries, ∀ name, nameOf? v.1 = some name →
    ∀ s : Setting, segments name <+: s.path → segments name = s.path
  longer : ∀ v ∈ entries, ∀ name, nameOf? v.1 = some name →
    ∀ s : Setting, s.path <+: segments name → segments name = s.path

/-- Variables that do not get in each other's way. -/
structure Unambiguous (entries : List (String × String)) : Prop extends NamesWhole entries where
  once : Once entries
  noList : ∀ v ∈ entries, ∀ name, nameOf? v.1 = some name →
    ∀ place rest, segments name ≠ .key "logging" :: .index place :: rest

/-- The members of the configuration file, which is written in TOML.  Only the standard one may be
missing. -/
inductive FileHolds (d : Disk) (env : Environment) (path : Option String) :
    List (String × Json.Value) → Prop where
  | found {named full : String} {bytes : ByteArray} {values : List (String × Json.Value)}
      (chosen : path = some named ∨ path = none ∧ env.configFile? = some named)
      (isToml : find d named = .ok (full, .toml)) (readable : d.readBytes full = .ok bytes)
      (read : Toml.read (Text.lossy (withoutMark bytes)) = .ok values) :
      FileHolds d env path values
  | missing (unnamed : path = none)
      (none : ∀ standard, env.configFile? = some standard → ∃ e, find d standard = .error e) :
      FileHolds d env path []

section

variable {d : Disk} {env : Environment} {path : Option String}
  {values : List (String × Json.Value)}

/-- The layer of the configuration file. -/
theorem fileLayer_of_fileHolds (holds : FileHolds d env path values) :
    ∃ origin, fileLayer d env path = .ok (Tree.ofMembers origin values) := by
  cases holds with
  | @found named full bytes _ chosen isToml readable read =>
      have reads : ∀ required, readFile d named required =
          .ok (Tree.ofMembers (some (relativeTo d.current full)) values) := by
        intro required
        unfold readFile
        simp only [isToml, readable, Format.members, Format.value, read, Except.map, Except.mapError]
      refine ⟨some (relativeTo d.current full), ?_⟩
      rcases chosen with rfl | ⟨rfl, standard⟩
      · have layer : fileLayer d env (some named) = readFile d named true := rfl
        rw [layer, reads]
      · have layer : fileLayer d env none = readFile d named false := by
          unfold fileLayer
          rw [standard]
        rw [layer, reads]
  | missing unnamed none =>
      subst unnamed
      refine ⟨.none, ?_⟩
      unfold fileLayer
      cases chosen : env.configFile? with
      | none => rfl
      | some standard =>
          obtain ⟨e, lost⟩ := none standard chosen
          dsimp only
          unfold readFile
          rw [lost]
          rfl

/-- The values in force are those of the file with the variables laid over them. -/
theorem layers_of_fileHolds (holds : FileHolds d env path values) : ∃ origin, layers d env path =
    .ok (((Tree.table [] none).layer (Tree.ofMembers origin values)).layer
      (environmentLayer env)) := by
  obtain ⟨origin, read⟩ := fileLayer_of_fileHolds holds
  exact ⟨origin, by rw [layers, read]⟩

end

/-! ## The path of a value -/

theorem segments_name (s : Setting) : segments s.name = s.path := by
  cases s <;> rfl

/-- A value has one name. -/
theorem eq_name_of_segments {s : Setting} {name : String} (same : segments name = s.path) :
    name = s.name := by
  have own := segments_name s
  have spelled : ∀ (k : String) (ks : List String), s.path = .key k :: ks.map .key →
      name = s.name := by
    intro k ks path
    rw [path] at same own
    exact String.toList_injective
      ((Tree.toList_of_segments same).trans (Tree.toList_of_segments own).symm)
  cases s
  all_goals exact spelled _ _ rfl

/-- Another variable parts from a value at a key. -/
theorem apart_of_segments {s : Setting} {name : String}
    (shorter : ¬ segments name <+: s.path) (longer : ¬ s.path <+: segments name)
    (noList : ∀ place rest, segments name ≠ .key "logging" :: .index place :: rest) :
    Apart (segments name) s.keys := by
  obtain ⟨k, rest, named⟩ := Tree.segments_cons name
  rw [named] at shorter longer noList ⊢
  have one : ∀ l, s.path = [.key l] → Apart (.key k :: rest) [l] := by
    intro l path
    refine .here fun same => longer ?_
    rw [path, same]
    exact List.prefix_append [Segment.key l] rest
  have two : ∀ l, s.path = [.key "logging", .key l] → Apart (.key k :: rest) ["logging", l] := by
    intro l path
    rw [path] at shorter longer
    by_cases log : k = "logging"
    · subst log
      refine .after ?_
      cases rest with
      | nil => exact absurd (List.prefix_append [Segment.key "logging"] [.key l]) shorter
      | cons step rest =>
          cases step with
          | key l' =>
              refine .here fun same => longer ?_
              rw [same]
              exact List.prefix_append [Segment.key "logging", .key l] rest
          | index place => exact absurd rfl (noList place rest)
    · exact .here log
  cases s
  case level => exact two _ rfl
  case file => exact two _ rfl
  all_goals exact one _ rfl

/-- Variables that name what can be configured name all of it. -/
theorem namesWhole_of_names {entries : List (String × String)}
    (named : ∀ v ∈ entries, ∀ name, nameOf? v.1 = some name → ∃ s : Setting, name = s.name) :
    NamesWhole entries := by
  have apart : ∀ s s' : Setting, s.path <+: s'.path → s.path = s'.path := by
    intro s s'
    cases s <;> cases s' <;> decide
  refine ⟨?_, ?_⟩
  · intro v member name isName s shorter
    obtain ⟨s', rfl⟩ := named v member name isName
    rw [segments_name] at shorter ⊢
    exact apart s' s shorter
  · intro v member name isName s longer
    obtain ⟨s', rfl⟩ := named v member name isName
    rw [segments_name] at longer ⊢
    exact (apart s s' longer).symm

/-- Variables that name what can be configured, each of it once, are not in each other's way. -/
theorem unambiguous_of_names {entries : List (String × String)} (once : Once entries)
    (named : ∀ v ∈ entries, ∀ name, nameOf? v.1 = some name → ∃ s : Setting, name = s.name) :
    Unambiguous entries := by
  refine ⟨namesWhole_of_names named, once, ?_⟩
  intro v member name isName place rest list
  obtain ⟨s, rfl⟩ := named v member name isName
  rw [segments_name] at list
  cases s <;> simp [Setting.path, Setting.keys] at list

end ThemeEditor.Config
