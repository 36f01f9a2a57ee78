/-
# ThemeEditor.Proofs.Config.Defaults -- a layer of defaults below the environment

The first configuration says what is so without it.  Laid under the environment, it
leaves every value as it is without a file, or it puts the default where nothing is
(`Fills`).  A variable that is laid over both does not change that (`Fills.setAt`), so
neither do all of them (`Fills.layer`); and where a value is missing or its default is
given, the answer is the same (`answers_of_fills`).

What the log is configured by may be no table any more: a variable that names an item
of a list makes a list of it.  Then it is the same list with the file and without.
-/
import ThemeEditor.Proofs.Config.DefaultText
import ThemeEditor.Proofs.Config.Setting

namespace ThemeEditor.Config

set_option autoImplicit false

open ThemeEditor.Config.Tree (Apart Segment segments nothing)

variable {origin : Option String} {t u : Tree}

/-! ## Laying variables over both -/

/-- `u` is `t` with defaults where nothing is. -/
structure Fills (origin : Option String) (t u : Tree) : Prop where
  value : ∀ s : Setting, u.find? s.keys = t.find? s.keys ∨
    t.find? s.keys = none ∧
      u.find? s.keys = (valueAt s.keys (.object defaultMembers)).map (Tree.ofValue origin)
  log : u.get? "logging" = t.get? "logging" ∨
    (∀ v, t.get? "logging" = some v → v.isTable = true) ∧
      ∃ w, u.get? "logging" = some w ∧ w.isTable = true

/-- The first configuration fills what is empty. -/
theorem fills_defaultMembers (origin : Option String) :
    Fills origin (.table [] none)
      ((Tree.table [] none).layer (Tree.ofMembers origin defaultMembers)) := by
  rw [Tree.layer_ofMembers (by decide)]
  refine ⟨fun s => .inr ?_, .inr ⟨nofun, _, rfl, rfl⟩⟩
  cases s <;> exact ⟨rfl, rfl⟩

/-- Anything but a list gives way to a list in the same way. -/
theorem setAt_index_of_notList {below : Tree} (notList : ∀ items o, below ≠ .list items o)
    (v : Tree) (place : Int) (path : List Segment) :
    Tree.setAt v (.index place :: path) below = Tree.setAt v (.index place :: path) nothing := by
  cases below with
  | list items o => exact absurd rfl (notList items o)
  | scalar s o => rfl
  | table ms o => rfl

theorem notList_of_isTable {t? : Option Tree} (isTable : ∀ v, t? = some v → v.isTable = true)
    (items : List Tree) (o : Option String) : t?.getD nothing ≠ .list items o := by
  cases t? with
  | none => exact nofun
  | some v =>
      rintro rfl
      cases isTable _ rfl

/-- A list has no keys, so a variable that makes one leaves nothing of what is configured of the
log; all else it leaves alone. -/
theorem setAt_item (s : Setting) (v : Tree) (place : Int) (rest : List Segment) :
    (∀ below, (Tree.setAt v (.key "logging" :: .index place :: rest) below).find? s.keys = none) ∨
      Apart (.key "logging" :: .index place :: rest) s.keys := by
  have inside : ∀ l below,
      (Tree.setAt v (.key "logging" :: .index place :: rest) below).find? ["logging", l] = none := by
    intro l below
    rw [find?_two, Tree.setAt, Tree.get?_put_self]
    rfl
  cases s
  case level => exact .inl (inside "level")
  case file => exact .inl (inside "file")
  all_goals exact .inr (.here (by decide))

/-- A variable that is laid over both keeps them alike. -/
theorem Fills.setAt (fills : Fills origin t u) {name : String} (text : String)
    (shorter : ∀ s : Setting, segments name <+: s.path → segments name = s.path)
    (longer : ∀ s : Setting, s.path <+: segments name → segments name = s.path) :
    Fills origin (Tree.setAt (variableTree text) (segments name) t)
      (Tree.setAt (variableTree text) (segments name) u) where
  value := by
    intro s
    by_cases same : segments name = s.path
    · refine .inl ?_
      rw [same, Setting.path, variableTree, Tree.find?_setAt_self, Tree.find?_setAt_self]
    · by_cases list : ∃ place rest, segments name = .key "logging" :: .index place :: rest
      · obtain ⟨place, rest, named⟩ := list
        rw [named]
        rcases setAt_item s (variableTree text) place rest with gone | apart
        · exact .inl ((gone u).trans (gone t).symm)
        · rw [Tree.find?_setAt_apart apart, Tree.find?_setAt_apart apart]
          exact fills.value s
      · have apart := apart_of_segments (fun less => same (shorter s less))
          (fun more => same (longer s more)) fun place rest named => list ⟨place, rest, named⟩
        rw [Tree.find?_setAt_apart apart, Tree.find?_setAt_apart apart]
        exact fills.value s
  log := by
    obtain ⟨k, rest, named⟩ := Tree.segments_cons name
    rw [named, Tree.setAt, Tree.setAt]
    by_cases log : k = "logging"
    · subst log
      rw [Tree.get?_put_self, Tree.get?_put_self]
      rcases fills.log with same | ⟨tables, w, found, isTable⟩
      · exact .inl (by rw [same])
      · have isTable' : ∀ v, u.get? "logging" = some v → v.isTable = true := by
          rw [found]
          rintro _ ⟨⟩
          exact isTable
        cases rest with
        | nil =>
            have whole := shorter .level (named ▸ List.prefix_append [Segment.key "logging"] _)
            rw [named] at whole
            cases whole
        | cons step rest =>
            cases step with
            | key l =>
                refine .inr ⟨?_, _, rfl, Tree.isTable_put _ _ _⟩
                rintro _ ⟨⟩
                exact Tree.isTable_put _ _ _
            | index place =>
                refine .inl (congrArg some ?_)
                rw [setAt_index_of_notList (notList_of_isTable tables),
                  setAt_index_of_notList (notList_of_isTable isTable')]
    · rw [Tree.get?_put_other log, Tree.get?_put_other log]
      exact fills.log

/-- So do all variables. -/
theorem Fills.layer {entries : List (String × String)} (whole : NamesWhole entries) :
    ∀ {named : List (String × Tree)} {t u : Tree}, Fills origin t u →
      (∀ m ∈ named, ∃ v ∈ entries, nameOf? v.1 = some m.1 ∧ ∃ text, m.2 = variableTree text) →
        Fills origin (t.layer named) (u.layer named)
  | [], _, _, fills, _ => fills
  | (name, tree) :: named, t, u, fills, each => by
      obtain ⟨⟨v, member, isName, text, rfl⟩, others⟩ := List.forall_mem_cons.1 each
      have rest := Fills.layer whole (fills.setAt text (whole.shorter v member _ isName)
        (whole.longer v member _ isName)) others
      exact rest

/-! ## What is answered -/

/-- What a configuration answers to whoever asks for its values. -/
structure Answers where
  serviceUrl : String
  fileCount : UInt8
  timeout? : Option UInt64
  storageDirectory : String
  logLevel : String
  logFile? : Option String
  deriving DecidableEq, Repr

/-- The answers of a configuration. -/
def answers (env : Environment) (c : Config) : Answers :=
  ⟨c.serviceUrl, c.fileCount, c.timeout?, c.storageDirectory env, c.logLevel, c.log.file?⟩

/-- Two computations agree if they agree up to what the rest of both looks at. -/
theorem bind_congr_map {ε α β γ : Type} {x y : Except ε α} {f g : α → Except ε β} (key : α → γ)
    (same : x.map key = y.map key) (rest : ∀ a b, key a = key b → f a = g b) :
    (x >>= f) = (y >>= g) := by
  cases x <;> cases y <;> simp only [Except.map, Except.error.injEq, Except.ok.injEq,
    reduceCtorEq] at same
  · rw [same]
    rfl
  · exact rest _ _ same

theorem map_bind {ε α β γ : Type} (x : Except ε α) (f : α → Except ε β) (h : β → γ) :
    (x >>= f).map h = x >>= fun a => (f a).map h := by
  cases x <;> rfl

section

variable (fills : Fills origin t u)

include fills

/-- A value that is missing is answered by the default, and so is one that is the default. -/
theorem Fills.readOptional (s : Setting) {α : Type} {read : String → Tree → Except Mismatch α}
    {key : String} {default : α}
    (reads : readOptional read key
      ((valueAt s.keys (.object defaultMembers)).map (Tree.ofValue origin)) = .ok (some default)) :
    (readOptional read key (u.find? s.keys)).map (·.getD default) =
      (Config.readOptional read key (t.find? s.keys)).map (·.getD default) := by
  rcases fills.value s with same | ⟨missing, filled⟩
  · rw [same]
  · rw [missing, filled, reads]
    rfl

/-- What has no default in the file is as it is without. -/
theorem Fills.find?_eq {s : Setting} (none : valueAt s.keys (.object defaultMembers) = none) :
    u.find? s.keys = t.find? s.keys := by
  rcases fills.value s with same | ⟨missing, filled⟩
  · exact same
  · rw [missing, filled, none]
    rfl

end

/-- What is configured of the log. -/
def readLog? (t? : Option Tree) : Except Mismatch LogConfig :=
  match t? with
  | none => .ok ⟨none, none⟩
  | some t => readLog "logging" t

theorem readLog?_of_isTable {t? : Option Tree} (isTable : ∀ v, t? = some v → v.isTable = true) :
    readLog? t? = (do
      let level ← readOptional readText "logging.level" (t?.bind fun t => t.get? "level")
      let file ← readOptional readText "logging.file" (t?.bind fun t => t.get? "file")
      return ⟨level, file⟩) := by
  cases t? with
  | none => rfl
  | some v =>
      cases v with
      | table ms origin => rfl
      | scalar s origin => cases isTable _ rfl
      | list items origin => cases isTable _ rfl

theorem ofTree_eq (t : Tree) : ofTree t = (do
    let serviceUrl ← readOptional readText "theme_service_url" (t.find? Setting.serviceUrl.keys)
    let fileCount ← readOptional readSmall "theme_file_count" (t.find? Setting.fileCount.keys)
    let timeout ← readOptional readNatural "request_timeout_secs" (t.find? Setting.timeout.keys)
    let storage ← readOptional readText "storage_dir" (t.find? Setting.storage.keys)
    let log ← readLog? (t.get? "logging")
    return ⟨serviceUrl, fileCount, timeout, storage, log⟩) := by
  simp only [Setting.keys, find?_one]
  unfold ofTree readLog?
  cases t.get? "logging" <;> rfl

theorem Fills.readLog? (fills : Fills origin t u) :
    (readLog? (u.get? "logging")).map (fun log => (log.level?.getD "info", log.file?)) =
      (Config.readLog? (t.get? "logging")).map
        fun log => (log.level?.getD "info", log.file?) := by
  rcases fills.log with same | ⟨tables, w, found, isTable⟩
  · rw [same]
  · have isTable' : ∀ v, u.get? "logging" = some v → v.isTable = true := by
      rw [found]
      rintro _ ⟨⟩
      exact isTable
    rw [readLog?_of_isTable tables, readLog?_of_isTable isTable', ← find?_two, ← find?_two,
      ← find?_two, ← find?_two]
    simp only [map_bind]
    refine bind_congr_map (·.getD "info") (fills.readOptional .level rfl) fun level level' same => ?_
    have file : u.find? ["logging", "file"] = t.find? ["logging", "file"] :=
      fills.find?_eq (s := .file) rfl
    rw [file]
    refine bind_congr_map id rfl fun file file' same' => ?_
    cases same'
    exact congrArg (fun level => Except.ok (level, file)) same

/-- The answers are the same with the file and without. -/
theorem answers_of_fills (fills : Fills origin t u) (env : Environment) :
    (ofTree u).map (answers env) = (ofTree t).map (answers env) := by
  rw [ofTree_eq, ofTree_eq]
  simp only [map_bind]
  refine bind_congr_map (·.getD "http://localhost:8080") (fills.readOptional .serviceUrl rfl)
    fun url url' sameUrl => ?_
  refine bind_congr_map (·.getD Fetcher.defaultFileCount) (fills.readOptional .fileCount rfl)
    fun count count' sameCount => ?_
  rw [fills.find?_eq (s := .timeout) rfl, fills.find?_eq (s := .storage) rfl]
  refine bind_congr_map id rfl fun timeout timeout' sameTimeout => ?_
  refine bind_congr_map id rfl fun storage storage' sameStorage => ?_
  refine bind_congr_map (fun log => (log.level?.getD "info", log.file?)) fills.readLog?
    fun log log' sameLog => ?_
  cases sameTimeout
  cases sameStorage
  obtain ⟨sameLevel, sameFile⟩ := Prod.mk.inj sameLog
  refine congrArg Except.ok ?_
  simp only [answers, serviceUrl, fileCount, storageDirectory, logLevel, sameUrl, sameCount,
    sameLevel, sameFile]

end ThemeEditor.Config
