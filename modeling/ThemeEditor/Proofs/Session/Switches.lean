/-
# ThemeEditor.Proofs.Session.Switches -- flags are what was last written to them

The flags of a session are written in two ways.  A form sets one of them, and a document
that is imported replaces them all by those that it lists, in whatever order and with
whatever repetitions; a reset replaces them by none.  Nothing else that can happen to a
session touches them (`flags_perform`).

So along every run the flags are those that were written since they were last replaced,
set one after the other (`flags_run`).  The last value that was written to a name is all
that remains of that history: two runs that agree in these values, and in the other
fields, end with equal settings and equal documents (`flags_as_last_written`).
-/
import ThemeEditor.Proofs.Session.Form
import ThemeEditor.Proofs.Session.Valid
import ThemeEditor.Proofs.Settings.Listing
import ThemeEditor.Proofs.Text.Bytes

namespace ThemeEditor

set_option autoImplicit false

open Settings (AgreesBut ListsFlags listedFlags)

/-! ## Writes -/

/-- What is written to flags. -/
inductive FlagWrite where
  | set (name : String) (on : Bool)
  | replace (members : List (String × Bool))

namespace FlagWrite

/-- What was written since the flags were last replaced, after one more write. -/
def record (members : List (String × Bool)) : FlagWrite → List (String × Bool)
  | set name on => members ++ [(name, on)]
  | replace members' => members'

/-- What was written since the flags were last replaced, in order; at first there are `members`. -/
def since (members : List (String × Bool)) (writes : List FlagWrite) : List (String × Bool) :=
  writes.foldl record members

end FlagWrite

namespace Operation

/-- What an operation writes to the flags, if it does. -/
def flagWrite? (s : Session) : Operation → Option FlagWrite
  | setFlag name on =>
      match Input.checkFlagName name with
      | .ok () => some (.set name on)
      | .error _ => none
  | importFrom path =>
      match s.world.disk.readText path with
      | .ok text => (listedFlags text).toOption.map .replace
      | .error _ => none
  | reset => some (.replace [])
  | _ => none

/-- What some operations write to the flags. -/
def flagWrites : Session → List Operation → List FlagWrite
  | _, [] => []
  | s, op :: ops => (op.flagWrite? s).toList ++ flagWrites (op.perform s).session ops

end Operation

namespace Flags

theorem assigned_snoc (members : List (String × Bool)) (name : String) (on : Bool) :
    assigned (members ++ [(name, on)]) = (assigned members).insert name on := by
  simp only [assigned, List.foldl_append, List.foldl_cons, List.foldl_nil]

/-- The flags are their own entries, set one after the other. -/
theorem assigned_entries (flags : Flags) : assigned flags.entries = flags := by
  have taken := foldlM_take flags.entries .empty flags.ordered
  exact Option.some.inj (List.foldlM_pure.symm.trans taken)

end Flags

namespace Session

variable {s : Session}

/-! ## One operation -/

theorem Edits.flags {α : Type} {step : Edited α} {accepted : Prop} {key : String}
    {value : Json.Value} {edited : Settings} (edits : Edits s step accepted key value edited)
    (other : "featureFlags" ≠ key) : step.session.settings.flags = s.settings.flags := by
  by_cases allowed : accepted
  · rw [edits.settings allowed]
    exact edits.agrees.flags other
  · rw [edits.refused allowed]

/-- No palette reaches the flags. -/
theorem flags_generate (s : Session) (ask : Mode → UInt8 → Answer) (mode : Mode) :
    (s.generate ask mode).session.settings.flags = s.settings.flags := by
  obtain kept | ⟨a, before, -, settings⟩ := s.generate_cases ask mode
  · rw [kept]
  · rw [settings, a.rest_result.2.2.1, before]

theorem flags_importFrom {members : List (String × Bool)}
    (held : s.settings.flags = .assigned members) (path : String) :
    (s.importFrom path).session.settings.flags =
      .assigned (FlagWrite.since members ((Operation.importFrom path).flagWrite? s).toList) := by
  rw [Operation.flagWrite?]
  unfold importFrom Storage.importFrom clearError
  dsimp only
  cases s.world.disk.readText path with
  | error f => exact held
  | ok text =>
      dsimp only
      cases read : Settings.decode text with
      | error e =>
          -- what is not read lists no flags
          cases listed : listedFlags text with
          | error e' => exact held
          | ok ms =>
              obtain ⟨t, accepted⟩ := Settings.exists_decode listed
              rw [read] at accepted
              cases accepted
      | ok imported =>
          obtain ⟨ms, listed, flags⟩ := Settings.flags_of_decode read
          rw [listed]
          exact flags

/-- What an operation leaves of the flags is what it writes to them. -/
theorem flags_perform {members : List (String × Bool)}
    (held : s.settings.flags = .assigned members) (op : Operation) :
    (op.perform s).session.settings.flags =
      .assigned (FlagWrite.since members (op.flagWrite? s).toList) := by
  cases op with
  | setFlag name on =>
      have edits := edits_setFlag s name on
      rw [Operation.flagWrite?, Operation.perform]
      cases checked : Input.checkFlagName name with
      | ok done =>
          rw [edits.settings checked, Settings.setFlag, held]
          exact (Flags.assigned_snoc members name on).symm
      | error e =>
          have refused : ¬ Input.checkFlagName name = .ok () := by
            intro accepted
            rw [checked] at accepted
            cases accepted
          rw [edits.refused refused]
          exact held
  | importFrom path => exact flags_importFrom held path
  | reset => rfl
  | setColor role value =>
      have other : "featureFlags" ≠ role.key := by cases role <;> decide
      exact ((edits_setColor s role value).flags other).trans held
  | setAccent index value => exact ((edits_setAccent s index value).flags (by decide)).trans held
  | pushAccent value => exact ((edits_pushAccent s value).flags (by decide)).trans held
  | removeAccent index => exact ((edits_removeAccent s index).flags (by decide)).trans held
  | setBackendUrl url => exact ((edits_setBackendUrl s url).flags (by decide)).trans held
  | generate ask mode => exact (flags_generate s ask mode).trans held
  | exportTo directory => exact (congrArg Settings.flags (edited_exportTo s directory)).trans held
  | save => exact (congrArg Settings.flags (edited_save s)).trans held
  | subscribe | unsubscribe id | clearError | share supply => exact held

/-! ## Runs -/

theorem flags_run : ∀ (ops : List Operation) {s : Session} {members : List (String × Bool)},
    s.settings.flags = .assigned members →
      (Operation.run s ops).settings.flags =
        .assigned (FlagWrite.since members (Operation.flagWrites s ops))
  | [], _, _, held => held
  | op :: ops, s, members, held => by
      have rest := flags_run ops (flags_perform held op)
      rw [Operation.flagWrites, FlagWrite.since, List.foldl_append]
      exact rest

/-- The value that was last written to a flag along a run, or that it had at first. -/
def lastWritten (s : Session) (ops : List Operation) (name : String) : Option Bool :=
  (FlagWrite.since s.settings.flags.entries (Operation.flagWrites s ops)).reverse.lookup name

/-- Along every run, a flag has the value that was last written to it. -/
theorem get?_run (s : Session) (ops : List Operation) (name : String) :
    (Operation.run s ops).settings.flags.get? name = s.lastWritten ops name := by
  rw [flags_run ops (Flags.assigned_entries s.settings.flags).symm, Flags.get?_assigned]
  rfl

/-- **Flags are what was last written to them, and nothing else of how it was written.**  After
any run a flag is on exactly when the last value written to it is true.  Both documents of the
settings list the flags that have a value, each of them once, in ascending order of the bytes of
their names, and can be read in no other way.  Two runs that agree in the value last written to
each flag, and whose settings agree otherwise, end with the same settings and the same
documents. -/
theorem flags_as_last_written (s : Session) (ops : List Operation) :
    let now := (Operation.run s ops).settings
    (∀ name, now.featureEnabled name = (s.lastWritten ops name).getD false) ∧
      (∃ flags, (∀ ms, ListsFlags now.encode ms ↔ ms = flags) ∧
        (∀ ms, ListsFlags now.encodeIndented ms ↔ ms = flags) ∧
        (∀ name on, (name, on) ∈ flags ↔ s.lastWritten ops name = some on) ∧
        flags.Pairwise fun a b => Text.bytes a.1 < Text.bytes b.1) ∧
      ∀ (s' : Session) (ops' : List Operation),
        let now' := (Operation.run s' ops').settings
        (∀ name, s.lastWritten ops name = s'.lastWritten ops' name) →
          AgreesBut "featureFlags" now now' →
            now = now' ∧ now.encode = now'.encode ∧ now.encodeIndented = now'.encodeIndented := by
  intro now
  refine ⟨fun name => ?_, ⟨now.flags.entries, ?_, ?_, ?_, ?_⟩, ?_⟩
  · exact congrArg (Option.getD · false) (get?_run s ops name)
  · exact fun ms => Settings.listsFlags_write_iff Json.Style.spaced_compact now
  · exact fun ms => Settings.listsFlags_write_iff Json.Style.spaced_indented now
  · intro name on
    rw [← get?_run, Flags.get?_eq_some]
  · exact now.flags.ordered.imp Text.lt_iff_bytes_lt.1
  · intro s' ops' now' same agrees
    have equal : now = now' := by
      refine Settings.ext_color (fun role => ?_) (agrees.accents (by decide)).symm ?_
        (agrees.backendUrl (by decide)).symm
      · have other : role.key ≠ "featureFlags" := by cases role <;> decide
        exact (agrees.color role other).symm
      · refine Flags.ext_get? fun name => ?_
        rw [get?_run, get?_run, same]
    exact ⟨equal, congrArg Settings.encode equal, congrArg Settings.encodeIndented equal⟩

/-- A document that lists a flag twice. -/
def twoValues : String :=
  "\x7b\"featureFlags\": \x7b\"b\": true, \"a\": false, \"b\": false\x7d\x7d"

/-- A session that finds it in a file. -/
def besideTwoValues : Session :=
  start ⟨"theme"⟩
    ⟨(Disk.blank ["home"]).put ["home", "flags.json"] (.file twoValues.toUTF8), unused⟩ .default

/-- The same values, set one by one. -/
def oneByOne : List Operation :=
  [.setFlag "b" false, .setFlag "a" true, .setFlag "a" false]

/-- The document and the form come to the same. -/
theorem flags_as_last_written_twoValues :
    (∀ name, besideTwoValues.lastWritten [.importFrom "flags.json"] name =
      blankSession.lastWritten oneByOne name) ∧
    AgreesBut "featureFlags" (Operation.run besideTwoValues [.importFrom "flags.json"]).settings
      (Operation.run blankSession oneByOne).settings ∧
    (Operation.run besideTwoValues [.importFrom "flags.json"]).settings =
      (Operation.run blankSession oneByOne).settings ∧
    (Operation.run besideTwoValues [.importFrom "flags.json"]).settings.encode =
      (Operation.run blankSession oneByOne).settings.encode := by
  have imported : FlagWrite.since besideTwoValues.settings.flags.entries
      (Operation.flagWrites besideTwoValues [.importFrom "flags.json"]) =
        [("b", true), ("a", false), ("b", false)] := by
    decide +kernel
  have typed : FlagWrite.since blankSession.settings.flags.entries
      (Operation.flagWrites blankSession oneByOne) = [("b", false), ("a", true), ("a", false)] := by
    decide +kernel
  have same : ∀ name, besideTwoValues.lastWritten [.importFrom "flags.json"] name =
      blankSession.lastWritten oneByOne name := by
    intro name
    have flags : Flags.assigned [("b", true), ("a", false), ("b", false)] =
        Flags.assigned [("b", false), ("a", true), ("a", false)] := by decide
    rw [lastWritten, lastWritten, imported, typed, ← Flags.get?_assigned, flags,
      Flags.get?_assigned]
  have agrees : AgreesBut "featureFlags"
      (Operation.run besideTwoValues [.importFrom "flags.json"]).settings
      (Operation.run blankSession oneByOne).settings := by
    refine ⟨fun role _ => ?_, fun _ => ?_, fun other => absurd rfl other, fun _ => ?_⟩
    · cases role <;> decide +kernel
    · decide +kernel
    · decide +kernel
  obtain ⟨-, -, canonical⟩ :=
    flags_as_last_written besideTwoValues [.importFrom "flags.json"]
  obtain ⟨equal, encoded, -⟩ := canonical blankSession oneByOne same agrees
  exact ⟨same, agrees, equal, encoded⟩

end Session

end ThemeEditor
