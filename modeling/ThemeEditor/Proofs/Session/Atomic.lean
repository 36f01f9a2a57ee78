/-
# ThemeEditor.Proofs.Session.Atomic -- an operation that fails changes nothing

Operations fail for many reasons and at many points: an input is refused, a file
cannot be read or is no document, a directory cannot be made, the theme service
does not answer.  Whatever it is, the settings, the pristine copy and the subscribers
are as they were, and no subscriber was called (`Kept`, `kept_of_fails`).  The stored
document is as it was too, unless the system cut a write to it off: then it may be a
beginning of the document that was to be written.

A form binding that fails leaves the whole session as it was (`form_of_fails`).
Generating that fails has taken one step in the rotation and given it up
(`GaveUp`, `gaveUp_of_fails`).

`atomic` says this of every state that a session can come to (`Reachable`), and
`not_atomic_of_failed_save` shows what a save that fails may come to.
-/
import ThemeEditor.Proofs.Session.Baseline
import ThemeEditor.Proofs.Storage.Content
import ThemeEditor.Proofs.Theme.Alone

namespace ThemeEditor

set_option autoImplicit false

open Disk (Beginning CutOff)
open Session (Bound Edited SameBase)

namespace Operation

/-- An operation returns an error or, for one that generates, leaves it in the session. -/
def Fails (s : Session) : Operation → Prop
  | generate ask mode => (s.generate ask mode).session.lastError ≠ none
  | op => ∃ e, (op.perform s).result = .error e

/-- The operations on one field of the form. -/
def isForm : Operation → Bool
  | setColor _ _ | setAccent _ _ | pushAccent _ | removeAccent _ | setFlag _ _
  | setBackendUrl _ => true
  | _ => false

end Operation

namespace Session

/-! ## What is kept -/

/-- What an operation that fails keeps. -/
structure Kept (s : Session) (step : Edited Unit) : Prop where
  settings : step.session.settings = s.settings
  pristine : step.session.pristine = s.pristine
  dirty : step.session.isDirty = s.isDirty
  /-- Who watches, in which order. -/
  subscribers : step.session.store.subscribers = s.store.subscribers
  content : ¬ CutOff s.world.disk step.session.world.disk →
    s.storage.content step.session.world.disk = s.storage.content s.world.disk
  /-- What is got is the same too, if the disk holds the names of the root. -/
  stored : ¬ CutOff s.world.disk step.session.world.disk →
    (∀ name ∈ Disk.segments s.storage.root, name.utf8ByteSize ≤ Disk.maxNameSize) →
    s.storage.get step.session.world.disk Storage.settingsKey =
      s.storage.get s.world.disk Storage.settingsKey
  /-- A write that was cut off leaves the document, or a beginning of what it was writing: the
  edited settings, or the document itself. -/
  cut : CutOff s.world.disk step.session.world.disk → ∃ text,
    (text = s.settings.encodeIndented ∨ s.storage.document s.world.disk = .ok text) ∧
      (s.storage.content step.session.world.disk = s.storage.content s.world.disk ∨
        ∃ part, s.storage.content step.session.world.disk = some part ∧ Beginning part text)
  unseen : step.seen = []

variable {s : Session} {step : Edited Unit}

theorem isDirty_congr {t : Session} (store : t.store = s.store)
    (pristine : t.pristine = s.pristine) : t.isDirty = s.isDirty := by
  unfold isDirty Session.settings
  rw [store, pristine]

/-- A step is known by the store, the pristine settings and the disk. -/
theorem kept_of_disk (store : step.session.store = s.store)
    (pristine : step.session.pristine = s.pristine)
    (disk : step.session.world.disk = s.world.disk) (unseen : step.seen = []) : Kept s step where
  settings := congrArg Store.settings store
  pristine := pristine
  dirty := isDirty_congr store pristine
  subscribers := congrArg Store.subscribers store
  content _ := by rw [disk]
  stored _ _ := by rw [disk]
  cut isCut := absurd (disk ▸ isCut) (Disk.not_cutOff_self _)
  unseen := unseen

/-! ## Forms -/

/-- A form binding that fails is refused. -/
theorem Bound.of_error {α : Type} {step : Edited α} (bound : Bound s step) {e : ActionError}
    (failed : step.result = .error e) : step = s.refuse e := by
  cases bound with
  | refused e' =>
      cases failed
      rfl
  | changed f => cases failed

theorem form_of_fails {op : Operation} (form : op.isForm = true) (fails : op.Fails s) :
    ∃ e, op.perform s = s.refuse e := by
  cases op with
  | setColor role value =>
      obtain ⟨e, failed⟩ := fails
      exact ⟨e, (bound_setColor s role value).of_error failed⟩
  | setAccent index value =>
      obtain ⟨e, failed⟩ := fails
      exact ⟨e, (bound_setAccent s index value).of_error failed⟩
  | pushAccent value =>
      obtain ⟨e, failed⟩ := fails
      exact ⟨e, (bound_pushAccent s value).of_error failed⟩
  | removeAccent index =>
      obtain ⟨e, failed⟩ := fails
      cases removed : (s.removeAccent index).result with
      | error e' =>
          have refused := (bound_removeAccent s index).of_error removed
          exact ⟨e', congrArg Step.outcome refused⟩
      | ok color =>
          have succeeded : (Operation.perform s (.removeAccent index)).result = .ok () := by
            simp only [Operation.perform, Step.outcome, removed, Except.map]
          rw [succeeded] at failed
          cases failed
  | setFlag name on =>
      obtain ⟨e, failed⟩ := fails
      exact ⟨e, (bound_setFlag s name on).of_error failed⟩
  | setBackendUrl url =>
      obtain ⟨e, failed⟩ := fails
      exact ⟨e, (bound_setBackendUrl s url).of_error failed⟩
  | _ => cases form

/-! ## Actions -/

/-- Generating that fails keeps the error and the supply that the call left. -/
theorem generate_of_fails {ask : Mode → UInt8 → Answer} {mode : Mode}
    (fails : (s.generate ask mode).session.lastError ≠ none) :
    ∃ e, (s.world.supply.fetch ask mode).outcome = .error e ∧
      (s.generate ask mode).session =
        { s with
          world := { s.world with supply := (s.world.supply.fetch ask mode).supply }
          lastError := some (ActionError.ofFetch e) } ∧
      (s.generate ask mode).seen = [] := by
  unfold generate clearError at fails ⊢
  dsimp only at fails ⊢
  split at fails
  · next e failed =>
    rw [failed]
    exact ⟨e, rfl, rfl, rfl⟩
  · exact absurd rfl fails

theorem kept_importFrom {path : String} {e : ActionError}
    (failed : (s.importFrom path).result = .error e) : Kept s (s.importFrom path) := by
  unfold importFrom at failed ⊢
  dsimp only at failed ⊢
  split at failed
  · exact kept_of_disk rfl rfl rfl rfl
  · cases failed

theorem kept_exportTo {directory : String} {e : ActionError}
    (failed : (s.exportTo directory).outcome.result = .error e) :
    Kept s (s.exportTo directory).outcome := by
  obtain ⟨-, disk, pristine⟩ := exportTo_base s directory
  have refused : (∃ e, (s.storage.exportTo s.world.disk directory).1 = .error e) ∧
      (s.exportTo directory).session.store = s.store ∧ (s.exportTo directory).seen = [] := by
    unfold exportTo clearError at failed ⊢
    dsimp only at failed ⊢
    split at failed
    · next e left written => exact ⟨⟨e, congrArg Prod.fst written⟩, rfl, rfl⟩
    · cases failed
  obtain ⟨⟨e', failed'⟩, store, unseen⟩ := refused
  have whole : ¬ CutOff s.world.disk (s.exportTo directory).session.world.disk →
      ∃ stops, (s.exportTo directory).session.world.disk = s.world.disk.withStops stops := by
    rw [disk]
    exact Storage.exportTo_of_error failed'
  refine ⟨congrArg Store.settings store, pristine, ?_, congrArg Store.subscribers store,
    fun uncut => ?_, fun uncut _ => ?_, fun isCut => ?_, unseen⟩
  · exact isDirty_congr store pristine
  · obtain ⟨stops, same⟩ := whole uncut
    exact (congrArg s.storage.content same).trans (Storage.content_withStops _ _ _)
  · obtain ⟨stops, same⟩ := whole uncut
    exact (congrArg (s.storage.get · Storage.settingsKey) same).trans (Storage.get_withStops _ _ _)
  · dsimp only [Step.outcome] at isCut ⊢
    rw [disk] at isCut ⊢
    obtain ⟨text, said, left⟩ := Storage.content_of_export_cut isCut
    exact ⟨text, .inr said, left⟩

theorem kept_save (sound : s.world.disk.Sound) (down : ".." ∉ Disk.segments s.storage.root)
    {e : ActionError} (failed : s.save.result = .error e) : Kept s s.save := by
  obtain ⟨-, disk, -⟩ := save_base s
  have refused : (∃ e, (s.storage.save s.world.disk s.settings).1 = .error e) ∧
      s.save.session.store = s.store ∧ s.save.session.pristine = s.pristine ∧
      s.save.seen = [] := by
    unfold save clearError at failed ⊢
    dsimp only [settings] at failed ⊢
    split at failed
    · next e left written => exact ⟨⟨e, congrArg Prod.fst written⟩, rfl, rfl, rfl⟩
    · cases failed
  obtain ⟨⟨e', failed'⟩, store, pristine, unseen⟩ := refused
  refine ⟨congrArg Store.settings store, pristine, isDirty_congr store pristine,
    congrArg Store.subscribers store, ?_, ?_, ?_, unseen⟩
  · rw [disk]
    exact Storage.content_of_save_error sound down failed'
  · rw [disk]
    exact fun uncut short => Storage.get_of_save_error sound down short failed' uncut
  · rw [disk]
    intro isCut
    obtain ⟨part, left, beginning⟩ := Storage.content_of_save_cut sound down isCut
    exact ⟨_, .inl rfl, .inr ⟨part, left, beginning⟩⟩

/-- **An operation that fails keeps all but the error.** -/
theorem kept_of_fails (sound : s.world.disk.Sound) (down : ".." ∉ Disk.segments s.storage.root)
    {op : Operation} (fails : op.Fails s) : Kept s (op.perform s) := by
  cases form : op.isForm with
  | true =>
      obtain ⟨e, refused⟩ := form_of_fails form fails
      rw [refused]
      exact kept_of_disk rfl rfl rfl rfl
  | false =>
      cases op with
      | generate ask mode =>
          obtain ⟨e, -, session, unseen⟩ := generate_of_fails fails
          have same : (Operation.perform s (.generate ask mode)).session =
              (s.generate ask mode).session := rfl
          rw [session] at same
          refine kept_of_disk ?_ ?_ ?_ unseen
          · rw [same]
          · rw [same]
          · rw [same]
      | importFrom path =>
          obtain ⟨e, failed⟩ := fails
          exact kept_importFrom failed
      | exportTo directory =>
          obtain ⟨e, failed⟩ := fails
          exact kept_exportTo failed
      | save =>
          obtain ⟨e, failed⟩ := fails
          exact kept_save sound down failed
      | reset | subscribe | unsubscribe id | clearError | share supply =>
          -- these have no way to fail
          obtain ⟨e, failed⟩ := fails
          cases failed
      | _ => cases form

/-! ## The supply -/

/-- What is left of a call for a palette that failed: a step in the rotation. -/
structure GaveUp (before after : Supply) : Prop where
  /-- The palettes of both modes. -/
  cache : after.cache = before.cache
  idle : after.fetcher.loading = .both false
  fileCount : after.fetcher.fileCount = before.fetcher.fileCount
  rotated : after.fetcher.nextIndex = before.fetcher.following

theorem gaveUp_of_fails {ask : Mode → UInt8 → Answer} {mode : Mode}
    (fails : (s.generate ask mode).session.lastError ≠ none)
    (rest : s.world.supply.fetcher.AtRest) :
    GaveUp s.world.supply (s.generate ask mode).session.world.supply := by
  obtain ⟨e, failed, session, -⟩ := generate_of_fails fails
  have supply : (s.generate ask mode).session.world.supply =
      { s.world.supply with fetcher := s.world.supply.fetcher.afterRequest mode } := by
    rw [session]
    exact Supply.fetch_of_error failed
  rw [supply]
  exact ⟨rfl, (rest.afterRequest mode).idle, rfl, rest.nextIndex_claim⟩

/-- Form bindings do not use the supply. -/
theorem Bound.supply {α : Type} {step : Edited α} (bound : Bound s step) :
    step.session.world.supply = s.world.supply := by
  cases bound with
  | refused e => rfl
  | changed f => rfl

theorem supply_importFrom (s : Session) (path : String) :
    (s.importFrom path).session.world.supply = s.world.supply := by
  unfold importFrom clearError
  dsimp only
  split <;> rfl

theorem supply_exportTo (s : Session) (directory : String) :
    (s.exportTo directory).session.world.supply = s.world.supply := by
  unfold exportTo clearError
  dsimp only
  split <;> rfl

theorem supply_save (s : Session) : s.save.session.world.supply = s.world.supply := by
  unfold save clearError
  dsimp only
  split <;> rfl

theorem atRest_generate (rest : s.world.supply.fetcher.AtRest) (ask : Mode → UInt8 → Answer)
    (mode : Mode) : (s.generate ask mode).session.world.supply.fetcher.AtRest := by
  have fetched : (s.generate ask mode).session.world.supply.fetcher =
      (s.world.supply.fetch ask mode).supply.fetcher := by
    unfold generate clearError
    dsimp only
    split <;> rfl
  rw [fetched]
  rcases Supply.fetcher_fetch ask mode s.world.supply with kept | asked
  · rw [kept]
    exact rest
  · rw [asked]
    exact rest.afterRequest mode

/-- An operation leaves a fetcher at rest as one, unless others leave it otherwise. -/
theorem atRest_perform (rest : s.world.supply.fetcher.AtRest) {op : Operation}
    (others : ∀ supply, op = .share supply → supply.fetcher.AtRest) :
    (op.perform s).session.world.supply.fetcher.AtRest := by
  have unused : ∀ {t : Session}, t.world.supply = s.world.supply →
      t.world.supply.fetcher.AtRest := by
    intro t same
    rw [same]
    exact rest
  cases op with
  | setColor role value => exact unused (bound_setColor s role value).supply
  | setAccent index value => exact unused (bound_setAccent s index value).supply
  | pushAccent value => exact unused (bound_pushAccent s value).supply
  | removeAccent index => exact unused (bound_removeAccent s index).supply
  | setFlag name on => exact unused (bound_setFlag s name on).supply
  | setBackendUrl url =>
      rw [Operation.perform]
      exact unused (bound_setBackendUrl s url).supply
  | generate ask mode => exact atRest_generate rest ask mode
  | importFrom path => exact unused (supply_importFrom s path)
  | exportTo directory =>
      rw [Operation.perform]
      exact unused (supply_exportTo s directory)
  | save =>
      rw [Operation.perform]
      exact unused (supply_save s)
  | share supply => exact others supply rfl
  | reset | subscribe | unsubscribe id | clearError => exact rest

/-! ## Reachable states -/

variable {storage : Storage}

/-- A session on a storage whose disk is sound. -/
structure Standing (storage : Storage) (s : Session) : Prop where
  on : s.storage = storage
  sound : s.world.disk.Sound

theorem Standing.perform (standing : Standing storage s)
    (down : ".." ∉ Disk.segments storage.root) (op : Operation) :
    Standing storage (op.perform s).session := by
  have sound := standing.sound
  rw [← standing.on] at down
  cases quiet : op.writes with
  | false =>
      have same := sameBase_perform (s := s) quiet
      exact ⟨same.storage.trans standing.on, same.disk ▸ sound⟩
  | true =>
      -- only two operations write to the disk
      cases op with
      | exportTo directory =>
          obtain ⟨sameStorage, disk, -⟩ := exportTo_base s directory
          have sound' := Storage.sound_exportTo sound s.storage directory
          exact ⟨sameStorage.trans standing.on, disk ▸ sound'⟩
      | save =>
          obtain ⟨sameStorage, disk, -⟩ := save_base s
          have sound' := Storage.sound_save sound down s.settings
          exact ⟨sameStorage.trans standing.on, disk ▸ sound'⟩
      | _ => cases quiet

/-- The states that a session on a storage can come to.  Others may write to the disk between
operations, and they may use the supply; `left` tells what is known of it then. -/
inductive Reachable (storage : Storage) (left : Supply → Prop) : Session → Prop where
  | opened {world : World} {s : Session} (sound : world.disk.Sound) (supply : left world.supply)
      (opened : (openOn storage world).1 = .ok s ∨ (openDiscarding storage world).1 = .ok s) :
      Reachable storage left s
  | performed {s : Session} (before : Reachable storage left s) (op : Operation)
      (shared : ∀ supply, op = .share supply → left supply) :
      Reachable storage left (op.perform s).session
  | written {s : Session} (before : Reachable storage left s) {disk : Disk} (sound : disk.Sound) :
      Reachable storage left { s with world := { s.world with disk } }

variable {left : Supply → Prop}

theorem Reachable.standing (down : ".." ∉ Disk.segments storage.root)
    (reachable : Reachable storage left s) : Standing storage s := by
  induction reachable with
  | opened sound supply opened =>
      obtain ⟨settings, rfl⟩ := start_of_opened opened
      exact ⟨rfl, sound⟩
  | performed before op shared ih => exact ih.perform down op
  | written before sound ih => exact ⟨ih.on, sound⟩

/-- While others leave the supply at rest, it is. -/
theorem Reachable.atRest (resting : ∀ supply, left supply → supply.fetcher.AtRest)
    (reachable : Reachable storage left s) : s.world.supply.fetcher.AtRest := by
  induction reachable with
  | opened sound supply opened =>
      obtain ⟨settings, rfl⟩ := start_of_opened opened
      exact resting _ supply
  | performed before op shared ih =>
      exact atRest_perform ih fun supply same => resting supply (shared supply same)
  | written before sound ih => exact ih

/-- **Every operation that fails is atomic.**  In every state that a session can come to, it
keeps the settings, the pristine copy, the subscribers and, if no write is cut off, the stored
document, and calls nobody; a form binding changes nothing at all, and only a save and an export
write.  On a supply at rest, generating goes one file on in the rotation and leaves the palettes
and the signs of loading as they were; and while nobody else has a request under way the supply
is at rest. -/
theorem atomic (down : ".." ∉ Disk.segments storage.root) (reachable : Reachable storage left s)
    {op : Operation} (fails : op.Fails s) :
    Kept s (op.perform s) ∧
      (op.isForm = true → (op.perform s).session = s) ∧
      (op.writes = false → (op.perform s).session.world.disk = s.world.disk) ∧
      (∀ ask mode, op = .generate ask mode → s.world.supply.fetcher.AtRest →
        GaveUp s.world.supply (op.perform s).session.world.supply) ∧
      ((∀ supply, left supply → supply.fetcher.AtRest) → s.world.supply.fetcher.AtRest) := by
  have standing := reachable.standing down
  refine ⟨kept_of_fails standing.sound (standing.on ▸ down) fails, fun form => ?_,
    fun quiet => (sameBase_perform quiet).disk, fun ask mode same rest => ?_,
    fun resting => reachable.atRest resting⟩
  · obtain ⟨e, refused⟩ := form_of_fails form fails
    exact congrArg Step.session refused
  · subst same
    exact gaveUp_of_fails fails rest

/-- Where settings are loaded before a save and none after it, the save has changed what is
stored. -/
theorem changed_of_unloaded {settings : Settings} (s : Session)
    (loaded : s.storage.load s.world.disk = .ok settings)
    (unloaded : ∀ t, s.storage.load s.save.session.world.disk ≠ .ok t) :
    s.storage.get (Operation.save.perform s).session.world.disk Storage.settingsKey ≠
      s.storage.get s.world.disk Storage.settingsKey := fun same =>
  unloaded settings ((Storage.load_congr (Storage.document_congr same)).trans loaded)

/-- On a root that cannot be made, a save that fails changes what is got. -/
theorem changed_of_tooLong {first name : String} {world : World}
    (tooLong : Storage.TooLong first name) (other : first ≠ Storage.exportName)
    (sound : world.disk.Sound)
    (gone : world.disk.node? (world.disk.current ++ [first]) = none) :
    let storage := Storage.below first name
    let s := start storage world .default
    ".." ∉ Disk.segments storage.root ∧ Reachable storage (fun _ => True) s ∧
      Operation.save.Fails s ∧
      storage.get (Operation.save.perform s).session.world.disk Storage.settingsKey ≠
        storage.get s.world.disk Storage.settingsKey := by
  intro storage s
  have loaded : storage.load world.disk = .ok .default :=
    Storage.load_of_missing tooLong sound gone
  obtain ⟨failed, unloaded⟩ := save_of_tooLong (s := s) tooLong rfl sound gone
  exact ⟨(Storage.names_below tooLong other).1,
    .opened sound trivial (.inl (openOn_of_load loaded)), failed,
    changed_of_unloaded s loaded unloaded⟩

/-- **A save that fails may change what is stored.**  On a root with a name that is too long the
document is refused from then on, and on a disk that is full it is emptied. -/
theorem not_atomic_of_failed_save :
    (let storage := Storage.below "a" (letters 256)
    let s := start storage ⟨Disk.blank ["home"], unused⟩ .default
    ".." ∉ Disk.segments storage.root ∧ Reachable storage (fun _ => True) s ∧
      Operation.save.Fails s ∧
      storage.get (Operation.save.perform s).session.world.disk Storage.settingsKey ≠
        storage.get s.world.disk Storage.settingsKey) ∧
    let s := crampedSession
    ".." ∉ Disk.segments s.storage.root ∧ Reachable s.storage (fun _ => True) s ∧
      Operation.save.Fails s ∧
      s.storage.content (Operation.save.perform s).session.world.disk ≠
        s.storage.content s.world.disk := by
  constructor
  · have tooLong : Storage.TooLong "a" (letters 256) := tooLong_letters (by decide) (by decide)
    exact changed_of_tooLong tooLong (by decide) (Disk.sound_blank ["home"]) rfl
  · obtain ⟨failed, unloaded⟩ := save_cramped
    have opened : (openOn crampedSession.storage crampedSession.world).1 = .ok crampedSession :=
      openOn_of_load load_cramped
    have changed := changed_of_unloaded crampedSession load_cramped unloaded
    exact ⟨by decide, .opened sound_cramped trivial (.inl opened), failed,
      Storage.content_ne content_cramped changed⟩

/-- A service that cannot be reached. -/
def unreachable : Mode → UInt8 → Answer :=
  fun _ _ => ⟨.error (.transport "" ""), []⟩

/-- A new session in which an accent was added. -/
def accented : Session :=
  ((Operation.pushAccent "#fff").perform blankSession).session

/-- Asking a service that cannot be reached moves on to the second file and changes nothing
else. -/
theorem atomic_unreachable :
    let op := Operation.generate unreachable .dark
    Reachable ⟨"notes/theme"⟩ (fun supply => supply.fetcher.AtRest) accented ∧
      op.Fails accented ∧ Kept accented (op.perform accented) ∧
      GaveUp accented.world.supply (op.perform accented).session.world.supply := by
  intro op
  have down : ".." ∉ Disk.segments (Storage.mk "notes/theme").root := by decide
  have rest : unused.fetcher.AtRest := ⟨rfl, by decide, by decide, by decide⟩
  have opened : (openOn ⟨"notes/theme"⟩ ⟨Disk.blank ["home"], unused⟩).1 = .ok blankSession := rfl
  have first : Reachable ⟨"notes/theme"⟩ (fun supply => supply.fetcher.AtRest) blankSession :=
    .opened (Disk.sound_blank ["home"]) rest (.inl opened)
  have reachable : Reachable ⟨"notes/theme"⟩ (fun supply => supply.fetcher.AtRest) accented :=
    .performed first (.pushAccent "#fff") nofun
  have fails : op.Fails accented := by
    have recorded : (accented.generate unreachable .dark).session.lastError =
        some (ActionError.ofFetch (.transport "" "")) := rfl
    exact fun none => nomatch recorded.symm.trans none
  obtain ⟨kept, -, -, gaveUp, resting⟩ := atomic down reachable fails
  exact ⟨reachable, fails, kept, gaveUp _ _ rfl (resting fun _ atRest => atRest)⟩

end Session

end ThemeEditor
