/-
# ThemeEditor.Proofs.Session.Baseline -- three copies of the settings

A session edits one copy of the settings and keeps a pristine one, and the disk
holds a third.  Along every run of a session the pristine copy is what the disk
gives back, and both are the settings of the last successful save (`Backed`,
`Backed.run`).  So the session is dirty exactly when the edited copy differs from
them, and closing it without saving returns them (`backed_by_last_save`).

Two things come between the settings and the disk (`unreadable_after_failed_save`).
A write may be cut off when the stored document is already open; until a save succeeds
the document then may not be loaded, though it never gives other settings.  And the disk
may not hold a name of the root.  Below a missing directory such a root reads as empty;
the save that cannot make it makes the missing directory, and then the settings cannot
be loaded any more.  Such names are left out.
-/
import ThemeEditor.Proofs.Session.Operation
import ThemeEditor.Proofs.Storage.Anywhere
import ThemeEditor.Proofs.Storage.LongName

namespace ThemeEditor

set_option autoImplicit false

open Storage (Damaged Leaves Placed Rooted Stores TooLong)

namespace Operation

/-- The settings that are persisted after an operation. -/
def persists (s : Session) (persisted : Settings) (op : Operation) : Settings :=
  match op, (op.perform s).result with
  | save, .ok () => s.settings
  | _, _ => persisted

/-- Whether the stored document is damaged after an operation: since the last successful save a
write to it was cut off. -/
def damages (s : Session) (was : Prop) (op : Operation) : Prop :=
  match op, (op.perform s).result with
  | save, .ok () => False
  | _, _ => was ∨ Damaged s.storage s.world.disk (op.perform s).session.world.disk

/-- The settings as of the last successful save, or `persisted` if there was none. -/
def lastSaved : Session → Settings → List Operation → Settings
  | _, persisted, [] => persisted
  | s, persisted, op :: ops => lastSaved (op.perform s).session (op.persists s persisted) ops

/-- Whether the stored document is damaged after some operations. -/
def damagedBy : Session → Prop → List Operation → Prop
  | _, was, [] => was
  | s, was, op :: ops => damagedBy (op.perform s).session (op.damages s was) ops

theorem persists_of_quiet {op : Operation} (quiet : op.writes = false) (s : Session)
    (persisted : Settings) : op.persists s persisted = persisted := by
  cases op with
  | save => cases quiet
  | _ => rfl

theorem damages_of_quiet {op : Operation} (quiet : op.writes = false) (s : Session)
    (was : Prop) : op.damages s was ↔ was := by
  have disk := (Session.sameBase_perform (s := s) quiet).disk
  have undamaged : ¬ Damaged s.storage s.world.disk (op.perform s).session.world.disk := by
    rw [disk]
    exact fun damaged => damaged.2 rfl
  cases op with
  | save => cases quiet
  | _ => exact or_iff_left undamaged

end Operation

namespace Session

/-- The pristine settings of a session on a storage are `persisted`, and so are those on
the disk, unless the document was damaged. -/
structure Backed (storage : Storage) (s : Session) (persisted : Settings) (damaged : Prop) :
    Prop where
  on : s.storage = storage
  placed : Placed storage s.world.disk
  loaded : ¬ damaged → storage.load s.world.disk = .ok persisted
  /-- Damaged or not, nothing else is loaded. -/
  leaves : Leaves storage s.world.disk (· = persisted)
  pristine : s.pristine = persisted

variable {storage : Storage} {s : Session} {persisted : Settings} {damaged : Prop}

/-! ## One step -/

/-- What an operation stores that saves nothing backs the session as before. -/
theorem Backed.stores {s' : Session} (backed : Backed storage s persisted damaged)
    (sameStorage : s'.storage = s.storage) (pristine : s'.pristine = s.pristine)
    (stores : Stores storage s.world.disk none s'.world.disk) :
    Backed storage s' persisted (damaged ∨ Damaged storage s.world.disk s'.world.disk) where
  on := sameStorage.trans backed.on
  placed := stores.placed
  loaded sound := by
    rw [not_or] at sound
    exact (stores.loaded fun _ => sound.2).trans (backed.loaded sound.1)
  leaves := stores.leaves backed.leaves nofun
  pristine := pristine.trans backed.pristine

theorem Backed.sameBase {s' : Session} (backed : Backed storage s persisted damaged)
    (same : SameBase s s') : Backed storage s' persisted damaged where
  on := same.storage.trans backed.on
  placed := same.disk ▸ backed.placed
  loaded := same.disk ▸ backed.loaded
  leaves := same.disk ▸ backed.leaves
  pristine := same.pristine.trans backed.pristine

theorem exportTo_base (s : Session) (directory : String) :
    (s.exportTo directory).session.storage = s.storage ∧
      (s.exportTo directory).session.world.disk =
        (s.storage.exportTo s.world.disk directory).2 ∧
      (s.exportTo directory).session.pristine = s.pristine := by
  unfold exportTo clearError
  dsimp only
  split
  · next written =>
    rw [written]
    exact ⟨rfl, rfl, rfl⟩
  · next written =>
    rw [written]
    exact ⟨rfl, rfl, rfl⟩

/-- A session exports where its storage does. -/
theorem exportTo_eq_ok {directory path : String} : (s.exportTo directory).result = .ok path ↔
    (s.storage.exportTo s.world.disk directory).1 = .ok path := by
  unfold exportTo clearError
  dsimp only
  split
  · next written =>
    rw [written]
    exact ⟨nofun, nofun⟩
  · next written =>
    rw [written]
    simp only [Except.ok.injEq]

/-- A save ends with what the storage says of it. -/
theorem save_base (s : Session) :
    s.save.session.storage = s.storage ∧
      s.save.session.world.disk = (s.storage.save s.world.disk s.settings).2 ∧
      s.save.session.pristine =
        (Storage.savedBy s.settings (s.storage.save s.world.disk s.settings).1).getD s.pristine ∧
      (s.save.result = .ok () ↔ (s.storage.save s.world.disk s.settings).1 = .ok ()) := by
  unfold Session.save clearError
  dsimp only [settings]
  split
  · next failed =>
    rw [failed]
    exact ⟨rfl, rfl, rfl, nofun, nofun⟩
  · next saved =>
    rw [saved]
    exact ⟨rfl, rfl, rfl, fun _ => rfl, fun _ => rfl⟩

theorem save_of_error {e : Storage.Error}
    (failed : (s.storage.save s.world.disk s.settings).1 = .error e) :
    s.save.result = .error e.toActionError := by
  unfold Session.save clearError
  dsimp only [settings] at failed ⊢
  split
  · next written =>
    rw [written] at failed
    cases failed
    rfl
  · next written =>
    rw [written] at failed
    cases failed

/-- A save backs the session with what it saved, or as before. -/
theorem Backed.save (backed : Backed storage s persisted damaged) :
    Backed storage s.save.session (Operation.save.persists s persisted)
      (Operation.save.damages s damaged) := by
  obtain ⟨sameStorage, disk, pristine, succeeds⟩ := save_base s
  have stores := backed.placed.save s.settings
  rw [← backed.on] at stores
  have result : (Operation.save.perform s).result = s.save.result := rfl
  have left : (Operation.save.perform s).session = s.save.session := rfl
  unfold Operation.persists Operation.damages
  rw [result, left]
  cases ended : (s.storage.save s.world.disk s.settings).1 with
  | ok done =>
      rw [ended] at pristine stores
      rw [succeeds.2 ended]
      rw [← disk, backed.on] at stores
      have loaded := stores.loaded nofun
      exact ⟨sameStorage.trans backed.on, stores.placed, fun _ => loaded,
        Storage.leaves_of_load loaded rfl, pristine⟩
  | error e =>
      rw [ended] at pristine stores
      rw [save_of_error ended]
      rw [← disk, backed.on] at stores
      rw [backed.on]
      exact backed.stores sameStorage pristine stores

/-- No operation separates the pristine settings from those on the disk, unless it damages
these. -/
theorem Backed.perform (backed : Backed storage s persisted damaged) (op : Operation) :
    Backed storage (op.perform s).session (op.persists s persisted) (op.damages s damaged) := by
  cases quiet : op.writes with
  | false =>
      rw [Operation.persists_of_quiet quiet]
      rw [propext (Operation.damages_of_quiet quiet s damaged)]
      exact backed.sameBase (sameBase_perform quiet)
  | true =>
      cases op with
      | exportTo directory =>
          obtain ⟨sameStorage, disk, pristine⟩ := exportTo_base s directory
          have stores := backed.placed.exportTo directory
          rw [← backed.on, ← disk, backed.on] at stores
          have next := backed.stores sameStorage pristine stores
          rw [← backed.on] at next ⊢
          exact next
      | save => exact backed.save
      | _ => cases quiet

/-! ## A whole run -/

theorem Backed.run : ∀ (ops : List Operation) {s : Session} {persisted : Settings} {damaged : Prop},
    Backed storage s persisted damaged →
      Backed storage (Operation.run s ops) (Operation.lastSaved s persisted ops)
        (Operation.damagedBy s damaged ops)
  | [], _, _, _, backed => backed
  | op :: ops, _, _, _, backed => Backed.run ops (backed.perform op)

theorem openOn_of_load {world : World} (loaded : storage.load world.disk = .ok persisted) :
    (openOn storage world).1 = .ok (start storage world persisted) := by
  unfold openOn
  rw [loaded]

theorem openOn_eq_ok {world : World} (opened : (openOn storage world).1 = .ok s) :
    storage.load world.disk = .ok s.settings ∧ s = start storage world s.settings := by
  unfold openOn at opened
  dsimp only at opened
  split at opened
  · next loaded =>
    cases opened
    exact ⟨loaded, rfl⟩
  · cases opened

/-- However a session is opened, it starts on the world that is there. -/
theorem start_of_opened {world : World}
    (opened : (openOn storage world).1 = .ok s ∨ (openDiscarding storage world).1 = .ok s) :
    ∃ settings, s = start storage world settings := by
  have onLoaded : ∀ {s : Session}, (openOn storage world).1 = .ok s →
      ∃ settings, s = start storage world settings := by
    intro s opened
    exact ⟨_, (openOn_eq_ok opened).2⟩
  rcases opened with opened | opened
  · exact onLoaded opened
  · unfold openDiscarding at opened
    split at opened
    · cases opened
      exact ⟨_, rfl⟩
    · exact onLoaded opened

/-- A session starts backed by what it loaded. -/
theorem backed_openOn {world : World} (sound : world.disk.Sound)
    (rooted : Rooted storage world.disk) (opened : (openOn storage world).1 = .ok s) :
    Backed storage s s.settings False := by
  obtain ⟨loaded, same⟩ := openOn_eq_ok opened
  have placed := Storage.placed_of_load sound rooted loaded
  rw [same]
  exact ⟨rfl, placed, fun _ => loaded, Storage.leaves_of_load loaded rfl, rfl⟩

theorem Backed.isDirty_iff (backed : Backed storage s persisted damaged) :
    s.isDirty = true ↔ s.settings ≠ persisted := by
  rw [isDirty, backed.pristine]
  exact bne_iff_ne

theorem close_discarding (s : Session) :
    (s.close false).result = .ok s.pristine ∧
      (s.close false).session.world.disk = s.world.disk := by
  unfold close
  rw [if_neg Bool.false_ne_true]
  split
  · exact ⟨rfl, rfl⟩
  · exact ⟨rfl, rfl⟩

/-- Closing with a save returns what is saved, or what the save failed with. -/
theorem close_saving (s : Session) :
    (s.close true).result = s.save.result.map (fun _ => s.save.session.pristine) ∧
      (s.close true).session = s.save.session :=
  ⟨rfl, rfl⟩

theorem close_of_error {e : ActionError} (failed : s.save.result = .error e) :
    (s.close true).result = .error e := by
  rw [(close_saving s).1, failed]
  rfl

/-- **Whatever happens to a session, the settings of its last successful save are the ones
that edits are measured against, and that closing returns to.**  They are also the ones that are
loaded, unless a write to the document was cut off since then; and even so no others are. -/
theorem backed_by_last_save {world : World} (sound : world.disk.Sound)
    (rooted : Rooted storage world.disk) (opened : (openOn storage world).1 = .ok s)
    (ops : List Operation) :
    let now := Operation.run s ops
    let persisted := Operation.lastSaved s s.settings ops
    (¬ Operation.damagedBy s False ops → storage.load now.world.disk = .ok persisted) ∧
      (∀ loaded, storage.load now.world.disk = .ok loaded → loaded = persisted) ∧
      (now.isDirty = true ↔ now.settings ≠ persisted) ∧
      (now.close false).result = .ok persisted ∧
      (now.close false).session.world.disk = now.world.disk := by
  intro now persisted
  have backed : Backed storage now persisted (Operation.damagedBy s False ops) :=
    (backed_openOn sound rooted opened).run ops
  obtain ⟨result, disk⟩ := close_discarding now
  exact ⟨backed.loaded, fun _ loaded => backed.leaves.of_load loaded, backed.isDirty_iff,
    result.trans (congrArg _ backed.pristine), disk⟩

/-! ## Steady disks -/

theorem stops_perform (s : Session) (op : Operation) :
    (op.perform s).session.world.disk.stops <:+ s.world.disk.stops := by
  cases quiet : op.writes with
  | false =>
      have same := (sameBase_perform (s := s) quiet).disk
      exact same ▸ List.suffix_rfl
  | true =>
      cases op with
      | exportTo directory =>
          have disk : ((Operation.exportTo directory).perform s).session.world.disk = _ :=
            (exportTo_base s directory).2.1
          rw [disk]
          exact Storage.stops_exportTo s.storage s.world.disk directory
      | save =>
          have disk : (Operation.save.perform s).session.world.disk = _ := (save_base s).2.1
          rw [disk]
          exact Storage.stops_save s.storage s.world.disk s.settings
      | _ => cases quiet

/-- Where nothing is stopped nothing is damaged. -/
theorem not_damagedBy : ∀ (ops : List Operation) {s : Session} {was : Prop},
    s.world.disk.Steady → ¬ was → ¬ Operation.damagedBy s was ops
  | [], _, _, _, undamaged => undamaged
  | op :: ops, s, was, steady, undamaged => by
      refine not_damagedBy ops (steady.of_suffix (stops_perform s op)) ?_
      unfold Operation.damages
      split
      · exact id
      · rw [not_or]
        exact ⟨undamaged, fun damaged => steady.not_cutOff damaged.1⟩

/-- A supply that nobody has used. -/
def unused : Supply :=
  ⟨.empty, .new, ⟨fun _ => 0, 0⟩⟩

/-- A service without palettes. -/
def noPalettes : Mode → UInt8 → Answer :=
  fun _ _ => ⟨.ok ⟨[]⟩, []⟩

/-- A session on a blank disk, whose storage is still to be made. -/
def blankSession : Session :=
  start ⟨"notes/theme"⟩ ⟨Disk.blank ["home"], unused⟩ .default

/-- An accent is added and saved; after a reset the saved document is exported over itself. -/
def saveAndExport : List Operation :=
  [.pushAccent "#fff", .save, .reset, .exportTo "notes/theme"]

/-- The settings that it saves. -/
def withAccent : Settings :=
  { Settings.default with accents := Settings.default.accents ++ [⟨"#fff"⟩] }

theorem lastSaved_saveAndExport :
    Operation.lastSaved blankSession blankSession.settings saveAndExport = withAccent := rfl

/-- The session of a blank disk keeps the accent that it saved. -/
theorem backed_saveAndExport :
    (Disk.blank ["home"]).Sound ∧ Rooted ⟨"notes/theme"⟩ (Disk.blank ["home"]) ∧
      (openOn ⟨"notes/theme"⟩ ⟨Disk.blank ["home"], unused⟩).1 = .ok blankSession ∧
      (Storage.mk "notes/theme").load (Operation.run blankSession saveAndExport).world.disk =
        .ok withAccent ∧
      ((Operation.run blankSession saveAndExport).isDirty = true ↔
        (Operation.run blankSession saveAndExport).settings ≠ withAccent) ∧
      ((Operation.run blankSession saveAndExport).close false).result = .ok withAccent := by
  have sound : (Disk.blank ["home"]).Sound := Disk.sound_blank ["home"]
  have rooted : Rooted ⟨"notes/theme"⟩ (Disk.blank ["home"]) :=
    ⟨by decide, .inr ⟨by decide, by decide⟩⟩
  have opened : (openOn ⟨"notes/theme"⟩ ⟨Disk.blank ["home"], unused⟩).1 = .ok blankSession := rfl
  have backed := backed_by_last_save sound rooted opened saveAndExport
  simp only [lastSaved_saveAndExport] at backed
  obtain ⟨loaded, -, dirty, closed, -⟩ := backed
  have steady : blankSession.world.disk.Steady := List.forall_mem_nil _
  exact ⟨sound, rooted, opened, loaded (not_damagedBy saveAndExport steady id), dirty, closed⟩

/-! ## Roots that cannot be made -/

/-- A name of `n` letters. -/
def letters (n : Nat) : String :=
  String.ofList (List.replicate n 'x')

theorem utf8ByteSize_letters (n : Nat) : (letters n).utf8ByteSize = n := by
  induction n with
  | zero => rfl
  | succ n ih =>
      have first : letters (n + 1) = "x" ++ letters n := by
        simp [letters, List.replicate_succ]
      have one : "x".utf8ByteSize = 1 := by decide
      rw [first, String.utf8ByteSize_append, ih, one]
      omega

/-- Letters that are too many for a name. -/
theorem tooLong_letters {n : Nat} (long : Disk.maxNameSize < n) (path : n ≤ 3000) :
    TooLong "a" (letters n) := by
  have spelled : (letters n).toList = List.replicate n 'x' := String.toList_ofList
  have size := utf8ByteSize_letters n
  have other : ∀ text : String, text.utf8ByteSize ≤ Disk.maxNameSize → letters n ≠ text := by
    rintro text short rfl
    rw [size] at short
    omega
  refine ⟨⟨by decide, by decide, by decide⟩, by decide, ⟨?_, ?_, other _ (by decide)⟩,
    size.symm ▸ long, size.symm ▸ path, ?_⟩
  · rw [spelled]
    simp [List.mem_replicate]
  · simp [Disk.isStay, other "" (by decide), other "." (by decide)]
  · rw [spelled]
    simp [List.mem_replicate]

section

variable {first name : String} (tooLong : TooLong first name)

include tooLong

/-- On such a root a save fails, and then the settings cannot be loaded any more. -/
theorem save_of_tooLong {s : Session} (on : s.storage = Storage.below first name)
    (sound : s.world.disk.Sound)
    (gone : s.world.disk.node? (s.world.disk.current ++ [first]) = none) :
    (∃ e, s.save.result = .error e) ∧
      ∀ t, s.storage.load s.save.session.world.disk ≠ .ok t := by
  have saved := Storage.save_of_missing tooLong sound gone s.settings
  rw [← on] at saved
  obtain ⟨-, disk, -⟩ := save_base s
  have failed := congrArg Prod.fst saved
  have now := disk.trans (congrArg Prod.snd saved)
  have made := Disk.node?_put_self (d := s.world.disk)
    (by simp : s.world.disk.current ++ [first] ≠ []) .directory
  refine ⟨⟨_, save_of_error failed⟩, fun t loaded => ?_⟩
  rw [now, on] at loaded
  exact nomatch (Storage.load_of_made tooLong (Storage.sound_made sound gone) made).symm.trans
    loaded

/-- A session opens with the built-in settings, and once a save has failed they are not there any
more. -/
theorem unreadable_of_tooLong {world : World} (other : first ≠ Storage.exportName)
    (sound : world.disk.Sound) (gone : world.disk.node? (world.disk.current ++ [first]) = none) :
    let storage := Storage.below first name
    let s := start storage world .default
    ".." ∉ Disk.segments storage.root ∧ Storage.exportName ∉ Disk.segments storage.root ∧
      (openOn storage world).1 = .ok s ∧
      storage.load (Operation.run s [.save]).world.disk ≠
        .ok (Operation.lastSaved s s.settings [.save]) := by
  intro storage s
  obtain ⟨down, other'⟩ := Storage.names_below tooLong other
  obtain ⟨-, unloaded⟩ := save_of_tooLong (s := s) tooLong rfl sound gone
  exact ⟨down, other', openOn_of_load (Storage.load_of_missing tooLong sound gone), unloaded _⟩

end

/-! ## Disks that are full -/

/-- A disk with a document in a storage. -/
def holding (bytes : ByteArray) : Disk :=
  ((Disk.blank ["home"]).put ["home", "theme"] .directory).put ["home", "theme", "settings.json"]
    (.file bytes)

theorem sound_holding (bytes : ByteArray) : (holding bytes).Sound := by
  have root : ((Disk.blank ["home"]).put (["home"] ++ ["theme"]) .directory).Sound :=
    (Disk.sound_blank ["home"]).put rfl (by decide) .directory
  have document : (((Disk.blank ["home"]).put ["home", "theme"] .directory).put
      (["home", "theme"] ++ ["settings.json"]) (.file bytes)).Sound :=
    root.put rfl (by decide) _
  exact document

theorem content_holding (bytes : ByteArray) :
    (Storage.mk "theme").content (holding bytes) = some bytes := rfl

theorem load_holding {text : String} {s : Settings} (decoded : Settings.decode text = .ok s) :
    (Storage.mk "theme").load (holding text.toUTF8) = .ok s :=
  Storage.load_eq_ok.2 ⟨some text, Storage.get_text_iff.2 (content_holding _), decoded⟩

theorem run_save (s : Session) : Operation.run s [.save] = s.save.session := rfl

/-- A save over a document is cut off on a full disk, and then nothing is loaded. -/
theorem save_of_full {s : Session} {bytes : ByteArray} {room : Nat} {words : String}
    {stops : List (Option Disk.Stop)} (held : s.storage.content s.world.disk = some bytes)
    (told : s.world.disk.stops = some (.full room words) :: stops) :
    (∃ e, s.save.result = .error e) ∧ ∀ t, s.storage.load s.save.session.world.disk ≠ .ok t := by
  obtain ⟨-, disk, -⟩ := save_base s
  obtain ⟨e, d', saved, -, put⟩ := Storage.cut_of_full held told s.settings
  have some_bytes : s.settings.encodeIndented.toUTF8.size ≠ 0 :=
    mt String.utf8ByteSize_eq_zero_iff.1 s.settings.encodeIndented_ne
  rw [saved] at disk
  refine ⟨⟨_, save_of_error (congrArg Prod.fst saved)⟩, fun t => ?_⟩
  rw [disk]
  exact Storage.unloaded_of_beginning put (Disk.beginning_part room some_bytes)

/-- A session on a disk that is full, with an empty document. -/
def crampedSession : Session :=
  start ⟨"theme"⟩ ⟨(holding "[]".toUTF8).full, unused⟩ .default

theorem sound_cramped : crampedSession.world.disk.Sound :=
  (sound_holding "[]".toUTF8).withStops _

theorem content_cramped :
    crampedSession.storage.content crampedSession.world.disk = some "[]".toUTF8 :=
  (Storage.content_withStops _ _ _).trans (content_holding _)

theorem load_cramped : crampedSession.storage.load crampedSession.world.disk = .ok .default :=
  (Storage.load_withStops _ _ _).trans (load_holding rfl)

theorem save_cramped : (∃ e, crampedSession.save.result = .error e) ∧
    ∀ t, crampedSession.storage.load crampedSession.save.session.world.disk ≠ .ok t :=
  save_of_full content_cramped (Disk.stops_withStops _ _)

/-- **A failed save may leave settings that cannot be loaded**, on a root with a name that is too
long and on a disk that is full. -/
theorem unreadable_after_failed_save :
    (let storage := Storage.below "a" (letters 256)
    let s := start storage ⟨Disk.blank ["home"], unused⟩ .default
    (Disk.blank ["home"]).Sound ∧ ".." ∉ Disk.segments storage.root ∧
      Storage.exportName ∉ Disk.segments storage.root ∧
      (openOn storage ⟨Disk.blank ["home"], unused⟩).1 = .ok s ∧
      storage.load (Operation.run s [.save]).world.disk ≠
        .ok (Operation.lastSaved s s.settings [.save])) ∧
    let s := crampedSession
    s.world.disk.Sound ∧ Rooted s.storage s.world.disk ∧
      (openOn s.storage s.world).1 = .ok s ∧
      s.storage.load (Operation.run s [.save]).world.disk ≠
        .ok (Operation.lastSaved s s.settings [.save]) := by
  constructor
  · have tooLong : TooLong "a" (letters 256) := tooLong_letters (by decide) (by decide)
    exact ⟨Disk.sound_blank ["home"],
      unreadable_of_tooLong tooLong (by decide) (Disk.sound_blank ["home"]) rfl⟩
  · obtain ⟨-, unloaded⟩ := save_cramped
    have rooted : Rooted crampedSession.storage crampedSession.world.disk :=
      ⟨by decide, .inr ⟨by decide, by decide⟩⟩
    have opened : (openOn crampedSession.storage crampedSession.world).1 = .ok crampedSession :=
      openOn_of_load load_cramped
    refine ⟨sound_cramped, rooted, opened, ?_⟩
    rw [run_save]
    exact unloaded _

end Session

end ThemeEditor
